/-
**The conversions of a family.**

The first phase of a read of a family starts its conversions: temperatures on every channel that has
a registered device of the family, with one conversion for all devices of the line, and other
quantities on each of the registered devices. Each line may do anything meanwhile.

* `Rounds`: exchanges one after the other, up to the first that fails;
* `Registry.Warms`, `Registry.Prompts`: what is sent to start a conversion;
* `Registry.Starts`: what is sent to start all conversions of a family;
* `Registry.Exchanges`: calls are made, and the lines of all other channels stay as they are;
* `Registry.Sends`: what an action sends on the lines of a registry;
* `Command.sends_sampleChannels`, `Command.sends_sampleDevices`: the conversions of a family are
  rounds;
* `Bridge.turn_samples`: **what a turn sends and tells** when it takes a read of a family in its
  first phase.
-/

import WireBridge.Proofs.Bridge.Causes
import WireBridge.Proofs.Bridge.Fetching
import WireBridge.Proofs.Device.Talking

namespace WireBridge

open WireBridge.Action (Leads)
open Sim (Line)

variable {β ω ε ι α : Type}

/-! ### Calls on all lines -/

/-- A call on the line of a channel. -/
abbrev LineCall := ChannelId × BusCall

/-- The bus masters of all lines with one log of their calls. -/
def logging (lines : ChannelId → Master (β × ω) ε) (id : ChannelId) :
    Master (β × (ω × List LineCall)) ε :=
  (lines id).logged (id, ·)

theorem notes_logging (lines : ChannelId → Master (β × ω) ε) (id : ChannelId) :
    (logging lines id).Notes (fun state => state.2.2) (id, ·) :=
  (lines id).notes_logged (id, ·)

/-- Exchanges for some items, one after the other, with all calls in order and whether all of them
went well. The first that does not is the last. -/
inductive Rounds (exchange : ι → List LineCall → Bool → Prop) : List ι → List LineCall → Bool → Prop
  | done : Rounds exchange [] [] true
  | goesOn {item : ι} {rest : List ι} {calls others : List LineCall} {ok : Bool}
      (here : exchange item calls true) (later : Rounds exchange rest others ok) :
      Rounds exchange (item :: rest) (calls ++ others) ok
  | stops {item : ι} {rest : List ι} {calls : List LineCall} (here : exchange item calls false) :
      Rounds exchange (item :: rest) calls false

/-- A driver starts a conversion on the line of its channel, and whether it did. Its calls are
listed with the latest first. -/
def Device.Samples (lines : ChannelId → Master (β × ω) ε) (quantity : Quantity) (device : Device)
    (calls : List BusCall) (ok : Bool) : Prop :=
  ∃ line world notes outcome changed lineAfter worldAfter,
    (Device.sample (logging lines device.channel) quantity).perform
        (device, (line, (world, notes))) =
      (outcome,
        (changed, (lineAfter, (worldAfter, calls.map (device.channel, ·) ++ notes)))) ∧
      outcome.toBool = ok

namespace Registry

/-! ### Exchanges -/

/-- What is sent to convert the temperatures of a channel, and whether that was done: one broadcast
on its line, if there is such a channel. -/
inductive Warms (known : List ChannelId) (id : ChannelId) : List LineCall → Bool → Prop
  | unknown (absent : id ∉ known) : Warms known id [] false
  | asked {sent : List BusCall} {ok : Bool} (present : id ∈ known)
      (broadcasts : BusCall.Broadcasts sent ok) : Warms known id (sent.map (id, ·)) ok

/-- What is sent to convert a quantity on a registered device, and whether that was done: the calls
of its driver, which are all to the device, and the last of which starts the conversion. -/
inductive Prompts (lines : ChannelId → Master (β × ω) ε) (quantity : Quantity)
    (known : List ChannelId) (entry : Address × Device) : List LineCall → Bool → Prop
  | unknown (absent : entry.2.channel ∉ known) : Prompts lines quantity known entry [] false
  | failed {calls : List BusCall} (present : entry.2.channel ∈ known)
      (ran : entry.2.Samples lines quantity calls false)
      (own : calls = [] ∨ BusCall.Addresses entry.2.address calls) :
      Prompts lines quantity known entry (calls.reverse.map (entry.2.channel, ·)) false
  | started {calls : List BusCall} (present : entry.2.channel ∈ known)
      (ran : entry.2.Samples lines quantity calls true)
      (own : BusCall.Converts entry.2.address calls) :
      Prompts lines quantity known entry (calls.reverse.map (entry.2.channel, ·)) true

/-- Calls are made on the lines of a registry. They are logged, and all other channels stay as they
are. -/
structure Exchanges (before : Registry β × (ω × List LineCall)) (calls : List LineCall)
    (after : Registry β × (ω × List LineCall)) : Prop where
  logged : after.2.2 = calls.reverse ++ before.2.2
  ids : after.1.marks Channel.id = before.1.marks Channel.id
  quiet : ∀ (place : Nat) (channel : Channel β), before.1.channels[place]? = some channel →
    (∀ call ∈ calls, call.1 ≠ channel.id) → after.1.channels[place]? = some channel

theorem Exchanges.refl (state : Registry β × (ω × List LineCall)) : Exchanges state [] state :=
  ⟨rfl, rfl, fun _ _ there _ => there⟩

theorem Exchanges.trans {before between after : Registry β × (ω × List LineCall)}
    {calls others : List LineCall} (first : Exchanges before calls between)
    (second : Exchanges between others after) : Exchanges before (calls ++ others) after where
  logged := by
    rw [second.logged, first.logged, List.reverse_append, List.append_assoc]
  ids := second.ids.trans first.ids
  quiet place channel there silent := by
    obtain ⟨here, later⟩ := List.forall_mem_append.mp silent
    exact second.quiet place channel (first.quiet place channel there here) later

/-- What an action sends on the lines of a registry, and whether it yields a result. -/
def Sends (said : List LineCall → Bool → Prop) (before : Registry β × (ω × List LineCall))
    (action : Action (Registry β × (ω × List LineCall)) ε α) : Prop :=
  Leads (· = before) action
    (fun _ after => ∃ calls, said calls true ∧ Exchanges before calls after)
    fun after => ∃ calls, said calls false ∧ Exchanges before calls after

section Sends

variable {said wanted : List LineCall → Bool → Prop} {before : Registry β × (ω × List LineCall)}
  {action : Action (Registry β × (ω × List LineCall)) ε α}

theorem Sends.mono (sends : Sends said before action)
    (weaker : ∀ calls ok, said calls ok → wanted calls ok) : Sends wanted before action :=
  Leads.mono sends
    (fun _ _ ⟨calls, known, exchanges⟩ => ⟨calls, weaker calls true known, exchanges⟩)
    fun _ ⟨calls, known, exchanges⟩ => ⟨calls, weaker calls false known, exchanges⟩

theorem Sends.mapError {ε' : Type} {rename : ε → ε'} (sends : Sends said before action) :
    Sends said before (action.mapError rename) :=
  Action.leads_mapError sends

/-- What an action sends does not depend on what is made of its result. -/
theorem Sends.map {γ : Type} (sends : Sends said before action) (change : α → γ) :
    Sends said before (action >>= fun value => pure (change value)) :=
  Action.leads_bind _ sends fun _ => Action.leads_pure fun _ here => here

end Sends

/-- What is heard on the line of one channel. -/
theorem exchanges_of_heard {before after : Registry β × (ω × List LineCall)} {id : ChannelId}
    {place : Nat} {channel : Channel β} {line : β} {calls : List BusCall}
    (found : before.1.place? id = some place) (there : before.1.channels[place]? = some channel)
    (changed : after.1.channels = before.1.channels.set place { channel with line := line })
    (noted : after.2.2 = calls.map (id, ·) ++ before.2.2)
    (silent : calls = [] → line = channel.line) :
    Exchanges before (calls.reverse.map (id, ·)) after where
  logged := by
    rw [← List.map_reverse, List.reverse_reverse]
    exact noted
  ids := by
    unfold marks
    rw [changed]
    exact Channel.map_mark_set there rfl
  quiet other known elsewhere quiet := by
    rw [changed]
    by_cases same : place = other
    · subst same
      obtain rfl : channel = known := Option.some.inj (there.symm.trans elsewhere)
      obtain ⟨_, again, own⟩ := exists_of_place found
      obtain rfl := Option.some.inj (there.symm.trans again)
      by_cases none : calls = []
      · rw [silent none]
        exact List.getElem?_set_self (List.getElem?_eq_some_iff.mp there).1
      · obtain ⟨call, member⟩ := List.exists_mem_of_ne_nil calls none
        exact absurd own.symm
          (quiet (id, call) (List.mem_map_of_mem (List.mem_reverse.mpr member)))
    · rw [List.getElem?_set_ne same]
      exact elsewhere

variable {lines : ChannelId → Master (β × ω) ε} {family : FamilyCode} {quantity : Quantity}

theorem not_mem_of_unknown {registry : Registry β} {id : ChannelId}
    (unknown : registry.place? id = none) : id ∉ registry.marks Channel.id := by
  intro member
  obtain ⟨channel, inside, same⟩ := List.mem_map.mp member
  exact absurd same (by simpa using List.findIdx?_eq_none_iff.mp unknown channel inside)

theorem mem_of_place {registry : Registry β} {id : ChannelId} {place : Nat}
    (found : registry.place? id = some place) : id ∈ registry.marks Channel.id := by
  obtain ⟨channel, there, same⟩ := exists_of_place found
  exact List.mem_map.mpr ⟨channel, List.mem_of_getElem? there, same⟩

/-- The conversions of a channel are one broadcast on its line. -/
theorem sends_warms (measures : Family.quantities family ≠ []) (id : ChannelId)
    (before : Registry β × (ω × List LineCall)) :
    Sends (Warms (before.1.marks Channel.id) id) before
      (onChannel id (Device.sampleFamily (logging lines id) family)) := by
  rintro ⟨registry, world, notes⟩ rfl
  cases found : registry.place? id with
  | none =>
    rw [onChannel_unknown found]
    exact ⟨[], .unknown (not_mem_of_unknown found), .refl _⟩
  | some place =>
    obtain ⟨channel, there, _⟩ := exists_of_place found
    have heard := (notes_logging lines id).leads_sampleFamily measures
      (channel.line, (world, notes)) ⟨[], rfl, rfl⟩
    rw [onChannel_perform found there]
    generalize (Device.sampleFamily (logging lines id) family).perform
      (channel.line, (world, notes)) = performed at heard ⊢
    rcases performed with ⟨error | wait, line, reached⟩
    all_goals
      obtain ⟨calls, broadcasts, noted⟩ := heard
      refine ⟨_, .asked (mem_of_place found) broadcasts,
        exchanges_of_heard found there rfl noted fun none => ?_⟩
      subst none
      exact nomatch broadcasts

/-- The conversion of a device is what its driver sends to it. -/
theorem sends_prompts (voltage : quantity ≠ .temperature) (entry : Address × Device)
    (before : Registry β × (ω × List LineCall)) :
    Sends (Prompts lines quantity (before.1.marks Channel.id) entry) before
      (onDevice (logging lines) entry.1 entry.2 fun master => Device.sample master quantity) := by
  rintro ⟨registry, world, notes⟩ rfl
  obtain ⟨code, device⟩ := entry
  cases found : registry.place? device.channel with
  | none =>
    rw [onDevice_unknown found]
    exact ⟨[], .unknown (not_mem_of_unknown found), .refl _⟩
  | some place =>
    obtain ⟨channel, there, _⟩ := exists_of_place found
    have heard := (notes_logging lines device.channel).leads_sample voltage
      (channel.line, (world, notes)) (device, (channel.line, (world, notes))) ⟨rfl, rfl⟩
    rw [onDevice_perform found there]
    rcases performed : (Device.sample (logging lines device.channel) quantity).perform
      (device, (channel.line, (world, notes))) with ⟨error | wait, changed, line, reached, last⟩
    · rw [performed] at heard
      rcases heard with same | ⟨calls, own, noted⟩
      · obtain ⟨rfl, rfl, rfl⟩ : line = channel.line ∧ reached = world ∧ last = notes := by
          simpa using same
        exact ⟨_, .failed (mem_of_place found) ⟨_, _, _, _, _, _, _, performed, rfl⟩ (.inl rfl),
          exchanges_of_heard found there rfl rfl fun _ => rfl⟩
      · obtain rfl : last = calls.map (device.channel, ·) ++ notes := noted
        exact ⟨_, .failed (mem_of_place found) ⟨_, _, _, _, _, _, _, performed, rfl⟩ (.inr own),
          exchanges_of_heard found there rfl rfl fun none => absurd none own.2⟩
    · rw [performed] at heard
      obtain ⟨calls, own, noted⟩ := heard
      obtain rfl : last = calls.map (device.channel, ·) ++ notes := noted
      refine ⟨_, .started (mem_of_place found) ⟨_, _, _, _, _, _, _, performed, rfl⟩ own, ?_⟩
      refine exchanges_of_heard found there rfl rfl fun none => ?_
      obtain ⟨earlier, shape, _⟩ := own
      exact nomatch shape.symm.trans none

/-- What is sent to start the conversions of a family, and whether they were started. Temperatures
are converted on each channel that has a registered device of the family, in the order of their
numbers, and other quantities on each of these devices, in the order of their codes. -/
inductive Starts (lines : ChannelId → Master (β × ω) ε) (registry : Registry β)
    (family : FamilyCode) : Quantity → List LineCall → Bool → Prop
  | channels {ids : List ChannelId} {calls : List LineCall} {ok : Bool}
      (ascending : ids.Pairwise (· < ·))
      (exactly : ∀ id, id ∈ ids ↔ ∃ code device, registry.find? code = some device ∧
        code.family = family ∧ device.channel = id)
      (rounds : Rounds (Warms (registry.marks Channel.id)) ids calls ok) :
      Starts lines registry family .temperature calls ok
  | devices {quantity : Quantity} {devices : List (Address × Device)} {calls : List LineCall}
      {ok : Bool} (other : quantity ≠ .temperature)
      (ascending : devices.Pairwise fun first second => first.1 < second.1)
      (exactly : ∀ code device, (code, device) ∈ devices ↔
        registry.find? code = some device ∧ code.family = family)
      (rounds : Rounds (Prompts lines quantity (registry.marks Channel.id)) devices calls ok) :
      Starts lines registry family quantity calls ok

end Registry

open Registry (Warms Prompts Exchanges Sends)

namespace Command

/-! ### One conversion after the other -/

section Loops

variable {exchange : ι → List LineCall → Bool → Prop} {known : List ChannelId}
  {step : ι → Work β (ω × List LineCall) Nat}
  {loop : List ι → Nat → Work β (ω × List LineCall) Nat}

/-- Steps that are done one after the other are rounds. -/
theorem sends_loop (combine : Nat → Nat → Nat) (none : ∀ wait, loop [] wait = pure wait)
    (next : ∀ item rest wait,
      loop (item :: rest) wait = step item >>= fun other => loop rest (combine wait other))
    (each : ∀ item before, before.1.marks Channel.id = known →
      Sends (exchange item) before (step item))
    (items : List ι) (wait : Nat) {before : Registry β × (ω × List LineCall)}
    (ids : before.1.marks Channel.id = known) :
    Sends (Rounds exchange items) before (loop items wait) := by
  induction items generalizing wait before with
  | nil =>
    rw [none]
    exact Action.leads_pure fun _ same => ⟨[], .done, same ▸ .refl _⟩
  | cons item rest ih =>
    rw [next]
    refine Action.leads_bind _ (Leads.mono (each item before ids) (fun _ _ here => here) ?_)
      fun other => ?_
    · rintro state ⟨calls, here, exchanges⟩
      exact ⟨calls, .stops here, exchanges⟩
    · rintro reached ⟨calls, here, exchanges⟩
      refine Leads.mono (ih (combine wait other) (exchanges.ids.trans ids)) ?_ ?_ reached rfl
      · rintro _ state ⟨others, later, more⟩
        exact ⟨_, .goesOn here later, exchanges.trans more⟩
      · rintro state ⟨others, later, more⟩
        exact ⟨_, .goesOn here later, exchanges.trans more⟩

end Loops

variable {lines : ChannelId → Master (β × ω) ε} {family : FamilyCode} {quantity : Quantity}

/-- **Temperatures are converted channel by channel**, up to the first that fails. -/
theorem sends_sampleChannels (failed : CommandError) (measures : Family.quantities family ≠ [])
    (ids : List ChannelId) (longest : Nat) (before : Registry β × (ω × List LineCall)) :
    Sends (Rounds (Warms (before.1.marks Channel.id)) ids) before
      (sampleChannels (logging lines) family failed ids longest) :=
  sends_loop (fun _ next => next) (fun _ => rfl) (fun _ _ _ => rfl)
    (fun id state same => same ▸ (Registry.sends_warms measures id state).mapError) ids longest rfl

/-- **Other quantities are converted device by device**, up to the first that fails. -/
theorem sends_sampleDevices (failed : CommandError) (voltage : quantity ≠ .temperature)
    (devices : List (Address × Device)) (longest : Nat)
    (before : Registry β × (ω × List LineCall)) :
    Sends (Rounds (Prompts lines quantity (before.1.marks Channel.id)) devices) before
      (sampleDevices (logging lines) quantity failed devices longest) :=
  sends_loop max (fun _ => rfl) (fun _ _ _ => rfl)
    (fun entry state same => same ▸ (Registry.sends_prompts voltage entry state).mapError)
    devices longest rfl

/-- A read of a measured quantity of a family, in its first phase. -/
structure SamplesFamily (command : Command) (family : FamilyCode) (quantity : Quantity) :
    Prop where
  verb : command.verb = .read
  unselected : command.device = none
  selected : command.family = some family
  asked : command.quantity = some quantity
  measured : quantity ≠ .presence
  supported : checkQuantity family quantity = .ok ()
  phase : command.phase ≠ .result

/-- The work of such a command on a registry that has devices of the family. -/
theorem SamplesFamily.advance_eq {command : Command}
    (sampling : command.SamplesFamily family quantity) (now : Nat) {state : Registry β × ω}
    (some : (state.1.ofFamily family).entries ≠ []) :
    (advance lines command now).perform state =
      (sampleFamily lines command family quantity now).perform state := by
  rw [advance_family_eq sampling.unselected sampling.selected sampling.asked sampling.measured
    sampling.supported now some]
  split
  · next result => exact absurd result sampling.phase
  · rfl

/-- **The conversions of a family** are started one after the other. -/
theorem sends_sampleFamily {command : Command} (sampling : command.SamplesFamily family quantity)
    (now : Nat) (before : Registry β × (ω × List LineCall)) :
    Sends (before.1.Starts lines family quantity) before
      (sampleFamily (logging lines) command family quantity now) := by
  refine leads_registry ?_
  rintro state rfl
  dsimp only
  split
  · next warms =>
    subst warms
    have channels : Sends _ state (sampleChannels (logging lines) family
        (.sampleFailed family .temperature) (state.1.hosting family) 0) :=
      sends_sampleChannels _ (quantities_ne_nil sampling.supported) _ 0 state
    refine Sends.map (channels.mono fun calls ok rounds => ?_) _
    exact .channels Registry.hosting_ascending (fun _ => Registry.mem_hosting) rounds
  · next voltage =>
    refine Sends.map ((sends_sampleDevices _ voltage _ 0 state).mono fun calls ok rounds => ?_) _
    exact .devices voltage (state.1.ofFamily family).ascending (fun _ _ => Registry.mem_ofFamily)
      rounds

end Command

namespace Bridge

/-- A turn of a read that waits for its conversion. -/
theorem runNext_waits {lines : ChannelId → Master (β × ω) ε} {now : Nat} {bridge : Bridge β}
    {world reached : ω} {command next : Command} {rest : List Command}
    (front : bridge.queue.items = command :: rest)
    (fits : bridge.queue.items.length ≤ bridge.queue.capacity)
    (due : command.timer.expired now = true) (read : command.verb = .read) {registry : Registry β}
    (ran : (Command.advance lines command now).perform (bridge.registry, world) =
      (.ok (.waiting next), (registry, reached))) :
    runNext lines now (bridge, world) =
      (⟨some command, some next, [], [], false⟩,
        { bridge with registry := registry }.queueing (rest ++ [next]), reached) := by
  have popped : bridge.queue.pop? = some (command, { bridge.queue with items := rest }) := by
    simp only [Queue.pop?, front]
  have room : rest.length < bridge.queue.capacity := by
    rw [front] at fits
    exact fits
  simp only [runNext, popped, if_pos due]
  unfold execute work
  rw [read]
  dsimp only
  rw [ran]
  dsimp only
  rw [putBack_eq _ room]
  rfl

/-- What a turn adds after the command that it took: repeated reads, as far as there is room. -/
theorem exists_woken {lines : ChannelId → Master (β × ω) ε} {now : Nat} {state : Bridge β × ω}
    {first : Turn} {reached : Bridge β} {world : ω}
    (ran : runNext lines now state = (first, (reached, world))) :
    ∃ after, ∃ queued refused : List Command,
      turn lines now state =
        (first.followedBy ⟨none, none, queued ++ refused,
          refused.map fun copy => Delivery.failure copy .queueFull, false⟩, (after, world)) ∧
      after.registry = reached.registry ∧
      after.queue.items = reached.queue.items ++ queued := by
  let room := reached.queue.capacity - reached.queue.items.length
  refine ⟨(reached.wake now).2, (reached.subscriptions.due now).take room,
    (reached.subscriptions.due now).drop room, ?_, ?_, ?_⟩
  · unfold turn
    rw [ran, List.take_append_drop]
    dsimp only
    rw [wake_eq]
  · rw [wake_eq]
    rfl
  · rw [wake_eq]
    rfl

/-- **The first phase of a read of a family.** The lines may do anything, and the registry may be
any. A turn that takes a read of a measured quantity of a family in its first phase sends what
starts the conversions of the family, up to the first that fails, and nothing else: the calls are
all that is added to the log of all lines, and lines without calls stay as they are. If all
conversions were started, the read is queued again for its last phase, with the time of the family.
Otherwise it is gone, and one error is told. Other answers of the turn only tell that repeated reads
found no room. -/
theorem turn_samples (lines : ChannelId → Master (β × ω) ε) {now : Nat} {bridge : Bridge β}
    (world : ω) (notes : List LineCall) {command : Command} {rest : List Command}
    {family : FamilyCode} {quantity : Quantity} (front : bridge.queue.items = command :: rest)
    (fits : bridge.queue.items.length ≤ bridge.queue.capacity)
    (due : command.timer.expired now = true) (sampling : command.SamplesFamily family quantity)
    (known : (bridge.registry.ofFamily family).entries ≠ []) :
    ∃ turned after reached calls started, ∃ queued refused : List Command,
      turn (logging lines) now (bridge, (world, notes)) =
        (turned, (after, (reached, calls.reverse ++ notes))) ∧
      bridge.registry.Starts lines family quantity calls started ∧
      (∀ (place : Nat) (channel : Channel β), bridge.registry.channels[place]? = some channel →
        (∀ call ∈ calls, call.1 ≠ channel.id) →
          after.registry.channels[place]? = some channel) ∧
      turned.returned =
        (if started then some (command.awaiting (Family.conversionTime family) now) else none) ∧
      turned.deliveries =
        (if started then [] else [.failure command (.sampleFailed family quantity)]) ++
          refused.map (fun copy => Delivery.failure copy .queueFull) ∧
      turned.copies = queued ++ refused ∧
      after.queue.items = rest ++ turned.returned.toList ++ queued := by
  have present : (bridge.registry.ofFamily family).isEmpty = false := by
    simpa only [KeyMap.isEmpty, List.isEmpty_eq_false_iff] using known
  have sends : Sends (bridge.registry.Starts lines family quantity)
      (bridge.registry, (world, notes))
      (Command.sampleFamily (logging lines) command family quantity now) :=
    Command.sends_sampleFamily sampling now _
  have heard := sends _ rfl
  have advance : (Command.advance (logging lines) command now).perform
      (bridge.registry, (world, notes)) = _ := sampling.advance_eq now known
  rcases ran : (Command.sampleFamily (logging lines) command family quantity now).perform
    (bridge.registry, (world, notes)) with ⟨error | outcome, registry, reached, log⟩
  · rw [ran] at heard advance
    obtain ⟨calls, starts, exchanges⟩ := heard
    obtain rfl : log = calls.reverse ++ notes := exchanges.logged
    obtain rfl := Command.failsOnly_sampleFamily command family now _ trivial _ _ ran
    have fails : (Command.advance (logging lines) command now).perform
        (bridge.registry, (world, notes)) =
          (Except.map ReadOutcome.answer (.error (.sampleFailed family quantity)),
            (registry, (reached, calls.reverse ++ notes))) := advance
    obtain ⟨after, queued, refused, turnEq, registryEq, items⟩ :=
      exists_woken (runNext_answers front due sampling.verb fails)
    refine ⟨_, after, reached, calls, false, queued, refused, turnEq, starts, ?_, rfl, rfl, rfl,
      ?_⟩
    · rw [registryEq]
      exact exchanges.quiet
    · rw [items]
      exact congrArg (· ++ queued) (List.append_nil rest).symm
  · rw [ran] at heard advance
    obtain ⟨calls, starts, exchanges⟩ := heard
    obtain rfl : log = calls.reverse ++ notes := exchanges.logged
    obtain ⟨rfl, _⟩ := Command.sampleFamily_ok sampling.supported present ran
    obtain ⟨after, queued, refused, turnEq, registryEq, items⟩ :=
      exists_woken (runNext_waits front fits due sampling.verb advance)
    refine ⟨_, after, reached, calls, true, queued, refused, turnEq, starts, ?_, rfl, rfl, rfl,
      items⟩
    rw [registryEq]
    exact exchanges.quiet

/-- A bridge that knows two monitors, the first of which was taken from its line. A read of both is
in its first phase. -/
def halfEmpty : Bridge Line where
  registry :=
    ((Registry.ofChannels [pairChannel 2 late 2.5, ⟨1, .empty, []⟩]).store late
      (.ofAddress 2 late)).store early (.ofAddress 1 early)
  queue := ⟨[firstRead], 3⟩
  subscriptions := .empty
where
  /-- The read of both monitors. -/
  firstRead : Command :=
    { verb := .read, family := some Family.batteryMonitor, quantity := some .vad, results := 1,
      errors := 2 }

/-- The first of the monitors does not answer, and nothing is sent to the second. -/
theorem turn_samples_silent :
    let command := halfEmpty.firstRead
    halfEmpty.queue.items = [command] ∧
      halfEmpty.queue.items.length ≤ halfEmpty.queue.capacity ∧
      command.timer.expired 10 = true ∧ command.SamplesFamily Family.batteryMonitor .vad ∧
      (halfEmpty.registry.ofFamily Family.batteryMonitor).entries ≠ [] ∧
      ∃ turned after,
        turn (logging pairLines) 10 (halfEmpty, ((), [])) =
          (turned, (after, ((),
            [(1, .reset (some { presence := false, shortCircuit := false }))]))) ∧
        turned.returned = none ∧ after.queue.items = [] ∧
        turned.deliveries = [.failure command (.sampleFailed Family.batteryMonitor .vad)] := by
  intro command
  have sampling : command.SamplesFamily Family.batteryMonitor .vad :=
    ⟨rfl, rfl, rfl, rfl, by decide, by decide, by decide⟩
  have known : (halfEmpty.registry.ofFamily Family.batteryMonitor).entries ≠ [] := by
    decide +kernel
  have log : (turn (logging pairLines) 10 (halfEmpty, ((), []))).2.2.2 =
      [(1, .reset (some { presence := false, shortCircuit := false }))] := by
    decide +kernel
  have gone : (turn (logging pairLines) 10 (halfEmpty, ((), []))).1.returned = none := by
    decide +kernel
  have alone : (turn (logging pairLines) 10 (halfEmpty, ((), []))).1.copies = [] := by
    decide +kernel
  obtain ⟨turned, after, _, calls, started, queued, refused, turnEq, _, _, returned, deliveries,
    copies, items⟩ := turn_samples pairLines () [] rfl (by decide : [command].length ≤ 3)
      (rfl : command.timer.expired 10 = true) sampling known
  rw [turnEq] at log gone alone
  obtain ⟨rfl, rfl⟩ := List.append_eq_nil_iff.mp (copies.symm.trans alone)
  cases started with
  | true => exact nomatch returned.symm.trans gone
  | false =>
    refine ⟨rfl, by decide, rfl, sampling, known, turned, after, ?_, gone, ?_, deliveries⟩
    · rw [turnEq, ← log]
    · rw [items, returned]
      rfl

end Bridge

end WireBridge
