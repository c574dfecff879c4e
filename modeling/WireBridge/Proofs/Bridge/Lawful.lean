/-
**Entries that come from untrusted lines.**

A line may answer anything and fail at any time. A registry that only looks for devices and lets
commands run still has no entry that it could not serve.

* `Registry.Listed`: an entry with a genuine code, a driver that was made for it and a channel that
  exists. Nothing that commands do ends this for all entries (`Registry.listed_stable`);
* `Registry.Operation`: what is done with a registry once it has been opened;
* `Registry.Lawful`, `Registry.Served`: what is registered, and what that spares its users;
* `Registry.operations_lawful`: both hold after any operations, whatever the lines do.
-/

import WireBridge.Proofs.Bridge.Stable
import WireBridge.Proofs.Device.Blame
import WireBridge.Proofs.Registry.Tending

namespace WireBridge

open WireBridge.Action (Blames Keeps)

theorem Command.measured_of_checkQuantity {family : FamilyCode} {quantity : Quantity}
    (checked : checkQuantity family quantity = .ok ()) : quantity ∈ Family.quantities family := by
  unfold checkQuantity at checked
  dsimp only at checked
  split at checked
  · exact absurd checked (by simp)
  · split at checked
    · next supported => exact List.contains_iff_mem.mp supported
    · exact absurd checked (by simp)

namespace Registry

variable {β ω ε : Type} {lines : ChannelId → Master (β × ω) ε} {ids : List ChannelId}
  {registry : Registry β} {code : Address} {entry : Device}

/-! ### Entries -/

/-- An entry with a genuine code, a driver that was made for it and a channel that exists. -/
structure Listed (ids : List ChannelId) (code : Address) (entry : Device) : Prop where
  genuine : Search.Genuine none code
  unread : entry.unread = .ofAddress entry.channel code
  channel : entry.channel ∈ ids

/-- What a driver has read does not matter. -/
theorem Listed.of_unread {other : Device} (listed : Listed ids code entry)
    (same : other.unread = entry.unread) : Listed ids code other := by
  have channel : other.unread.channel = entry.unread.channel := congrArg Device.channel same
  change other.channel = entry.channel at channel
  exact ⟨listed.genuine, same.trans (channel ▸ listed.unread), channel ▸ listed.channel⟩

theorem Listed.forget (listed : Listed ids code entry) : entry.driver.forget = .ofAddress code :=
  congrArg Device.driver listed.unread

theorem admits_listed : Admits lines Channel.id ids (Listed ids) where
  marked := Channel.marked_id
  added id code entry state genuine member added := by
    have unread := Channel.unread_addDevice added
    have here : entry.channel = state.1.id := congrArg Device.channel unread
    exact ⟨genuine, here ▸ unread, here ▸ member⟩

/-- **Nothing that commands do** brings in an entry of another kind. -/
theorem listed_stable : Stable lines (Listed ids) (Tended Channel.id ids (Listed ids)) where
  known _ tended := tended.good
  scan := admits_listed.scan
  locate := admits_listed.locate
  sample _ device quantity listed _ := tended_onDevice (fun _ _ => rfl) fun line =>
    listed.of_unread (Device.unread_sample _ quantity (device, line))
  read _ device quantity listed := tended_onDevice (fun _ _ => rfl) fun line =>
    listed.of_unread (Device.unread_read _ quantity (device, line))
  broadcast id _ := tended_onChannel (fun _ _ => rfl) id

/-! ### Operations -/

/-- What is done with a registry: scans, the search for one device, and the reads of commands. -/
inductive Operation where
  | scan (family : Option FamilyCode)
  | locate (code : Address)
  | advance (command : Command) (now : Nat)

/-- The registry and the world after an operation, whatever its outcome. -/
def Operation.apply (lines : ChannelId → Master (β × ω) ε) (state : Registry β × ω) :
    Operation → Registry β × ω
  | .scan family => ((Registry.scan lines family).perform state).2
  | .locate code => ((Registry.locate lines code).perform state).2
  | .advance command now => ((Command.advance lines command now).perform state).2

/-- The registry and the world before the first operation: as it is, or started. -/
def opened (lines : ChannelId → Master (β × ω) ε) (config : Option Config)
    (state : Registry β × ω) : Registry β × ω :=
  match config with
  | none => state
  | some config => ((start lines config).perform state).2

theorem apply_tended {state : Registry β × ω}
    (tended : state.1.Tended Channel.id ids (Listed ids)) (operation : Operation) :
    (operation.apply lines state).1.Tended Channel.id ids (Listed ids) := by
  have stable : Stable lines (Listed ids) (Tended Channel.id ids (Listed ids)) := listed_stable
  cases operation with
  | scan family => exact Action.keeps_iff.mp (stable.scan family) state tended
  | locate code => exact Action.keeps_iff.mp (stable.locate code) state tended
  | advance command now =>
    exact Action.keeps_iff.mp (stable.keeps_advance command now) state tended

theorem foldl_tended (lines : ChannelId → Master (β × ω) ε) (operations : List Operation)
    {state : Registry β × ω}
    (tended : state.1.Tended Channel.id ids (Listed ids)) :
    (operations.foldl (Operation.apply lines) state).1.Tended Channel.id ids (Listed ids) := by
  induction operations generalizing state with
  | nil => exact tended
  | cons operation rest ih => exact ih (apply_tended tended operation)

/-- A new registry has no entries, so that only its channels matter when it is started. -/
theorem opened_tended (lines : ChannelId → Master (β × ω) ε) (config : Option Config)
    (channels : List (Channel β)) (world : ω) :
    ∃ ids, (opened lines config (ofChannels channels, world)).1.Tended Channel.id ids
      (Listed ids) := by
  cases config with
  | none => exact ⟨_, tended_ofChannels channels⟩
  | some config =>
    -- Channels are left out before anything is registered on them.
    let used := channels.filter fun channel => config.inUse channel.id
    have fewer : (ofChannels used).Tended Channel.id (used.map Channel.id)
      (Listed (used.map Channel.id)) := tended_ofChannels used
    have keeps : Keeps (fun state : Registry β × ω =>
        state.1.Tended Channel.id (used.map Channel.id) (Listed (used.map Channel.id)))
        (if config.initialScan then scan lines none else pure ()) := by
      split
      · exact admits_listed.scan none
      · exact Action.leads_pure fun _ here => here
    refine ⟨used.map Channel.id, ?_⟩
    unfold opened start
    dsimp only
    rw [Action.perform_bind, Action.perform_update]
    exact Action.keeps_iff.mp keeps (ofChannels used, world) fewer

/-! ### What is registered -/

/-- What is registered under a code: a driver of its kind, on a channel that exists. -/
structure Lawful (registry : Registry β) (code : Address) (entry : Device) : Prop where
  nonzero : code ≠ Address.zero
  valid : code.valid = true
  address : entry.address = code
  driver : entry.driver.Of code
  channel : ∃ channel ∈ registry.channels, channel.id = entry.channel

/-- What the users of a registered device are spared. -/
structure Served (lines : ChannelId → Master (β × ω) ε) (registry : Registry β) (code : Address)
    (entry : Device) : Prop where
  /-- The line of the device is there, whatever is to be done on it. -/
  onChannel : ∀ {α : Type} (action : Action (β × ω) (BusError ε) α) world id,
    ((Registry.onChannel entry.channel action).perform (registry, world)).1 ≠
      .error (.unknownChannel id)
  /-- So it is for the actions of the device. -/
  onDevice : ∀ {α : Type} (action : Master (β × ω) ε → Action (Device × (β × ω)) (BusError ε) α)
    world id, ((Registry.onDevice lines code entry action).perform (registry, world)).1 ≠
      .error (.unknownChannel id)
  /-- A conversion that was checked is implemented. -/
  sample : ∀ quantity, Command.checkQuantity code.family quantity = .ok () →
    Blames (fun state => state.1 = entry) (Device.sample (lines entry.channel) quantity)
      (Device.sample (lines entry.channel).attributed quantity)
  /-- So is reading its result. -/
  read : ∀ quantity, Command.checkQuantity code.family quantity = .ok () →
    Blames (fun state => state.1 = entry) (Device.read (lines entry.channel) quantity)
      (Device.read (lines entry.channel).attributed quantity)

theorem Listed.lawful (listed : Listed (registry.marks Channel.id) code entry) :
    Lawful registry code entry where
  nonzero := listed.genuine.nonzero
  valid := listed.genuine.valid
  address := (Driver.fits_of_forget listed.forget).address_eq
  driver := Driver.of_forget listed.forget
  channel := List.mem_map.mp listed.channel

/-- The channel of an entry is found. -/
theorem Lawful.exists_place (lawful : Lawful registry code entry) :
    ∃ place, registry.place? entry.channel = some place := by
  obtain ⟨channel, member, here⟩ := lawful.channel
  cases found : registry.place? entry.channel with
  | some place => exact ⟨place, rfl⟩
  | none =>
    have missing := List.findIdx?_eq_none_iff.mp found channel member
    exact absurd here (by simpa using missing)

/-- A failure on the line of a channel is not that there is no such channel. -/
theorem mapError_ne_unknown {α : Type} (outcome : Except (BusError ε) α) (here id : ChannelId) :
    outcome.mapError (RegistryError.channel here) ≠ .error (.unknownChannel id) := by
  cases outcome with
  | error error => exact fun failed => nomatch Except.error.inj failed
  | ok value => exact fun failed => nomatch failed

theorem Listed.served (lines : ChannelId → Master (β × ω) ε)
    (listed : Listed (registry.marks Channel.id) code entry) :
    Served lines registry code entry where
  onChannel action world id := by
    obtain ⟨place, found⟩ := listed.lawful.exists_place
    obtain ⟨channel, there, _⟩ := exists_of_place found
    rw [onChannel_perform found there]
    exact mapError_ne_unknown _ _ id
  onDevice action world id := by
    obtain ⟨place, found⟩ := listed.lawful.exists_place
    obtain ⟨channel, there, _⟩ := exists_of_place found
    rw [onDevice_perform found there]
    exact mapError_ne_unknown _ _ id
  sample quantity checked := Device.blames_sample (by
    rintro ⟨device, line⟩ rfl
    exact Driver.implements_of_forget listed.forget (Command.measured_of_checkQuantity checked))
  read quantity checked := Device.blames_read (by
    rintro ⟨device, line⟩ rfl
    exact Driver.implements_of_forget listed.forget (Command.measured_of_checkQuantity checked))

/-- **Whatever the lines answer**, and whatever fails on them, every entry is lawful and served
after any operations, and no driver that is made for a code refuses its device. -/
theorem operations_lawful (lines : ChannelId → Master (β × ω) ε) (channels : List (Channel β))
    (config : Option Config) (operations : List Operation) (world : ω) :
    let state := opened lines config (ofChannels channels, world)
    let reached := (operations.foldl (Operation.apply lines) state).1
    (∀ code entry, reached.find? code = some entry →
        Lawful reached code entry ∧ Served lines reached code entry) ∧
      ∀ id code, Blames (fun state => state.1 = .ofAddress id code) (Device.setUp (lines id))
        (Device.setUp (lines id).attributed) := by
  intro state reached
  constructor
  · intro code entry found
    obtain ⟨ids, opened⟩ := opened_tended lines config channels world
    have tended : reached.Tended Channel.id ids (Listed ids) := foldl_tended lines operations opened
    have listed : Listed (reached.marks Channel.id) code entry :=
      tended.marks ▸ tended.good code entry found
    exact ⟨listed.lawful, listed.served lines⟩
  · intro id code
    have made : ∀ state : Device × (β × ω), state.1 = .ofAddress id code →
        state.1.driver.forget = .ofAddress code := by
      rintro ⟨device, line⟩ rfl
      exact Driver.forget_ofAddress code
    exact Device.blames_setUp made

end Registry

end WireBridge
