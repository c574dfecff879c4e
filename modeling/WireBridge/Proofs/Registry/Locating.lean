/-
**Looking for one device when channels fail.**

Channels are asked for a device one after the other, up to the first one that has it. What becomes
of the entry of its code depends on their replies, and no other entry is concerned.

* `Registry.Reply`, `Registry.Asks`: the replies of the channels that are asked;
* `Registry.firstError`: the first reply that is an error;
* `Registry.Inquired`: what the replies amount to, one channel after the other;
* `Registry.Locates`: what looking for a device makes of a registry, given the replies;
* `Registry.locate_settles`: it does so always, whatever the lines do.
-/

import WireBridge.Proofs.Device.Drivers
import WireBridge.Proofs.Registry.Marking

namespace WireBridge.Registry

variable {β ω ε : Type} {lines : ChannelId → Master (β × ω) ε} {code : Address}

/-! ### Replies -/

/-- What a channel replied when it was asked for a device. -/
structure Reply (β ε : Type) where
  /-- The channel before. -/
  channel : Channel β
  /-- Whether it has the device. -/
  outcome : Except (BusError ε) Bool
  /-- The channel afterwards. -/
  asked : Channel β

/-- Channels are asked in order, up to the first one that has the device; the others are left. -/
inductive Asks (lines : ChannelId → Master (β × ω) ε) (code : Address) :
    List (Channel β) → ω → List (Reply β ε) → List (Channel β) → ω → Prop
  | nowhere {world : ω} : Asks lines code [] world [] [] world
  | here {channel asked : Channel β} {rest : List (Channel β)} {world reached : ω}
      (performed : (Channel.onLine (Search.present (lines channel.id) code)).perform
        (channel, world) = (.ok true, (asked, reached))) :
      Asks lines code (channel :: rest) world [⟨channel, .ok true, asked⟩] rest reached
  | elsewhere {channel asked : Channel β} {outcome : Except (BusError ε) Bool}
      {rest left : List (Channel β)} {replies : List (Reply β ε)} {world reached last : ω}
      (performed : (Channel.onLine (Search.present (lines channel.id) code)).perform
        (channel, world) = (outcome, (asked, reached)))
      (absent : outcome ≠ .ok true)
      (others : Asks lines code rest reached replies left last) :
      Asks lines code (channel :: rest) world (⟨channel, outcome, asked⟩ :: replies) left last

/-- The channels that replied, and those that were left. -/
theorem Asks.channels_eq {channels left : List (Channel β)} {world last : ω}
    {replies : List (Reply β ε)} (asks : Asks lines code channels world replies left last) :
    channels = replies.map Reply.channel ++ left := by
  induction asks with
  | nowhere => rfl
  | here => rfl
  | elsewhere _ _ _ ih => exact congrArg (_ :: ·) ih

/-- The error of a reply, with the number of its channel. -/
def Reply.failure (reply : Reply β ε) : Option (RegistryError ε) :=
  match reply.outcome with
  | .ok _ => none
  | .error error => some (.channel reply.channel.id error)

/-- A channel that does not have the device says so, or fails. -/
theorem Reply.failure_eq_none {reply : Reply β ε} (absent : reply.outcome ≠ .ok true) :
    reply.failure = none ↔ reply.outcome = .ok false := by
  obtain ⟨channel, error | found, asked⟩ := reply
  · exact ⟨nofun, nofun⟩
  · cases found with
    | false => exact ⟨fun _ => rfl, fun _ => rfl⟩
    | true => exact absurd rfl absent

theorem Reply.failure_eq_some {reply : Reply β ε} {failure : RegistryError ε} :
    reply.failure = some failure ↔
      ∃ error, reply.outcome = .error error ∧ failure = .channel reply.channel.id error := by
  obtain ⟨channel, error | found, asked⟩ := reply
  · constructor
    · intro told
      exact ⟨error, rfl, (Option.some.inj told).symm⟩
    · rintro ⟨_, same, rfl⟩
      obtain rfl := Except.error.inj same
      rfl
  · exact ⟨nofun, fun ⟨_, failed, _⟩ => nomatch failed⟩

/-- The first reply that is an error. -/
def firstError (replies : List (Reply β ε)) : Option (RegistryError ε) :=
  replies.findSome? Reply.failure

/-- If no channel has the device, there is no error where all of them say so. -/
theorem firstError_eq_none {replies : List (Reply β ε)}
    (absent : ∀ reply ∈ replies, reply.outcome ≠ .ok true) :
    firstError replies = none ↔ ∀ reply ∈ replies, reply.outcome = .ok false := by
  unfold firstError
  rw [List.findSome?_eq_none_iff]
  exact forall₂_congr fun reply member => Reply.failure_eq_none (absent reply member)

/-- Otherwise the error is that of the first channel that did not say so. -/
theorem firstError_eq_some {replies : List (Reply β ε)}
    (absent : ∀ reply ∈ replies, reply.outcome ≠ .ok true) {failure : RegistryError ε} :
    firstError replies = some failure ↔
      ∃ earlier reply later error, replies = earlier ++ reply :: later ∧
        (∀ other ∈ earlier, other.outcome = .ok false) ∧ reply.outcome = .error error ∧
        failure = .channel reply.channel.id error := by
  unfold firstError
  rw [List.findSome?_eq_some_iff]
  constructor
  · rintro ⟨earlier, reply, later, rfl, told, none⟩
    obtain ⟨error, failed, same⟩ := Reply.failure_eq_some.mp told
    refine ⟨earlier, reply, later, error, rfl, fun other before => ?_, failed, same⟩
    exact (Reply.failure_eq_none (absent other (List.mem_append_left _ before))).mp
      (none other before)
  · rintro ⟨earlier, reply, later, error, rfl, denied, failed, same⟩
    refine ⟨earlier, reply, later, rfl, Reply.failure_eq_some.mpr ⟨error, failed, same⟩, ?_⟩
    intro other before
    exact (Reply.failure_eq_none (absent other (List.mem_append_left _ before))).mpr
      (denied other before)

/-! ### Inquiries -/

/-- What the replies amount to: a new driver on the channel that has the device, or the first
error. -/
inductive Inquired (lines : ChannelId → Master (β × ω) ε) (code : Address) :
    List (Reply β ε) → List (Channel β) → ω → Inquiry β ε × ω → Prop
  | here {earlier : List (Reply β ε)} {reply : Reply β ε} {left : List (Channel β)}
      {asked reached : ω} {failure : Option (RegistryError ε)} {added : Option Device}
      {changed : Channel β} (absent : ∀ other ∈ earlier, other.outcome ≠ .ok true)
      (answered : reply.outcome = .ok true)
      (performed : Channel.addDevice (lines reply.channel.id) code (reply.asked, asked) =
        (added, (changed, reached))) :
      Inquired lines code (earlier ++ [reply]) left asked
        (⟨some (reply.channel.id, added), failure, earlier.map Reply.asked ++ changed :: left⟩,
          reached)
  | nowhere {replies : List (Reply β ε)} {asked : ω}
      (absent : ∀ reply ∈ replies, reply.outcome ≠ .ok true) :
      Inquired lines code replies [] asked
        (⟨none, firstError replies, replies.map Reply.asked⟩, asked)

/-- A channel that does not have the device goes before others. -/
theorem Inquired.cons {replies : List (Reply β ε)} {left : List (Channel β)} {asked last : ω}
    {later : Inquiry β ε} (inquired : Inquired lines code replies left asked (later, last))
    (reply : Reply β ε) (absent : reply.outcome ≠ .ok true) :
    Inquired lines code (reply :: replies) left asked
      (⟨later.answer, reply.failure.or later.failure, reply.asked :: later.channels⟩, last) := by
  cases inquired with
  | here others answered performed =>
    exact .here (List.forall_mem_cons.mpr ⟨absent, others⟩) answered performed
  | nowhere others =>
    have first : reply.failure.or (firstError replies) = firstError (reply :: replies) := by
      unfold firstError
      rw [List.findSome?_cons]
      cases reply.failure <;> rfl
    dsimp only
    rw [first]
    exact .nowhere (List.forall_mem_cons.mpr ⟨absent, others⟩)

/-- **Asking the channels**, whatever they reply. -/
theorem exists_asks (lines : ChannelId → Master (β × ω) ε) (code : Address)
    (channels : List (Channel β)) (world : ω) :
    ∃ replies left asked, Asks lines code channels world replies left asked ∧
      Inquired lines code replies left asked (inquire lines code channels world) := by
  induction channels generalizing world with
  | nil => exact ⟨[], [], world, .nowhere, .nowhere fun _ none => absurd none List.not_mem_nil⟩
  | cons channel rest ih =>
    rcases performed : (Channel.onLine (Search.present (lines channel.id) code)).perform
      (channel, world) with ⟨outcome, asked, reached⟩
    obtain ⟨replies, left, last, asks, inquired⟩ := ih reached
    unfold inquire
    dsimp only
    rw [performed]
    rcases outcome with error | found
    · have failed : (.error error : Except (BusError ε) Bool) ≠ .ok true := by simp
      exact ⟨_, left, last, .elsewhere performed failed asks,
        inquired.cons ⟨channel, .error error, asked⟩ failed⟩
    · cases found with
      | false =>
        have denied : (.ok false : Except (BusError ε) Bool) ≠ .ok true := by simp
        exact ⟨_, left, last, .elsewhere performed denied asks,
          inquired.cons ⟨channel, .ok false, asked⟩ denied⟩
      | true =>
        have before : ∀ other ∈ ([] : List (Reply β ε)), other.outcome ≠ .ok true :=
          fun _ none => absurd none List.not_mem_nil
        exact ⟨_, rest, reached, .here performed, .here before rfl rfl⟩

/-! ### Looking for one device -/

/-- What looking for a device makes of a registry, given the replies of the channels, those that
were left, and the world after that. -/
structure Locates (lines : ChannelId → Master (β × ω) ε) (code : Address) (before : Registry β)
    (replies : List (Reply β ε)) (left : List (Channel β)) (asked : ω)
    (outcome : Except (RegistryError ε) (Option ChannelId)) (after : Registry β)
    (reached : ω) : Prop where
  /-- The channels that replied come before those that were left. -/
  order : before.channels = replies.map Reply.channel ++ left
  /-- A channel is told if and only if it has the device. -/
  present : ∀ id, outcome = .ok (some id) ↔
    ∃ reply ∈ replies, reply.outcome = .ok true ∧ reply.channel.id = id
  /-- The device is told to be absent if and only if no channel has it and none failed. -/
  absent : outcome = .ok none ↔ ∀ reply ∈ replies, reply.outcome = .ok false
  /-- Looking for it fails if and only if no channel has it and one failed, with the first such
  error. -/
  fails : ∀ failure, outcome = .error failure ↔
    (∀ reply ∈ replies, reply.outcome ≠ .ok true) ∧
      ∃ earlier reply later error, replies = earlier ++ reply :: later ∧
        (∀ other ∈ earlier, other.outcome = .ok false) ∧ reply.outcome = .error error ∧
        failure = .channel reply.channel.id error
  /-- That channel is the first one that has it and the last one that was asked. A new driver reads
  the device there, and it is registered there if and only if that succeeds. -/
  renewed : ∀ reply ∈ replies, reply.outcome = .ok true →
    ∃ earlier made device line, replies = earlier ++ [reply] ∧
      (∀ other ∈ earlier, other.outcome ≠ .ok true) ∧
      (Device.setUp (lines reply.channel.id)).perform
        (.ofAddress reply.channel.id code, (reply.asked.line, asked)) =
          (made, (device, (line, reached))) ∧
      device.channel = reply.channel.id ∧ device.address = code ∧
      (made = .ok () → after.find? code = some device) ∧
      (∀ error, made = .error error → after.find? code = none) ∧
      after.channels = earlier.map Reply.asked ++ { reply.asked with line := line } :: left
  /-- If no channel has it, all were asked and its entry is removed. -/
  removed : (∀ reply ∈ replies, reply.outcome ≠ .ok true) →
    left = [] ∧ after.find? code = none ∧ after.channels = replies.map Reply.asked ∧ reached = asked
  /-- No other entry is changed. -/
  others : ∀ other, other ≠ code → after.find? other = before.find? other

/-- The new driver of a device that is present. -/
theorem exists_setUp {id : ChannelId} {asked : Channel β} {world reached : ω}
    {added : Option Device} {changed : Channel β}
    (performed : Channel.addDevice (lines id) code (asked, world) = (added, (changed, reached)))
    (here : asked.id = id) :
    ∃ made device line,
      (Device.setUp (lines id)).perform (.ofAddress id code, (asked.line, world)) =
        (made, (device, (line, reached))) ∧
      device.channel = id ∧ device.address = code ∧ (made = .ok () → added = some device) ∧
      (∀ error, made = .error error → added = none) ∧ changed = { asked with line := line } := by
  subst here
  have unread := Device.unread_setUp_ofAddress (lines asked.id) asked.id code (asked.line, world)
  unfold Channel.addDevice at performed
  dsimp only at performed
  rcases setUp : (Device.setUp (lines asked.id)).perform
    (.ofAddress asked.id code, (asked.line, world)) with ⟨made, device, line, last⟩
  rw [setUp] at performed unread
  obtain ⟨rfl, rest⟩ := Prod.mk.inj performed
  obtain ⟨rfl, rfl⟩ := Prod.mk.inj rest
  have driver : device.driver.forget = .ofAddress code := congrArg Device.driver unread
  refine ⟨made, device, line, rfl, congrArg Device.channel unread,
    (Driver.fits_of_forget driver).address_eq, ?_, ?_, rfl⟩
  · rintro rfl
    rfl
  · rintro error rfl
    rfl

/-- Channels keep their numbers when they are asked. -/
theorem Asks.id_eq {channels left : List (Channel β)} {world last : ω}
    {replies : List (Reply β ε)} (asks : Asks lines code channels world replies left last) :
    ∀ reply ∈ replies, reply.asked.id = reply.channel.id := by
  have same {channel asked : Channel β} {outcome : Except (BusError ε) Bool} {world reached : ω}
      (performed : (Channel.onLine (Search.present (lines channel.id) code)).perform
        (channel, world) = (outcome, (asked, reached))) : asked.id = channel.id :=
    (congrArg (·.2.1.id) performed).symm
  induction asks with
  | nowhere => exact fun _ none => absurd none List.not_mem_nil
  | here performed => exact List.forall_mem_singleton.mpr (same performed)
  | elsewhere performed _ _ ih => exact List.forall_mem_cons.mpr ⟨same performed, ih⟩

/-- Only the last channel that was asked has the device. -/
theorem only_present {earlier : List (Reply β ε)} {reply other : Reply β ε}
    (absent : ∀ other ∈ earlier, other.outcome ≠ .ok true) (member : other ∈ earlier ++ [reply])
    (found : other.outcome = .ok true) : other = reply := by
  rcases List.mem_append.mp member with before | last
  · exact absurd found (absent other before)
  · exact List.mem_singleton.mp last

/-- Looking for a device that a channel has. -/
theorem locates_here {registry : Registry β} {channels : List (Channel β)}
    {earlier : List (Reply β ε)} {reply : Reply β ε} {left : List (Channel β)} {asked reached : ω}
    {added : Option Device} {changed : Channel β}
    (order : registry.channels = (earlier ++ [reply]).map Reply.channel ++ left)
    (absent : ∀ other ∈ earlier, other.outcome ≠ .ok true) (answered : reply.outcome = .ok true)
    (here : reply.asked.id = reply.channel.id)
    (performed : Channel.addDevice (lines reply.channel.id) code (reply.asked, asked) =
      (added, (changed, reached)))
    (after : channels = earlier.map Reply.asked ++ changed :: left) :
    Locates lines code registry (earlier ++ [reply]) left asked (.ok (some reply.channel.id))
      (Registry.settle { registry with channels := channels } code added) reached where
  order := order
  present id := by
    constructor
    · intro told
      have same : reply.channel.id = id := Option.some.inj (Except.ok.inj told)
      exact ⟨reply, List.mem_append_right _ List.mem_cons_self, answered, same⟩
    · rintro ⟨other, member, found, rfl⟩
      rw [only_present absent member found]
  absent := ⟨nofun, fun denied => absurd answered
    (by rw [denied reply (List.mem_append_right _ List.mem_cons_self)]; exact nofun)⟩
  fails _ := ⟨nofun, fun ⟨denied, _⟩ =>
    absurd answered (denied reply (List.mem_append_right _ List.mem_cons_self))⟩
  renewed other member found := by
    obtain rfl := only_present absent member found
    obtain ⟨made, device, line, setUp, channel, address, known, unknown, rfl⟩ :=
      exists_setUp performed here
    rw [find?_settle, settle_channels]
    exact ⟨earlier, made, device, line, rfl, absent, setUp, channel, address, known, unknown, after⟩
  removed denied :=
    absurd answered (denied reply (List.mem_append_right _ List.mem_cons_self))
  others other different := find?_settle_other different.symm added

/-- Looking for a device that no channel has. -/
theorem locates_nowhere {registry : Registry β} {replies : List (Reply β ε)} {asked : ω}
    (order : registry.channels = replies.map Reply.channel ++ [])
    (absent : ∀ reply ∈ replies, reply.outcome ≠ .ok true)
    {outcome : Except (RegistryError ε) (Option ChannelId)}
    (told : outcome = match firstError replies with
      | some failure => .error failure
      | none => .ok none) :
    Locates lines code registry replies [] asked outcome
      (Registry.drop { registry with channels := replies.map Reply.asked } code) asked where
  order := order
  present id := by
    refine ⟨fun found => ?_, fun ⟨reply, member, answered, _⟩ =>
      absurd answered (absent reply member)⟩
    rw [told] at found
    split at found
    · exact nomatch found
    · exact nomatch (Except.ok.inj found)
  absent := by
    rw [← firstError_eq_none absent, told]
    cases firstError replies with
    | none => exact ⟨fun _ => rfl, fun _ => rfl⟩
    | some failure => exact ⟨nofun, nofun⟩
  fails failure := by
    rw [← firstError_eq_some absent, told]
    cases firstError replies with
    | none => exact ⟨nofun, fun ⟨_, failed⟩ => nomatch failed⟩
    | some first =>
      refine ⟨fun failed => ⟨absent, congrArg some (Except.error.inj failed)⟩, fun ⟨_, same⟩ => ?_⟩
      exact congrArg Except.error (Option.some.inj same)
  renewed reply member answered := absurd answered (absent reply member)
  removed _ := ⟨rfl, find?_settle _ code none, rfl, rfl⟩
  others other different := find?_settle_other different.symm none

/-- **Looking for one device** settles its entry by the replies of the channels, whatever the lines
do. -/
theorem locate_settles (lines : ChannelId → Master (β × ω) ε) (code : Address)
    (registry : Registry β) (world : ω) :
    ∃ replies left asked outcome after reached,
      Asks lines code registry.channels world replies left asked ∧
      (locate lines code).perform (registry, world) = (outcome, (after, reached)) ∧
      Locates lines code registry replies left asked outcome after reached := by
  obtain ⟨replies, left, asked, asks, inquired⟩ := exists_asks lines code registry.channels world
  unfold locate
  rw [Action.perform_ofStep]
  dsimp only
  generalize inquire lines code registry.channels world = inquiry at inquired
  have order := asks.channels_eq
  cases inquired with
  | @here earlier reply _ _ _ _ _ _ absent answered performed =>
    have same := asks.id_eq reply (List.mem_append_right _ List.mem_cons_self)
    exact ⟨_, _, _, _, _, _, asks, rfl, locates_here order absent answered same performed rfl⟩
  | nowhere absent =>
    cases failed : firstError replies with
    | none =>
      exact ⟨_, _, _, _, _, _, asks, rfl, locates_nowhere order absent (by rw [failed])⟩
    | some failure =>
      exact ⟨_, _, _, _, _, _, asks, rfl, locates_nowhere order absent (by rw [failed])⟩

end WireBridge.Registry
