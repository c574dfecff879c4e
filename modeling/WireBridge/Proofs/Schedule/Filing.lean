/-
**Commands that are put into the queue.**

* `Filing.foldl_add`: commands are filed as long as there is room, and the others fail;
* `Subscriptions.Change`: what a subscription and its end may do, which is to give one answer and to
  repeat one read;
* `Subscriptions.mem_templates_of_mem_due`: what is queued later are the reads that are repeated.
-/

import WireBridge.Schedule.Subscription

namespace WireBridge

/-! ### Filing -/

/-- Commands are filed as long as there is room, and the others fail. -/
theorem Filing.foldl_add (commands : List Command) (filing : Filing) :
    commands.foldl Filing.add filing =
      let room := filing.queue.capacity - filing.queue.items.length
      ⟨{ filing.queue with items := filing.queue.items ++ commands.take room },
        filing.deliveries ++ (commands.drop room).map fun command =>
          .failure command .queueFull⟩ := by
  induction commands generalizing filing with
  | nil => simp
  | cons command rest ih =>
    rw [List.foldl_cons, ih]
    unfold Filing.add Queue.push?
    by_cases room : filing.queue.items.length < filing.queue.capacity
    · have more : filing.queue.capacity - filing.queue.items.length =
          (filing.queue.capacity - (filing.queue.items.length + 1)) + 1 := by omega
      simp [room, more]
    · have full : filing.queue.capacity - filing.queue.items.length = 0 := by omega
      simp [room, full]

/-- A queue with room for all of some commands. -/
theorem Queue.file_of_room {queue : Queue} {commands : List Command}
    (room : queue.items.length + commands.length ≤ queue.capacity) :
    queue.file commands = ⟨{ queue with items := queue.items ++ commands }, []⟩ := by
  have fits : commands.length ≤ queue.capacity - queue.items.length := by omega
  unfold Queue.file
  rw [Filing.foldl_add]
  simp [List.take_of_length_le fits, List.drop_of_length_le fits]

/-! ### Subscriptions -/

/-- The delivery of an outcome. -/
def Delivery.ofOutcome (command : Command) : Except CommandError Response → Delivery
  | .ok response => .success command response
  | .error cause => .failure command cause

namespace Subscriptions

/-- The reads that are repeated. -/
def templates (subscriptions : Subscriptions) : List Command :=
  subscriptions.byDevice.entries.map (·.2.template) ++
    subscriptions.byFamily.entries.map (·.2.template)

/-- What a verb may do to the subscriptions: it gives one answer, which is not about the queue, and
queues and stores the read that the command repeats, if anything. -/
structure Change (subscriptions : Subscriptions) (command : Command) (change : SubscriptionChange) :
    Prop where
  delivery : (∃ verb, change.delivery = .success command (acknowledgement verb command)) ∨
    ∃ error, error ≠ .queueFull ∧ change.delivery = .failure command error
  copies : change.copies = [] ∨ change.copies = [command.plainRead]
  templates : ∀ template ∈ change.subscriptions.templates,
    template ∈ subscriptions.templates ∨ template = command.plainRead

/-- The answer of a verb goes to a sink of its command. -/
theorem Change.outcome {subscriptions : Subscriptions} {command : Command}
    {change : SubscriptionChange} (changed : Change subscriptions command change) :
    ∃ outcome, change.delivery = .ofOutcome command outcome := by
  rcases changed.delivery with ⟨verb, delivery⟩ | ⟨error, _, delivery⟩
  · exact ⟨.ok _, delivery⟩
  · exact ⟨.error error, delivery⟩

theorem change_refuse (subscriptions : Subscriptions) (command : Command) {error : CommandError}
    (other : error ≠ .queueFull) :
    Change subscriptions command (subscriptions.refuse command error) :=
  ⟨.inr ⟨error, other, rfl⟩, .inl rfl, fun _ member => .inl member⟩

theorem mem_insert_templates {κ : Type} [Ranked κ] {map : KeyMap κ Subscription} {key : κ}
    {entry : Subscription} {template : Command}
    (member : template ∈ (map.insert key entry).entries.map (·.2.template)) :
    template ∈ map.entries.map (·.2.template) ∨ template = entry.template := by
  obtain ⟨stored, storedMember, rfl⟩ := List.mem_map.mp member
  rcases KeyMap.mem_of_mem_insertEntry storedMember with rfl | old
  · exact .inr rfl
  · exact .inl (List.mem_map.mpr ⟨stored, old, rfl⟩)

/-- A subscription queues at most one read. -/
theorem change_stored {subscriptions changed : Subscriptions} {command : Command}
    (templates : ∀ template ∈ changed.templates,
      template ∈ subscriptions.templates ∨ template = command.plainRead) (fresh family : Bool) :
    Change subscriptions command (changed.stored command command.plainRead fresh family) := by
  unfold stored
  cases fresh with
  | true => exact ⟨.inl ⟨_, rfl⟩, .inr rfl, templates⟩
  | false => exact ⟨.inr ⟨_, CommandError.noConfusion, rfl⟩, .inl rfl, templates⟩

theorem mem_erase_templates {κ : Type} [Ranked κ] {map : KeyMap κ Subscription} {key : κ}
    {template : Command} (member : template ∈ (map.erase key).entries.map (·.2.template)) :
    template ∈ map.entries.map (·.2.template) := by
  obtain ⟨stored, storedMember, rfl⟩ := List.mem_map.mp member
  exact List.mem_map.mpr ⟨stored, (List.mem_filter.mp storedMember).1, rfl⟩

theorem change_removed {subscriptions changed : Subscriptions} {command : Command}
    (templates : ∀ template ∈ changed.templates, template ∈ subscriptions.templates)
    (found family : Bool) :
    Change subscriptions command (changed.removed command found family) ∧
      (changed.removed command found family).copies = [] := by
  have kept : ∀ template ∈ changed.templates,
      template ∈ subscriptions.templates ∨ template = command.plainRead :=
    fun template member => .inl (templates template member)
  unfold removed
  cases found with
  | true => exact ⟨⟨.inl ⟨_, rfl⟩, .inl rfl, kept⟩, rfl⟩
  | false => exact ⟨⟨.inr ⟨_, CommandError.noConfusion, rfl⟩, .inl rfl, kept⟩, rfl⟩

theorem change_subscribe (subscriptions : Subscriptions) (command : Command) (now : Nat) :
    Change subscriptions command (subscriptions.subscribe command now) := by
  unfold subscribe
  split
  · next quantity interval _ _ =>
    dsimp only
    split
    · refine change_stored (fun template member => ?_) _ _
      rcases List.mem_append.mp member with device | family
      · exact (mem_insert_templates device).imp (List.mem_append_left _) id
      · exact .inl (List.mem_append_right _ family)
    · refine change_stored (fun template member => ?_) _ _
      rcases List.mem_append.mp member with device | family
      · exact .inl (List.mem_append_left _ device)
      · exact (mem_insert_templates family).imp (List.mem_append_right _) id
    · exact change_refuse subscriptions command CommandError.noConfusion
    · exact change_refuse subscriptions command CommandError.noConfusion
  · exact change_refuse subscriptions command CommandError.noConfusion

/-- An unsubscription queues nothing. -/
theorem change_unsubscribe (subscriptions : Subscriptions) (command : Command) :
    Change subscriptions command (subscriptions.unsubscribe command) ∧
      (subscriptions.unsubscribe command).copies = [] := by
  unfold unsubscribe
  split
  · exact ⟨change_refuse subscriptions command CommandError.noConfusion, rfl⟩
  · dsimp only
    split
    · refine change_removed (fun template member => ?_) _ _
      rcases List.mem_append.mp member with device | family
      · exact List.mem_append_left _ (mem_erase_templates device)
      · exact List.mem_append_right _ family
    · refine change_removed (fun template member => ?_) _ _
      rcases List.mem_append.mp member with device | family
      · exact List.mem_append_left _ device
      · exact List.mem_append_right _ (mem_erase_templates family)
    · exact ⟨change_refuse subscriptions command CommandError.noConfusion, rfl⟩
    · exact ⟨change_refuse subscriptions command CommandError.noConfusion, rfl⟩

/-- The reads that are due are repeated reads. -/
theorem mem_templates_of_mem_due {subscriptions : Subscriptions} {now : Nat} {copy : Command}
    (due : copy ∈ subscriptions.due now) : copy ∈ subscriptions.templates := by
  have listed : ∀ {κ : Type} [Ranked κ] (map : KeyMap κ Subscription), copy ∈ dueOf map now →
      copy ∈ map.entries.map (·.2.template) := by
    intro κ _ map member
    obtain ⟨entry, entryMember, rfl⟩ := List.mem_map.mp member
    exact List.mem_map.mpr ⟨entry, (List.mem_filter.mp entryMember).1, rfl⟩
  rcases List.mem_append.mp due with device | family
  · exact List.mem_append_left _ (listed _ device)
  · exact List.mem_append_right _ (listed _ family)

/-- Periods that start again repeat the same reads. -/
theorem templates_advance (subscriptions : Subscriptions) (now : Nat) :
    (subscriptions.advance now).templates = subscriptions.templates := by
  have same : ∀ subscription : Subscription,
      (subscription.advance now).template = subscription.template := by
    intro subscription
    unfold Subscription.advance
    split <;> rfl
  simp only [templates, advance, KeyMap.mapValues, List.map_map, Function.comp_def, same]

end Subscriptions

end WireBridge
