/-
**How it stands with commands that were accepted.**

* `Session.answersTo`: the answers to the command with a number;
* `Session.Stands`: a command waits and has no answer, or it has one answer and does not wait;
* `Session.Accounted`: so stands every command that was accepted;
* `Session.accounted_line`, `Session.accounted_turn`: a line and a turn keep it so.
-/

import WireBridge.Proofs.Bridge.Accounting
import WireBridge.Proofs.Host.Recording

namespace WireBridge.Session

open Bridge (Ledger Poll Taking left_cons mem_left step step_turn)

variable {β ω ε : Type}

/-- The answers to the command with a number. -/
def Record.answers (number : Nat) : Record β ω → List Delivery
  | .line _ => []
  | .turn none _ => []
  | .turn (some poll) _ => if poll.number = number then poll.turn.deliveries else []

/-- The answers to the command with a number, in order. -/
def answersTo (number : Nat) (records : List (Record β ω)) : List Delivery :=
  records.flatMap (Record.answers number)

/-- The number and the command of a line that was accepted. -/
def Record.accepted? : Record β ω → Option (Nat × Command)
  | .line receipt => receipt.fate.command?.map fun command => (receipt.number, command)
  | .turn .. => none

/-- The commands that were accepted, with their numbers. -/
def accepted (records : List (Record β ω)) : List (Nat × Command) :=
  records.filterMap Record.accepted?

/-- How it stands with a command that was accepted: it waits, perhaps in a later phase, and has no
answer, or it has one answer and does not wait any more. -/
inductive Stands (records : List (Record β ω)) (ledger : Ledger β ω) (number : Nat)
    (command : Command) : Prop where
  | waits {phase : ReadPhase} {timer : Timer}
      (member : ({ command with phase := phase, timer := timer }, number) ∈ ledger.waiting)
      (none : answersTo number records = [])
  | answered {outcome : Except CommandError Response}
      (gone : ∀ entry ∈ ledger.waiting, entry.2 ≠ number)
      (one : answersTo number records = [.ofOutcome command outcome])

/-- What is neither answered nor moved stands as before. -/
theorem Stands.mono {records more : List (Record β ω)} {ledger reached : Ledger β ω} {number : Nat}
    {command : Command} (stands : Stands records ledger number command)
    (same : answersTo number more = answersTo number records)
    (stays : ∀ other, (other, number) ∈ ledger.waiting → (other, number) ∈ reached.waiting)
    (gone : (∀ entry ∈ ledger.waiting, entry.2 ≠ number) →
      ∀ entry ∈ reached.waiting, entry.2 ≠ number) : Stands more reached number command := by
  cases stands with
  | waits member none => exact .waits (stays _ member) (same.trans none)
  | answered left one => exact .answered (gone left) (same.trans one)

/-- Records that fit a ledger. -/
structure Accounted (records : List (Record β ω)) (ledger : Ledger β ω) : Prop where
  sound : ledger.Sound
  below : ∀ entry ∈ accepted records, entry.1 < ledger.issued
  fresh : ∀ number, ledger.issued ≤ number → answersTo number records = []
  distinct : ((accepted records).map Prod.fst).Nodup
  stands : ∀ entry ∈ accepted records, Stands records ledger entry.1 entry.2

variable {lines : ChannelId → Master (β × ω) ε}

theorem answersTo_snoc (number : Nat) (records : List (Record β ω)) (record : Record β ω) :
    answersTo number (records ++ [record]) = answersTo number records ++ record.answers number := by
  simp [answersTo]

theorem answersTo_line (number : Nat) (records : List (Record β ω)) (receipt : Receipt β) :
    answersTo number (records ++ [.line receipt]) = answersTo number records := by
  rw [answersTo_snoc]
  exact List.append_nil _

theorem accepted_append (first second : List (Record β ω)) :
    accepted (first ++ second) = accepted first ++ accepted second :=
  List.filterMap_append

theorem accepted_snoc (records : List (Record β ω)) (record : Record β ω) :
    accepted (records ++ [record]) = accepted records ++ record.accepted?.toList := by
  rw [accepted_append]
  cases found : record.accepted? <;> simp [accepted, found]

theorem ofOutcome_stage (command : Command) (phase : ReadPhase) (timer : Timer)
    (outcome : Except CommandError Response) :
    Delivery.ofOutcome { command with phase := phase, timer := timer } outcome =
      Delivery.ofOutcome command outcome := by
  cases outcome <;> rfl

theorem accounted_start {ledger : Ledger β ω} (sound : ledger.Sound) : Accounted [] ledger :=
  ⟨sound, fun _ member => absurd member List.not_mem_nil, fun _ _ => rfl, .nil,
    fun _ member => absurd member List.not_mem_nil⟩

/-- A line whose command is not accepted leaves everything as it was. -/
theorem receive_other {ledger : Ledger β ω} {text : String}
    (met : (fate ledger.bridge text).command? = none) : receive lines text ledger = ledger := by
  rw [receive, met]

/-- An accepted command waits behind the others under the next number. -/
theorem receive_accepted {ledger : Ledger β ω} (sound : ledger.Sound) {text : String}
    {command : Command} (met : (fate ledger.bridge text).command? = some command) :
    (receive lines text ledger).waiting = ledger.waiting ++ [(command, ledger.issued)] ∧
      (receive lines text ledger).issued = ledger.issued + 1 := by
  have entered := (@receive_eq _ _ _ lines text ledger).1
  have dropped : (ledger.bridge.queue.items ++ [command]).drop ledger.waiting.length =
      [command] := by
    rw [← sound.queued]
    exact List.drop_left' (List.length_map _)
  have bridge : (fate ledger.bridge text).enter ledger.bridge =
      ledger.bridge.queueing (ledger.bridge.queue.items ++ [command]) := by
    cases fated : fate ledger.bridge text <;> simp_all [Fate.command?, Fate.enter]
  rw [bridge, receive, met] at entered
  rw [receive, met]
  change (ledger.bridge.accept command).2.2 = _ at entered
  show (Ledger.settle _ _ (ledger.bridge.accept command).2.2 _).waiting = _ ∧
    (Ledger.settle _ _ (ledger.bridge.accept command).2.2 _).issued = _
  rw [entered]
  simp only [Ledger.settle, Bridge.queueing, dropped]
  exact ⟨rfl, rfl⟩

/-- What does not accept a command keeps the account, when the commands that were accepted before
stand as they should. -/
theorem Accounted.next {records more : List (Record β ω)} {ledger reached : Ledger β ω}
    (accounted : Accounted records ledger) (sound : reached.Sound)
    (issued : ledger.issued ≤ reached.issued) (same : accepted more = accepted records)
    (silent : ∀ number, ledger.issued ≤ number → answersTo number more = answersTo number records)
    (stands : ∀ entry ∈ accepted records, Stands more reached entry.1 entry.2) :
    Accounted more reached where
  sound := sound
  below := by
    rw [same]
    exact fun entry member => Nat.lt_of_lt_of_le (accounted.below entry member) issued
  fresh number new := by
    have old := Nat.le_trans issued new
    rw [silent number old, accounted.fresh number old]
  distinct := by
    rw [same]
    exact accounted.distinct
  stands := by
    rw [same]
    exact stands

/-- A line whose command is not accepted keeps the account. -/
theorem accounted_other {records : List (Record β ω)} {ledger : Ledger β ω}
    (accounted : Accounted records ledger) {text : String}
    (met : (fate ledger.bridge text).command? = none) :
    Accounted (records ++ [.line ⟨text, ledger.bridge, ledger.issued⟩]) ledger := by
  have kept : accepted (records ++ [.line ⟨text, ledger.bridge, ledger.issued⟩]) =
      accepted records := by
    simp [accepted_snoc, Record.accepted?, Receipt.fate, met]
  exact accounted.next accounted.sound (Nat.le_refl _) kept (fun _ _ => answersTo_line ..)
    fun entry member => (accounted.stands entry member).mono (answersTo_line ..) (fun _ => id) id

/-- An accepted command is new, and it waits. -/
theorem accounted_accepted {records : List (Record β ω)} {ledger : Ledger β ω}
    (accounted : Accounted records ledger) {text : String} {command : Command}
    (met : (fate ledger.bridge text).command? = some command) :
    Accounted (records ++ [.line ⟨text, ledger.bridge, ledger.issued⟩])
      (receive lines text ledger) := by
  obtain ⟨waiting, issued⟩ := @receive_accepted _ _ _ lines _ accounted.sound _ _ met
  have grown : accepted (records ++ [.line ⟨text, ledger.bridge, ledger.issued⟩]) =
      accepted records ++ [(ledger.issued, command)] := by
    simp [accepted_snoc, Record.accepted?, Receipt.fate, met]
  refine ⟨receive_sound text accounted.sound, ?_, ?_, ?_, ?_⟩
  · rw [grown, issued]
    intro entry member
    rcases List.mem_append.mp member with old | new
    · exact Nat.lt_succ_of_lt (accounted.below entry old)
    · rw [List.mem_singleton.mp new]
      exact Nat.lt_succ_self _
  · rw [issued]
    intro number new
    rw [answersTo_line, accounted.fresh number (Nat.le_of_succ_le new)]
  · rw [grown, List.map_append]
    refine List.nodup_append.mpr ⟨accounted.distinct, List.pairwise_singleton _ _, ?_⟩
    intro old oldMember new newMember
    obtain ⟨entry, member, rfl⟩ := List.mem_map.mp oldMember
    rw [List.mem_singleton.mp newMember]
    exact Nat.ne_of_lt (accounted.below entry member)
  · rw [grown]
    intro entry member
    rcases List.mem_append.mp member with old | new
    · refine (accounted.stands entry old).mono (answersTo_line ..) (fun other waits => ?_)
        fun gone waits there => ?_
      · rw [waiting]
        exact List.mem_append_left _ waits
      · rw [waiting] at there
        rcases List.mem_append.mp there with before | last
        · exact gone waits before
        · rw [List.mem_singleton.mp last]
          exact (Nat.ne_of_lt (accounted.below entry old)).symm
    · rw [List.mem_singleton.mp new]
      have last : (command, ledger.issued) ∈ (receive lines text ledger).waiting := by
        rw [waiting]
        exact List.mem_append_right _ (List.mem_singleton_self _)
      exact @Stands.waits _ _ _ _ _ _ command.phase command.timer last
        ((answersTo_line ..).trans (accounted.fresh _ (Nat.le_refl _)))

/-- A line keeps the account. -/
theorem accounted_line {records : List (Record β ω)} {ledger : Ledger β ω}
    (accounted : Accounted records ledger) (text : String) :
    Accounted (records ++ [(note lines (.line text) ledger).1])
      (note lines (.line text) ledger).2 := by
  simp only [note_line]
  cases met : (fate ledger.bridge text).command? with
  | none =>
    rw [receive_other met]
    exact accounted_other accounted met
  | some command => exact accounted_accepted accounted met

/-- Commands that come into the queue get numbers that are new. -/
theorem mem_settled {kept : List (Command × Nat)} {fresh : List Command} {issued : Nat}
    {entry : Command × Nat} (member : entry ∈ kept ++ fresh.zipIdx issued) :
    entry ∈ kept ∨ issued ≤ entry.2 := by
  rcases List.mem_append.mp member with old | new
  · exact .inl old
  · exact .inr (List.le_snd_of_mem_zipIdx new)

/-- The command that a turn takes is put back without an answer, or it is answered. -/
theorem stands_taken {records : List (Record β ω)} {ledger reached : Ledger β ω} {number : Nat}
    {command taken : Command} {rest : List (Command × Nat)} {now : Nat} {turn : Turn}
    {before after : Bridge β} {world left : ω} (stands : Stands records ledger number command)
    (distinct : (ledger.waiting.map Prod.snd).Nodup) (below : number < ledger.issued)
    (front : ledger.waiting = (taken, number) :: rest)
    (taking : Taking lines now taken before world (turn, after, left)) {fresh : List Command}
    (waiting : reached.waiting =
      Bridge.left turn ((taken, number) :: rest) ++ fresh.zipIdx ledger.issued)
    {more : List (Record β ω)}
    (answers : answersTo number more = answersTo number records ++ turn.deliveries) :
    Stands more reached number command := by
  rw [front] at distinct
  obtain ⟨alone, _⟩ := List.nodup_cons.mp distinct
  cases stands with
  | answered gone one => exact absurd rfl (gone (taken, number) (front ▸ List.mem_cons_self))
  | @waits phase timer member none =>
    obtain rfl : taken = { command with phase := phase, timer := timer } := by
      rw [front] at member
      rcases List.mem_cons.mp member with first | other
      · exact (Prod.mk.inj first).1.symm
      · exact absurd (List.mem_map_of_mem other) alone
    rw [none, List.nil_append] at answers
    obtain ⟨_, ⟨phase, timer, returned, silent⟩ | ⟨returned, outcome, told⟩⟩ := taking.answers
    · have back : ({ command with phase := phase, timer := timer }, number) ∈ reached.waiting := by
        rw [waiting, left_cons, returned]
        simp
      exact .waits back (answers.trans silent)
    · have one : answersTo number more = [.ofOutcome command outcome] := by
        rw [answers, told, ofOutcome_stage]
      refine .answered (fun entry there same => ?_) one
      rw [waiting, left_cons, returned] at there
      rcases mem_settled there with old | new
      · simp only [Option.toList_none, List.map_nil, List.append_nil] at old
        exact alone (List.mem_map.mpr ⟨entry, old, same⟩)
      · omega

/-- A turn keeps the account. -/
theorem accounted_turn {records : List (Record β ω)} {ledger : Ledger β ω}
    (accounted : Accounted records ledger) (now : Nat) :
    Accounted (records ++ [(note lines (.turn now) ledger).1])
      (note lines (.turn now) ledger).2 := by
  obtain ⟨sound, kept, fresh, _, waiting, cases⟩ := step_turn lines accounted.sound now
  have issued := Bridge.issued_le_step lines (.turn now) ledger
  rw [note_turn]
  have same : accepted (records ++ [Record.turn (step lines (.turn now) ledger).1.poll?
      (late lines now ledger)]) = accepted records := by
    simp [accepted_snoc, Record.accepted?]
  rcases cases with ⟨empty, rfl, entryEq⟩ | taken
  · have silent (number : Nat) : answersTo number (records ++
        [Record.turn (step lines (.turn now) ledger).1.poll? (late lines now ledger)]) =
          answersTo number records := by
      rw [answersTo_snoc, entryEq]
      exact List.append_nil _
    refine accounted.next sound issued same (fun number _ => silent number) fun entry member =>
      (accounted.stands entry member).mono (silent _) (fun other waits => ?_) fun _ waits there => ?_
    · rw [empty] at waits
      cases waits
    · rw [waiting] at there
      have below := accounted.below entry member
      rcases mem_settled there with old | new
      · cases old
      · omega
  · obtain ⟨command, number, rest, turn, reached, world, front, rfl, taking, entryEq⟩ := taken
    have told (other : Nat) : answersTo other (records ++
        [Record.turn (step lines (.turn now) ledger).1.poll? (late lines now ledger)]) =
          answersTo other records ++ if number = other then turn.deliveries else [] := by
      rw [answersTo_snoc, entryEq]
      rfl
    have silent {other : Nat} (different : number ≠ other) : answersTo other (records ++
        [Record.turn (step lines (.turn now) ledger).1.poll? (late lines now ledger)]) =
          answersTo other records := by
      rw [told, if_neg different, List.append_nil]
    have own : number < ledger.issued :=
      accounted.sound.below (command, number) (front ▸ List.mem_cons_self)
    refine accounted.next sound issued same
      (fun other new => silent (Nat.ne_of_lt (Nat.lt_of_lt_of_le own new))) fun entry member => ?_
    have stands := accounted.stands entry member
    by_cases taken : number = entry.1
    · subst taken
      have answers := told entry.1
      rw [if_pos rfl] at answers
      exact stands_taken stands accounted.sound.distinct own front taking waiting answers
    · refine stands.mono (silent taken) (fun other waits => ?_) fun gone waits there => ?_
      · rw [front] at waits
        rw [waiting, left_cons]
        rcases List.mem_cons.mp waits with first | behind
        · exact absurd (Prod.mk.inj first).2.symm taken
        · exact List.mem_append_left _ (List.mem_append_left _ behind)
      · rw [waiting] at there
        have below := accounted.below entry member
        rcases mem_settled there with old | new
        · rcases mem_left old with behind | ⟨first, _⟩
          · exact gone waits (front ▸ List.mem_cons_of_mem _ behind)
          · exact fun same => taken (first.symm.trans same)
        · omega

theorem accounted_notes (inputs : List Input) {earlier : List (Record β ω)} {ledger : Ledger β ω}
    (accounted : Accounted earlier ledger) :
    Accounted (earlier ++ (notes lines inputs ledger).1) (notes lines inputs ledger).2 := by
  induction inputs generalizing earlier ledger with
  | nil => rwa [notes, List.append_nil]
  | cons input rest later =>
    have step : Accounted (earlier ++ [(note lines input ledger).1])
        (note lines input ledger).2 := by
      cases input with
      | line text => exact accounted_line accounted text
      | turn now => exact accounted_turn accounted now
    have goesOn := later step
    rwa [List.append_assoc, List.singleton_append] at goesOn

theorem accounted_watch (looks : List Look) {earlier : List (Record β ω)} {ledger : Ledger β ω}
    (accounted : Accounted earlier ledger) :
    Accounted (earlier ++ (watch lines looks ledger).1) (watch lines looks ledger).2.2 := by
  induction looks generalizing earlier ledger with
  | nil => rwa [watch, List.append_nil]
  | cons look rest later =>
    have round := @accounted_notes _ _ _ lines look.inputs _ _ accounted
    cases stops : over? lines look ledger with
    | some ending => rwa [watch_over stops]
    | none =>
      rw [watch_going stops, ← List.append_assoc]
      exact later round

/-- When nothing waits, every command has been answered. -/
theorem Accounted.answered {records : List (Record β ω)} {ledger : Ledger β ω}
    (accounted : Accounted records ledger) (empty : ledger.bridge.queue.items = [])
    {entry : Nat × Command} (member : entry ∈ accepted records) :
    ∃ outcome, answersTo entry.1 records = [.ofOutcome entry.2 outcome] := by
  cases accounted.stands entry member with
  | answered gone one => exact ⟨_, one⟩
  | waits waiting none =>
    rw [← accounted.sound.queued, List.map_eq_nil_iff] at empty
    rw [empty] at waiting
    cases waiting

end WireBridge.Session
