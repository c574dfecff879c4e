/-
**How often the status of a chip is read.**

After a 1-Wire command, or a reset of the chip, the driver reads the status until the chip is done.
What it does there depends only on what the reads would answer one after the other, with a
millisecond between them, and on its limit.

* `ChipLink.statuses`: the answers that a link holds ready for reads of the status;
* `Chip.Polls`: what comes of reading them, in terms of the first answer that is not futile;
* `Chip.poll_polls`: **the polling loop** does just that, with any answers and any limit;
* `Chip.status_polled`: **so does every 1-Wire command, and every reset** of the chip, once it was
  written; with a limit of zero nothing is read.
-/

import WireBridge.Proofs.Chip.Notes

namespace WireBridge

variable {σ ε : Type}

/-! ### Answers that are read one after the other -/

namespace ChipLink

variable (link : ChipLink σ ε)

/-- One read of the status: the byte that is answered, and the line after it. -/
def look (line : σ) : Except ε UInt8 × σ :=
  let told := (link.bus.read 0x18 1).perform line
  (told.1.map fun bytes => bytes.get ⟨0, Nat.one_pos⟩, told.2)

/-- The line after some reads of the status, each with a pause of a millisecond. -/
def waited : Nat → σ → σ
  | 0, line => line
  | rounds + 1, line => waited rounds (link.pause 1 (link.look line).2)

/-- What a read of the status answers after a number of others. -/
def statuses (line : σ) (earlier : Nat) : Except ε UInt8 :=
  (link.look (link.waited earlier line)).1

end ChipLink

namespace Chip

/-- A link whose reads of the status answer what is given. The line is the number of reads so
far. -/
def streaming (answers : Nat → Except ε UInt8) : ChipLink Nat ε where
  bus := {
    read _ count := Action.ofStep fun read =>
      ((answers read).map fun byte => Vector.replicate count byte, read + 1)
    write _ _ := pure ()
    writeRead _ _ count := pure (Vector.replicate count 0)
    transaction _ _ := pure [] }
  pause _ read := read

/-- Whatever the answers are, there is a link that holds them ready. -/
theorem statuses_streaming (answers : Nat → Except ε UInt8) :
    (streaming answers).statuses 0 = answers := by
  have look (read : Nat) : (streaming answers).look read = (answers read, read + 1) := by
    show ((((answers read).map fun byte => Vector.replicate 1 byte).map Vector.head), read + 1) = _
    rcases answers read with error | byte <;> rfl
  have waited (rounds read : Nat) : (streaming answers).waited rounds read = read + rounds := by
    induction rounds generalizing read with
    | zero => rfl
    | succ rounds ih =>
      rw [ChipLink.waited, look]
      exact (ih (read + 1)).trans (by omega)
  funext earlier
  rw [ChipLink.statuses, waited, look, Nat.zero_add]

/-! ### What comes of polling -/

/-- A read of the status that leaves the driver waiting. -/
def Futile (done : ChipStatus → Bool) (answer : Except ε UInt8) : Prop :=
  ∃ byte, answer = .ok byte ∧ done ⟨byte⟩ = false

/-- The note of a read of the status. -/
def Note.status (answer : Except ε UInt8) : Note :=
  .read 0x18 1 (answer.toOption.map fun byte => #v[byte])

/-- Some reads of the status, each with a pause of a millisecond. -/
def rounds (answers : Nat → Except ε UInt8) (count : Nat) : List Note :=
  (List.range count).flatMap fun earlier => [.status (answers earlier), .pause 1]

/-- What happened are so many reads of the status and so many pauses of a millisecond, and nothing
else. -/
structure Spent (reads pauses : Nat) (made : List Note) : Prop where
  looked : made.countP (fun note => note matches .read 0x18 1 _) = reads
  waited : made.count (.pause 1) = pauses
  nothingElse : made.length = reads + pauses

/-- What comes of reading the status until it is done, with a limit: if the first answers are futile
and the next one, still within the limit, is not, then that one decides; if all up to the limit are
futile, time is up. -/
structure Polls (done : ChipStatus → Bool) (limit : Nat) (answers : Nat → Except ε UInt8)
    (outcome : Except (ChipError ε) ChipStatus) (made : List Note) : Prop where
  ready : ∀ earlier byte, earlier < limit → (∀ index < earlier, Futile done (answers index)) →
    answers earlier = .ok byte → done ⟨byte⟩ = true →
      outcome = .ok ⟨byte⟩ ∧ made = rounds answers earlier ++ [.status (answers earlier)] ∧
        Spent (earlier + 1) earlier made
  broken : ∀ earlier error, earlier < limit → (∀ index < earlier, Futile done (answers index)) →
    answers earlier = .error error →
      outcome = .error (.i2c error) ∧ made = rounds answers earlier ++ [.status (answers earlier)] ∧
        Spent (earlier + 1) earlier made
  late : (∀ index < limit, Futile done (answers index)) →
    outcome = .error .timeout ∧ made = rounds answers limit ∧ Spent limit limit made
  bounded : ∃ reads ≤ limit, ∃ pauses ≤ reads, Spent reads pauses made

theorem rounds_succ (answers : Nat → Except ε UInt8) (count : Nat) :
    rounds answers (count + 1) =
      .status (answers 0) :: .pause 1 :: rounds (fun index => answers (index + 1)) count := by
  rw [rounds, List.range_succ_eq_map, List.flatMap_cons, List.flatMap_map]
  rfl

theorem Spent.round {reads pauses : Nat} {made : List Note} (spent : Spent reads pauses made)
    (answer : Except ε UInt8) :
    Spent (reads + 1) (pauses + 1) (.status answer :: .pause 1 :: made) where
  looked := by
    rw [List.countP_cons_of_pos rfl, List.countP_cons_of_neg Bool.noConfusion, spent.looked]
  waited := by rw [List.count_cons_of_ne Note.noConfusion, List.count_cons_self, spent.waited]
  nothingElse := by
    rw [List.length_cons, List.length_cons, spent.nothingElse]
    omega

theorem spent_rounds (answers : Nat → Except ε UInt8) (count : Nat) :
    Spent count count (rounds answers count) := by
  induction count generalizing answers with
  | zero => exact ⟨rfl, rfl, rfl⟩
  | succ count ih =>
    rw [rounds_succ]
    exact (ih fun index => answers (index + 1)).round (answers 0)

theorem Spent.last {reads pauses : Nat} {made : List Note} (spent : Spent reads pauses made)
    (answer : Except ε UInt8) : Spent (reads + 1) pauses (made ++ [.status answer]) where
  looked := by rw [List.countP_append, spent.looked]; rfl
  waited := by
    rw [List.count_append, spent.waited, List.count_cons_of_ne Note.noConfusion]
    rfl
  nothingElse := by rw [List.length_append, spent.nothingElse]; exact Nat.add_right_comm _ _ _

section Polls

variable {done : ChipStatus → Bool} {limit : Nat} {answers : Nat → Except ε UInt8}

/-- An answer that is not futile is the first of its kind if it comes first. -/
theorem eq_zero_of_first {earlier : Nat} (first : ¬ Futile done (answers 0))
    (futile : ∀ index < earlier, Futile done (answers index)) : earlier = 0 :=
  Nat.eq_zero_of_not_pos fun later => first (futile 0 later)

/-- The first answer is that the chip is done. -/
theorem Polls.ofDone {byte : UInt8} (answered : answers 0 = .ok byte)
    (isDone : done ⟨byte⟩ = true) :
    Polls done (limit + 1) answers (.ok ⟨byte⟩) [.status (answers 0)] := by
  have first : ¬ Futile done (answers 0) := by
    rintro ⟨other, same, notDone⟩
    obtain rfl := Except.ok.inj (answered.symm.trans same)
    exact Bool.noConfusion (isDone.symm.trans notDone)
  refine ⟨fun earlier other _ futile same _ => ?_, fun earlier error _ futile same => ?_,
    fun futile => absurd (futile 0 (Nat.succ_pos limit)) first,
    ⟨1, Nat.succ_pos limit, 0, Nat.zero_le 1, rfl, rfl, rfl⟩⟩
  · obtain rfl := eq_zero_of_first first futile
    obtain rfl := Except.ok.inj (answered.symm.trans same)
    exact ⟨rfl, rfl, (spent_rounds answers 0).last _⟩
  · obtain rfl := eq_zero_of_first first futile
    exact nomatch answered.symm.trans same

/-- The first read fails. -/
theorem Polls.ofError {error : ε} (failed : answers 0 = .error error) :
    Polls done (limit + 1) answers (.error (.i2c error)) [.status (answers 0)] := by
  have first : ¬ Futile done (answers 0) := by
    rintro ⟨other, same, -⟩
    exact nomatch failed.symm.trans same
  refine ⟨fun earlier byte _ futile same _ => ?_, fun earlier other _ futile same => ?_,
    fun futile => absurd (futile 0 (Nat.succ_pos limit)) first,
    ⟨1, Nat.succ_pos limit, 0, Nat.zero_le 1, rfl, rfl, rfl⟩⟩
  · obtain rfl := eq_zero_of_first first futile
    exact nomatch failed.symm.trans same
  · obtain rfl := eq_zero_of_first first futile
    obtain rfl := Except.error.inj (failed.symm.trans same)
    exact ⟨rfl, rfl, (spent_rounds answers 0).last _⟩

/-- The first answer is futile. -/
theorem Polls.later {outcome : Except (ChipError ε) ChipStatus} {made : List Note}
    (first : Futile done (answers 0))
    (rest : Polls done limit (fun index => answers (index + 1)) outcome made) :
    Polls done (limit + 1) answers outcome (.status (answers 0) :: .pause 1 :: made) := by
  have shifted {earlier : Nat} (futile : ∀ index < earlier + 1, Futile done (answers index))
      (index : Nat) (before : index < earlier) : Futile done (answers (index + 1)) :=
    futile (index + 1) (Nat.succ_lt_succ before)
  refine ⟨fun earlier byte soon futile same isDone => ?_, fun earlier error soon futile same => ?_,
    fun futile => ?_, ?_⟩
  · cases earlier with
    | zero =>
      obtain ⟨other, answered, notDone⟩ := first
      obtain rfl := Except.ok.inj (answered.symm.trans same)
      exact Bool.noConfusion (isDone.symm.trans notDone)
    | succ earlier =>
      obtain ⟨ended, rfl, -⟩ :=
        rest.ready earlier byte (Nat.lt_of_succ_lt_succ soon) (shifted futile) same isDone
      have whole := (spent_rounds answers (earlier + 1)).last (answers (earlier + 1))
      rw [rounds_succ] at whole ⊢
      exact ⟨ended, rfl, whole⟩
  · cases earlier with
    | zero =>
      obtain ⟨other, answered, -⟩ := first
      exact nomatch answered.symm.trans same
    | succ earlier =>
      obtain ⟨ended, rfl, -⟩ :=
        rest.broken earlier error (Nat.lt_of_succ_lt_succ soon) (shifted futile) same
      have whole := (spent_rounds answers (earlier + 1)).last (answers (earlier + 1))
      rw [rounds_succ] at whole ⊢
      exact ⟨ended, rfl, whole⟩
  · obtain ⟨ended, rfl, -⟩ := rest.late (shifted futile)
    have whole := spent_rounds answers (limit + 1)
    rw [rounds_succ] at whole ⊢
    exact ⟨ended, rfl, whole⟩
  · obtain ⟨reads, few, pauses, fewer, spent⟩ := rest.bounded
    exact ⟨reads + 1, Nat.succ_le_succ few, pauses + 1, Nat.succ_le_succ fewer, spent.round _⟩

end Polls

/-! ### The driver -/

variable {link : ChipLink σ ε}

/-- One read of the status with its note. -/
theorem transfer_look (chip : Chip) (line : σ) (notes : List Note) :
    (transfer (link.noted.bus.read address 1) : Action (Chip × (σ × List Note)) _ _).perform
        (chip, (line, notes)) =
      (((link.look line).1.map fun byte => #v[byte]).mapError .i2c,
        (chip, ((link.look line).2, .status (link.look line).1 :: notes))) := by
  unfold transfer
  rw [Action.perform_onSecond, Action.perform_mapError]
  simp only [ChipLink.noted, Action.noted_perform, ChipLink.look, address]
  rcases (link.bus.read 0x18 1).perform line with ⟨error | bytes, reached⟩
  · rfl
  · obtain ⟨byte, rfl⟩ : ∃ byte, bytes = #v[byte] := by
      refine ⟨bytes[0], Vector.ext fun index inside => ?_⟩
      obtain rfl : index = 0 := by omega
      rfl
    rfl

/-- One round of the polling loop. -/
theorem poll_succ_perform (done : ChipStatus → Bool) (limit : Nat) (chip : Chip) (line : σ)
    (notes : List Note) :
    (poll link.noted done (limit + 1)).perform (chip, (line, notes)) =
      match link.look line with
      | (.error error, looked) =>
        (.error (.i2c error), (chip, (looked, .status (.error error : Except ε UInt8) :: notes)))
      | (.ok byte, looked) =>
        let seen := .status (.ok byte : Except ε UInt8) :: notes
        if done ⟨byte⟩ then (.ok ⟨byte⟩, (chip, (looked, seen)))
        else
          (poll link.noted done limit).perform (chip, (link.pause 1 looked, .pause 1 :: seen)) := by
  rw [poll, Action.perform_bind, transfer_look]
  obtain ⟨error | byte, looked⟩ := link.look line
  · rfl
  · show Action.perform (if done ⟨byte⟩ then pure ⟨byte⟩ else do
      wait link.noted 1
      poll link.noted done limit) (chip, (looked, _)) = _
    cases isDone : done ⟨byte⟩ with
    | true => simp only [isDone, if_true, Action.perform_pure]
    | false =>
      simp only [isDone, Bool.false_eq_true, if_false]
      rfl

/-- **The polling loop** reads the status as long as that is futile and the limit allows. -/
theorem poll_polls (link : ChipLink σ ε) (done : ChipStatus → Bool) (limit : Nat) (chip : Chip)
    (line : σ) (notes : List Note) :
    ∃ outcome made reached,
      (poll link.noted done limit).perform (chip, (line, notes)) =
        (outcome, (chip, (reached, made.reverse ++ notes))) ∧
      Polls done limit (link.statuses line) outcome made := by
  induction limit generalizing line notes with
  | zero =>
    refine ⟨.error .timeout, [], line, rfl, fun _ _ soon => absurd soon (Nat.not_lt_zero _),
      fun _ _ soon => absurd soon (Nat.not_lt_zero _), fun _ => ⟨rfl, rfl, ⟨rfl, rfl, rfl⟩⟩,
      ⟨0, Nat.le_refl 0, 0, Nat.le_refl 0, rfl, rfl, rfl⟩⟩
  | succ limit ih =>
    have first : link.statuses line 0 = (link.look line).1 := rfl
    have later : (fun index => link.statuses line (index + 1)) =
        link.statuses (link.pause 1 (link.look line).2) := rfl
    rw [poll_succ_perform]
    generalize link.statuses line = answers at first later ⊢
    generalize link.look line = looked at first later ⊢
    obtain ⟨error | byte, reached⟩ := looked
    · exact ⟨.error (.i2c error), [.status (answers 0)], reached, by rw [first]; rfl,
        .ofError first⟩
    · cases isDone : done ⟨byte⟩ with
      | true =>
        exact ⟨.ok ⟨byte⟩, [.status (answers 0)], reached,
          by simp only [isDone, if_true, first]; rfl, .ofDone first isDone⟩
      | false =>
        obtain ⟨outcome, made, last, ran, polls⟩ :=
          ih (link.pause 1 reached) (.pause 1 :: .status (answers 0) :: notes)
        refine ⟨outcome, .status (answers 0) :: .pause 1 :: made, last, ?_,
          .later ⟨byte, first, isDone⟩ (later ▸ polls)⟩
        replace first : answers 0 = .ok byte := first
        rw [first] at ran ⊢
        simp only [isDone, Bool.false_eq_true, if_false, ran, List.reverse_cons, List.append_assoc,
          List.cons_append, List.nil_append]

/-- What comes of an action that writes some bytes and then waits: if the write fails, nothing is
read, and otherwise the status is polled with the limit of the driver. The driver knows afterwards
what is given. -/
def Awaited {φ : Type} (link : ChipLink σ ε) (bytes : List UInt8) (before after : Chip)
    (done : ChipStatus → Bool) (rename : ChipError ε → φ)
    (action : Action (Chip × (σ × List Note)) φ ChipStatus) : Prop :=
  ∀ line told,
    (∀ error, (link.bus.write address bytes).perform line = (.error error, told) →
      action.perform (before, (line, [])) =
        (.error (rename (.i2c error)), (before, (told, [.write address bytes none])))) ∧
    ((link.bus.write address bytes).perform line = (.ok (), told) →
      ∃ outcome made reached,
        action.perform (before, (line, [])) =
          (outcome.mapError rename,
            (after, (reached, (.write address bytes (some ()) :: made).reverse))) ∧
        Polls done before.retries.toNat (link.statuses told) outcome made)

/-- A write with its note. -/
theorem transfer_write (bytes : List UInt8) (chip : Chip) (line : σ) :
    (transfer (link.noted.bus.write address bytes) : Action (Chip × (σ × List Note)) _ _).perform
        (chip, (line, [])) =
      (((link.bus.write address bytes).perform line).1.mapError .i2c,
        (chip, (((link.bus.write address bytes).perform line).2,
          [.write address bytes ((link.bus.write address bytes).perform line).1.toOption]))) := rfl

theorem command_awaited (link : ChipLink σ ε) {chip : Chip} (configured : chip.unconfigured = false)
    (bytes : List UInt8) :
    Awaited link bytes chip chip (fun status => !status.busy) BusError.other
      (command link.noted bytes) := by
  have ran (line : σ) : (command link.noted bytes).perform (chip, (line, [])) =
      (Action.mapError BusError.other (do
        transfer (link.noted.bus.write address bytes)
        await link.noted fun status => !status.busy)).perform (chip, (line, [])) := by
    rw [command, Action.perform_current_bind]
    simp only [configured, Bool.false_eq_true, if_false]
  intro line told
  refine ⟨fun error failed => ?_, fun written => ?_⟩
  · rw [ran, Action.perform_mapError, Action.perform_bind, transfer_write, failed]
    rfl
  · obtain ⟨outcome, made, reached, polled, polls⟩ := poll_polls link
      (fun status => !status.busy) chip.retries.toNat chip told [.write address bytes (some ())]
    refine ⟨outcome, made, reached, ?_, polls⟩
    rw [ran, Action.perform_mapError, Action.perform_bind, transfer_write, written,
      List.reverse_cons]
    exact congrArg (fun ended => (ended.1.mapError BusError.other, ended.2)) polled

theorem resetChip_awaited (link : ChipLink σ ε) (chip : Chip) :
    Awaited link [deviceResetCommand] chip { chip with unconfigured := true } ChipStatus.chipReset
      id (resetChip link.noted) := by
  intro line told
  refine ⟨fun error failed => ?_, fun written => ?_⟩
  · rw [resetChip, Action.perform_bind, transfer_write, failed]
    rfl
  · obtain ⟨outcome, made, reached, polled, polls⟩ := poll_polls link
      ChipStatus.chipReset chip.retries.toNat { chip with unconfigured := true } told
      [.write address [deviceResetCommand] (some ())]
    refine ⟨outcome, made, reached, ?_, polls⟩
    have same : outcome.mapError id = outcome := by rcases outcome with error | status <;> rfl
    rw [resetChip, Action.perform_bind, transfer_write, written, List.reverse_cons, same]
    exact polled

/-- **Reading the status is bounded and exact.** A 1-Wire command goes to a chip that is configured,
and a reset to any chip. If the write fails, nothing is read. Otherwise the status is read until the
chip is no longer busy, or was reset, at most as often as the limit of the driver says and with a
pause of a millisecond after each futile read: the first answer that is not futile is returned, a
read that fails is reported at once, and after as many futile reads as the limit allows time is up.
This is so on every link, and there is a link for all answers that are possible. -/
theorem status_polled (link : ChipLink σ ε) (chip : Chip) :
    (chip.unconfigured = false → ∀ bytes,
      Awaited link bytes chip chip (fun status => !status.busy) BusError.other
        (command link.noted bytes)) ∧
    Awaited link [deviceResetCommand] chip { chip with unconfigured := true } ChipStatus.chipReset
      id (resetChip link.noted) ∧
    ∀ answers : Nat → Except ε UInt8,
      (streaming answers).statuses 0 = answers ∧
        ∀ bytes, ((streaming answers).bus.write address bytes).perform 0 = (.ok (), 0) :=
  ⟨command_awaited link, resetChip_awaited link chip, fun answers =>
    ⟨statuses_streaming answers, fun _ => rfl⟩⟩

/-- A line is reset on a chip that is busy at first, with a limit of three reads, and the third read
decides. With a limit of two reads, time is up before it. A reset of the chip with a limit of zero
reads nothing, and one whose first read fails reports that. -/
theorem status_polled_third :
    let answers : Nat → Except Unit UInt8 := fun earlier => .ok (if earlier < 2 then 0x01 else 0x02)
    let broken : Nat → Except Unit UInt8 := fun _ => .error ()
    let chip (retries : UInt8) (unconfigured : Bool) : Chip := ⟨retries, unconfigured, .powerOn⟩
    let futile : List Note := [.read 0x18 1 (some #v[0x01]), .pause 1]
    (chip 3 false).unconfigured = false ∧
    (∃ reached, (command (streaming answers).noted [0xb4]).perform (chip 3 false, (0, [])) =
      (.ok ⟨0x02⟩, (chip 3 false, (reached, (Note.write 0x18 [0xb4] (some ()) ::
        (futile ++ futile ++ [.read 0x18 1 (some #v[0x02])])).reverse)))) ∧
    (∃ reached, (command (streaming answers).noted [0xb4]).perform (chip 2 false, (0, [])) =
      (.error (.other .timeout), (chip 2 false, (reached,
        (Note.write 0x18 [0xb4] (some ()) :: (futile ++ futile)).reverse)))) ∧
    (∃ reached, (resetChip (streaming answers).noted).perform (chip 0 false, (0, [])) =
      (.error .timeout, (chip 0 true, (reached, [Note.write 0x18 [0xf0] (some ())])))) ∧
    ∃ reached, (resetChip (streaming broken).noted).perform (chip 3 true, (0, [])) =
      (.error (.i2c ()), (chip 3 true, (reached,
        [Note.read 0x18 1 none, .write 0x18 [0xf0] (some ())]))) := by
  intro answers broken chip futile
  have first : ∀ index < 2, Futile (fun status : ChipStatus => !status.busy) (answers index) :=
    fun index soon => ⟨0x01, by simp only [answers, if_pos soon], by decide⟩
  have commanded (retries : UInt8) (bytes : List UInt8) :=
    ((status_polled (streaming answers) (chip retries false)).1 rfl bytes 0 0).2 rfl
  rw [statuses_streaming] at commanded
  refine ⟨rfl, ?_, ?_, ?_, ?_⟩
  · obtain ⟨outcome, made, reached, ran, polls⟩ := commanded 3 [0xb4]
    obtain ⟨rfl, rfl, -⟩ := polls.ready 2 0x02 (by decide) first rfl (by decide)
    exact ⟨reached, ran⟩
  · obtain ⟨outcome, made, reached, ran, polls⟩ := commanded 2 [0xb4]
    obtain ⟨rfl, rfl, -⟩ := polls.late first
    exact ⟨reached, ran⟩
  · obtain ⟨outcome, made, reached, ran, polls⟩ :=
      ((status_polled (streaming answers) (chip 0 false)).2.1 0 0).2 rfl
    obtain ⟨rfl, rfl, -⟩ := polls.late fun _ soon => absurd soon (Nat.not_lt_zero _)
    exact ⟨reached, ran⟩
  · obtain ⟨outcome, made, reached, ran, polls⟩ :=
      ((status_polled (streaming broken) (chip 3 true)).2.1 0 0).2 rfl
    rw [statuses_streaming] at polls
    obtain ⟨rfl, rfl, -⟩ :=
      polls.broken 0 () (by decide) (fun _ soon => absurd soon (Nat.not_lt_zero _)) rfl
    exact ⟨reached, ran⟩

end Chip

end WireBridge
