/-
**A held write is sent once and in order.**

What reaches the peripheral is the list of the accepted operations, in which a held write is merged
with what follows it. So the merging is a function of lists (`Transport.merge`), which knows no
state, and the transport is compared with it.

* `Transport.run`: what comes of calls, with the transfers that each of them makes;
* `Transport.Served`: what one call comes to, one case for each way out;
* `Transport.merge`: accepted operations as the transfers that they make;
* `Transport.run_merged`: in every run the transfers are the merged operations, whose parts come
  once each and in order.
-/

import WireBridge.I2c.Transport
import WireBridge.Proofs.I2c.Demand

namespace WireBridge

open I2c (Demand Failing Operation PeerAddress Transfer)

namespace I2c.Demand

/-- The lengths of the buffers of a demand. -/
def sizes : Demand → List Nat
  | .read _ count => [count]
  | .write _ bytes => [bytes.length]
  | .writeRead _ bytes count => [bytes.length, count]
  | .transaction _ operations => operations.map Operation.length

/-- What is done with a peer, in order. -/
def parts : Demand → List (PeerAddress × Operation)
  | .read peer count => [(peer, .read count)]
  | .write peer bytes => [(peer, .write bytes)]
  | .writeRead peer bytes count => [(peer, .write bytes), (peer, .read count)]
  | .transaction peer operations => operations.map (peer, ·)

end I2c.Demand

/-- The held write as a transfer of its own. -/
def HeldWrite.demand (held : HeldWrite) : Demand := .write held.peer held.bytes

namespace Transport

variable {σ ε : Type}

/-! ### Calls -/

/-- What a user of the transport calls for. -/
inductive Call where
  | read (peer : PeerAddress) (count : Nat)
  | write (peer : PeerAddress) (bytes : List UInt8) (stop : Bool)
  | flush
  /-- A transfer of the transport as a two-wire bus. -/
  | transfer (demand : Demand)

namespace Call

/-- What comes of a call: the bytes of each read. -/
def run [Failing ε] (bus : I2c σ ε) :
    Call → Action (Transport × σ) TransportError (List (List UInt8))
  | .read peer count => do
    let bytes ← Transport.read bus peer count
    pure [bytes.toList]
  | .write peer bytes stop => do
    Transport.write bus peer bytes stop
    pure []
  | .flush => do
    Transport.flush bus
    pure []
  | .transfer demand => demand.run (Transport.i2c bus)

/-- The lengths of the buffers of a call. -/
def sizes : Call → List Nat
  | .read _ count => [count]
  | .write _ bytes _ => [bytes.length]
  | .flush => []
  | .transfer demand => demand.sizes

/-- No buffer is too long. -/
def Fits (call : Call) : Prop := ∀ size ∈ call.sizes, size ≤ 128

instance (call : Call) : Decidable call.Fits := List.decidableBAll _ _

end Call

/-- What an accepted call does. -/
inductive Deed where
  | hold (held : HeldWrite)
  | flush
  | send (demand : Demand)
deriving DecidableEq

/-- What a call does if it is accepted. -/
def Call.deed : Call → Deed
  | .read peer count => .send (.read peer count)
  | .write peer bytes true => .send (.write peer bytes)
  | .write peer bytes false => .hold ⟨peer, bytes⟩
  | .flush => .flush
  | .transfer demand => .send demand

/-- The transfers that deeds make, in order. A held write goes out together with a read of the same
peer that comes next, or else on its own before what comes next. The last one may still be held. -/
def merge : List Deed → List Demand
  | [] => []
  | .flush :: rest => merge rest
  | .send demand :: rest => demand :: merge rest
  | [.hold _] => []
  | .hold held :: .send (.read peer count) :: rest =>
    if held.peer = peer then .writeRead peer held.bytes count :: merge rest
    else held.demand :: .read peer count :: merge rest
  | .hold held :: next :: rest => held.demand :: merge (next :: rest)

/-- A call, what came of it, and the transfers that it made, in order. -/
structure Entry where
  call : Call
  outcome : Except TransportError (List (List UInt8))
  made : List Transfer

/-- One call. -/
def step [Failing ε] (bus : I2c σ ε) (call : Call) (state : Transport × σ) :
    Entry × Transport × σ :=
  let (outcome, (transport, (line, notes))) :=
    (call.run (bus.traced id)).perform (state.1, (state.2, []))
  (⟨call, outcome, notes.reverse⟩, (transport, line))

/-- Calls one after the other. -/
def run [Failing ε] (bus : I2c σ ε) : List Call → Transport × σ → List Entry × Transport × σ
  | [], state => ([], state)
  | call :: rest, state =>
    let (entry, reached) := step bus call state
    let (entries, last) := run bus rest reached
    (entry :: entries, last)

/-- The transfers of the peripheral, in order. -/
def traffic (entries : List Entry) : List Transfer := entries.flatMap Entry.made

/-! ### One call -/

/-- A call reads from the peer of a held write, and so takes it along. -/
def Call.Joins (call : Call) (held : HeldWrite) : Prop :=
  ∃ count, call.deed = .send (.read held.peer count)

section Calls

variable [Failing ε] (bus : I2c σ ε)

/-- What was held has been sent on its own. -/
inductive Cleared (line : σ) : Option HeldWrite → List Transfer → σ → Prop
  | nothing : Cleared line none [] line
  | sent {held : HeldWrite} {reached : σ}
      (done : (bus.write held.peer held.bytes).perform line = (.ok (), reached)) :
    Cleared line (some held) [.write held.peer held.bytes true] reached

/-- What a call comes to, given what is held and the line before: its outcome, the transfers that it
makes, what is held and the line after. -/
inductive Served (held : Option HeldWrite) (line : σ) (call : Call) :
    Except TransportError (List (List UInt8)) × List Transfer × Option HeldWrite × σ → Prop
  | refused (long : ¬ call.Fits) : Served held line call (.error .tooLarge, [], held, line)
  | broken {write : HeldWrite} {error : ε} {reached : σ} (fits : call.Fits)
      (waits : held = some write) (apart : ¬ call.Joins write)
      (failed : (bus.write write.peer write.bytes).perform line = (.error error, reached)) :
    Served held line call (.error (.ofKind (Failing.kind error)),
      [.write write.peer write.bytes false], none, reached)
  | joined {write : HeldWrite} {count : Nat} {outcome : Except ε (List (List UInt8))} {reached : σ}
      (fits : call.Fits) (waits : held = some write)
      (deed : call.deed = .send (.read write.peer count))
      (ran : ((Demand.writeRead write.peer write.bytes count).run bus).perform line =
        (outcome, reached)) :
    Served held line call (outcome.mapError fun error => .ofKind (Failing.kind error),
      [.writeRead write.peer write.bytes count outcome.toOption.isSome], none, reached)
  | held {write : HeldWrite} {made : List Transfer} {reached : σ} (fits : call.Fits)
      (deed : call.deed = .hold write) (cleared : Cleared bus line held made reached) :
    Served held line call (.ok [], made, some write, reached)
  | flushed {made : List Transfer} {reached : σ} (fits : call.Fits) (deed : call.deed = .flush)
      (cleared : Cleared bus line held made reached) :
    Served held line call (.ok [], made, none, reached)
  | sent {demand : Demand} {made : List Transfer} {middle reached : σ}
      {outcome : Except ε (List (List UInt8))} (fits : call.Fits) (deed : call.deed = .send demand)
      (apart : ∀ write, held = some write → ¬ call.Joins write)
      (cleared : Cleared bus line held made middle)
      (ran : (demand.run bus).perform middle = (outcome, reached)) :
    Served held line call (outcome.mapError fun error => .ofKind (Failing.kind error),
      made ++ [demand.noted outcome.toOption.isSome], none, reached)

theorem check_perform (length : Nat) (held : Option HeldWrite) (line : σ) :
    (check length).perform ((⟨true, held⟩ : Transport), line) =
      (if length ≤ 128 then .ok () else .error .tooLarge, (⟨true, held⟩, line)) := by
  unfold check
  simp only [Action.perform_bind, Action.perform_current]
  by_cases long : maxLength < length
  · have beyond : ¬ length ≤ 128 := Nat.not_le_of_lt long
    simp [long, beyond]
  · have under : length ≤ 128 := Nat.le_of_not_lt long
    simp [long, under]

theorem pass_perform {α : Type} (transfer : Action σ ε α) (transport : Transport) (line : σ) :
    (pass transfer).perform (transport, line) =
      ((transfer.perform line).1.mapError fun error => .ofKind (Failing.kind error),
        (transport, (transfer.perform line).2)) := rfl

/-- What is made of the result of a transfer happens after it, behind the transport or in front. -/
theorem pass_bind_pure {α β : Type} (transfer : Action σ ε α) (form : α → β) :
    (pass transfer >>= fun value => pure (form value)) =
      pass (transfer >>= fun value => pure (form value)) := by
  refine Action.ext fun ⟨transport, line⟩ => ?_
  rw [Action.perform_bind, pass_perform, pass_perform, Action.perform_bind]
  rcases transfer.perform line with ⟨error | value, reached⟩ <;> rfl

/-- What happens before a call does something of its own: it is refused, the held write cannot be
sent, or nothing is held any more. -/
inductive Prepared (held : Option HeldWrite) (line : σ) (length : Nat) {α : Type}
    (rest : Action (Transport × σ × List Transfer) TransportError α) :
    Except TransportError α × Transport × σ × List Transfer → Prop
  | refused (long : ¬ length ≤ 128) :
    Prepared held line length rest (.error .tooLarge, (⟨true, held⟩, (line, [])))
  | broken {write : HeldWrite} {error : ε} {reached : σ} (fits : length ≤ 128)
      (waits : held = some write)
      (failed : (bus.write write.peer write.bytes).perform line = (.error error, reached)) :
    Prepared held line length rest (.error (.ofKind (Failing.kind error)),
      (⟨true, none⟩, (reached, [.write write.peer write.bytes false])))
  | ready {made : List Transfer} {reached : σ} (fits : length ≤ 128)
      (cleared : Cleared bus line held made reached) :
    Prepared held line length rest (rest.perform (⟨true, none⟩, (reached, made)))

theorem prepared (held : Option HeldWrite) (line : σ) (length : Nat) {α : Type}
    (rest : Action (Transport × σ × List Transfer) TransportError α) :
    Prepared bus held line length rest
      ((check length >>= fun _ => flush (bus.traced id) >>= fun _ => rest).perform
        (⟨true, held⟩, (line, []))) := by
  rw [Action.perform_bind, check_perform]
  by_cases fits : length ≤ 128
  · rw [if_pos fits]
    simp only [Action.perform_bind, flush, takeHeld, Action.perform_ofStep]
    cases held with
    | none => exact .ready fits .nothing
    | some write =>
      simp only [pass_perform, I2c.traced, Action.noted_perform]
      cases written : (bus.write write.peer write.bytes).perform line with
      | mk outcome reached =>
        cases outcome with
        | error error => exact .broken fits rfl written
        | ok done => exact .ready fits (.sent written)
  · rw [if_neg fits]
    exact .refused fits

/-- What a performed call tells about it. -/
structure Told (held : Option HeldWrite) (line : σ) (call : Call)
    (result : Except TransportError (List (List UInt8)) × Transport × σ × List Transfer) :
    Prop where
  opened : result.2.1.initialized = true
  served : Served bus held line call
    (result.1, result.2.2.2.reverse, result.2.1.held, result.2.2.1)

omit [Failing ε] in
theorem Cleared.reverse {line reached : σ} {held : Option HeldWrite} {made : List Transfer}
    (cleared : Cleared bus line held made reached) : made.reverse = made := by
  cases cleared <;> rfl

theorem apart_of_deed {held : Option HeldWrite} {call : Call} {deed : Deed}
    (same : call.deed = deed) (other : ∀ peer count, deed ≠ .send (.read peer count)) :
    ∀ write, held = some write → ¬ call.Joins write :=
  fun _ _ ⟨_, reads⟩ => other _ _ (same.symm.trans reads)

section Kinds

variable {held : Option HeldWrite} {line : σ} {call : Call}

theorem told_send {demand : Demand} (deed : call.deed = .send demand) {length : Nat}
    (fits : length ≤ 128 ↔ call.Fits) (apart : ∀ write, held = some write → ¬ call.Joins write) :
    Told bus held line call
      ((check length >>= fun _ => flush (bus.traced id) >>= fun _ =>
        pass (demand.run (bus.traced id))).perform (⟨true, held⟩, (line, []))) := by
  have result := prepared bus held line length (pass (demand.run (bus.traced id)))
  generalize Action.perform _ _ = performed at result ⊢
  cases result with
  | refused long => exact ⟨rfl, .refused (mt fits.mpr long)⟩
  | broken small waits failed => exact ⟨rfl, .broken (fits.mp small) waits (apart _ waits) failed⟩
  | ready small cleared =>
    rw [pass_perform, Demand.run_traced]
    refine ⟨rfl, ?_⟩
    rw [List.reverse_cons, cleared.reverse]
    exact .sent (fits.mp small) deed apart cleared rfl

theorem told_hold {write : HeldWrite} (deed : call.deed = .hold write) {length : Nat}
    (fits : length ≤ 128 ↔ call.Fits) :
    Told bus held line call
      ((check length >>= fun _ => flush (bus.traced id) >>= fun _ =>
        Action.update (fun (transport, line) => ({ transport with held := some write }, line)) >>=
          fun _ => pure []).perform (⟨true, held⟩, (line, []))) := by
  have apart : ∀ write, held = some write → ¬ call.Joins write := apart_of_deed deed nofun
  have result := prepared bus held line length
    (Action.update (fun (transport, line) => ({ transport with held := some write }, line)) >>=
      fun _ => pure ([] : List (List UInt8)))
  generalize Action.perform _ _ = performed at result ⊢
  cases result with
  | refused long => exact ⟨rfl, .refused (mt fits.mpr long)⟩
  | broken small waits failed => exact ⟨rfl, .broken (fits.mp small) waits (apart _ waits) failed⟩
  | @ready made reached small cleared =>
    refine ⟨rfl, ?_⟩
    show Served bus held line call (.ok [], made.reverse, some write, reached)
    rw [cleared.reverse]
    exact .held (fits.mp small) deed cleared

theorem told_flush (deed : call.deed = .flush) (fits : call.Fits) :
    Told bus held line call
      ((flush (bus.traced id) >>= fun _ => pure []).perform (⟨true, held⟩, (line, []))) := by
  have apart : ∀ write, held = some write → ¬ call.Joins write := apart_of_deed deed nofun
  have result := prepared bus held line 0 (pure ([] : List (List UInt8)))
  rw [Action.perform_bind, check_perform] at result
  simp only [Nat.zero_le, if_true] at result
  generalize Action.perform _ _ = performed at result ⊢
  cases result with
  | refused long => exact absurd (Nat.zero_le _) long
  | broken small waits failed => exact ⟨rfl, .broken fits waits (apart _ waits) failed⟩
  | @ready made reached small cleared =>
    refine ⟨rfl, ?_⟩
    show Served bus held line call (.ok [], made.reverse, none, reached)
    rw [cleared.reverse]
    exact .flushed fits deed cleared

/-- A read, with a write that is held for its peer or without. -/
theorem told_read {peer : PeerAddress} {count : Nat}
    (deed : call.deed = .send (.read peer count)) (fits : count ≤ 128 ↔ call.Fits) :
    Told bus held line call
      ((Transport.read (bus.traced id) peer count >>= fun bytes => pure [bytes.toList]).perform
        (⟨true, held⟩, (line, []))) := by
  by_cases joins : ∃ write, held = some write ∧ write.peer = peer
  · obtain ⟨write, rfl, rfl⟩ := joins
    unfold Transport.read
    rw [bind_assoc, Action.perform_bind, check_perform]
    by_cases small : count ≤ 128
    · rw [if_pos small]
      simp only [Action.perform_bind, takeHeld, Action.perform_ofStep, if_true]
      have passed : (pass ((bus.traced id).writeRead write.peer write.bytes count) >>= fun bytes =>
          pure [bytes.toList]) = pass ((Demand.writeRead write.peer write.bytes count).run
            (bus.traced id)) := pass_bind_pure _ fun bytes : Vector UInt8 count => [bytes.toList]
      rw [← Action.perform_bind, passed, pass_perform, Demand.run_traced]
      exact ⟨rfl, .joined (fits.mp small) rfl deed rfl⟩
    · rw [if_neg small]
      exact ⟨rfl, .refused (mt fits.mpr small)⟩
  · have apart : ∀ write, held = some write → ¬ call.Joins write := by
      rintro write waits ⟨other, reads⟩
      rw [deed] at reads
      obtain ⟨same, _⟩ := Demand.read.inj (Deed.send.inj reads)
      exact joins ⟨write, waits, same.symm⟩
    have send := @told_send _ _ _ bus _ line _ _ deed _ fits apart
    have passed : pass ((Demand.read peer count).run (bus.traced id)) =
        (pass ((bus.traced id).read peer count) >>= fun bytes => pure [bytes.toList]) :=
      (pass_bind_pure _ fun bytes : Vector UInt8 count => [bytes.toList]).symm
    rw [passed] at send
    unfold Transport.read
    rw [bind_assoc, Action.perform_bind, check_perform]
    rw [Action.perform_bind, check_perform] at send
    by_cases small : count ≤ 128
    · rw [if_pos small] at send ⊢
      cases held with
      | none => exact send
      | some write =>
        have other : write.peer ≠ peer := fun same => joins ⟨write, rfl, same⟩
        simp only [flush, takeHeld, Action.perform_bind, Action.perform_ofStep, if_neg other]
          at send ⊢
        generalize (pass ((bus.traced id).write write.peer write.bytes)).perform _ = sent at send ⊢
        rcases sent with ⟨error | done, reached⟩ <;> exact send
    · rw [if_neg small] at send ⊢
      exact send

/-- The longest operation is short if all of them are. -/
theorem longest_le (operations : List Operation) :
    longest operations ≤ 128 ↔ ∀ size ∈ operations.map Operation.length, size ≤ 128 := by
  have fold (most : Nat) : operations.foldl (fun most operation => max most operation.length) most ≤
      128 ↔ most ≤ 128 ∧ ∀ size ∈ operations.map Operation.length, size ≤ 128 := by
    induction operations generalizing most with
    | nil => simp
    | cons operation rest rest_iff =>
      rw [List.foldl_cons, rest_iff, List.map_cons, List.forall_mem_cons, Nat.max_le, and_assoc]
  exact (fold 0).trans (by simp)

/-- All transfers but reads send what is held and are made then. -/
theorem run_i2c {demand : Demand} (other : ∀ peer count, demand ≠ .read peer count) :
    ∃ length, (length ≤ 128 ↔ ∀ size ∈ demand.sizes, size ≤ 128) ∧
      demand.run (Transport.i2c bus) =
        check length >>= fun _ => flush bus >>= fun _ => pass (demand.run bus) := by
  cases demand with
  | read peer count => exact absurd rfl (other peer count)
  | write peer bytes =>
    refine ⟨bytes.length, by simp [Demand.sizes], ?_⟩
    have passed := pass_bind_pure (bus.write peer bytes) fun _ => ([] : List (List UInt8))
    simp only [Demand.run, Transport.i2c, Transport.write, if_true, bind_assoc, passed]
  | writeRead peer bytes count =>
    refine ⟨max bytes.length count, Nat.max_le.trans (by simp [Demand.sizes]), ?_⟩
    have passed := pass_bind_pure (bus.writeRead peer bytes count) fun answer => [answer.toList]
    simp only [Demand.run, Transport.i2c, Transport.writeRead, bind_assoc, passed]
  | transaction peer operations => exact ⟨_, longest_le operations, rfl⟩

theorem told_transfer (demand : Demand) (other : ∀ peer count, demand ≠ .read peer count)
    (deed : call.deed = .send demand) (sizes : call.sizes = demand.sizes) :
    Told bus held line call
      ((demand.run (Transport.i2c (bus.traced id))).perform (⟨true, held⟩, (line, []))) := by
  obtain ⟨length, fits, same⟩ := run_i2c (bus.traced id) other
  rw [← sizes] at fits
  rw [same]
  exact told_send bus deed fits (apart_of_deed deed fun peer count reads =>
    other peer count (Deed.send.inj reads))

/-- **What a call on an open transport comes to.** -/
theorem told_run (call : Call) :
    Told bus held line call
      ((call.run (bus.traced id)).perform (⟨true, held⟩, (line, []))) := by
  cases call with
  | read peer count => exact told_read bus rfl (by simp [Call.Fits, Call.sizes])
  | write peer bytes stop =>
    cases stop with
    | true => exact told_transfer bus (.write peer bytes) nofun rfl rfl
    | false =>
      simp only [Call.run, Transport.write, bind_assoc]
      exact told_hold bus rfl (by simp [Call.Fits, Call.sizes])
  | flush => exact told_flush bus rfl (by simp [Call.Fits, Call.sizes])
  | transfer demand =>
    by_cases reads : ∃ peer count, demand = .read peer count
    · obtain ⟨peer, count, rfl⟩ := reads
      exact told_read bus rfl (by simp [Call.Fits, Call.sizes, Demand.sizes])
    · exact told_transfer bus demand (fun peer count same => reads ⟨peer, count, same⟩) rfl rfl

end Kinds

/-! ### Runs -/

theorem step_served (call : Call) (held : Option HeldWrite) (line : σ) :
    (step bus call (⟨true, held⟩, line)).2.1.initialized = true ∧
      Served bus held line call ((step bus call (⟨true, held⟩, line)).1.outcome,
        (step bus call (⟨true, held⟩, line)).1.made,
        (step bus call (⟨true, held⟩, line)).2.1.held,
        (step bus call (⟨true, held⟩, line)).2.2) :=
  have told := told_run bus call
  ⟨told.opened, told.served⟩

end Calls

/-- The held write could not be sent, which is all that came of a call. -/
def Entry.broken (entry : Entry) : Option HeldWrite → Bool
  | some write => entry.made = [.write write.peer write.bytes false]
  | none => false

/-- What a call did, if it was accepted. One whose held write could not be sent did nothing of its
own. -/
def Entry.deed? (held : Option HeldWrite) (entry : Entry) : Option Deed :=
  if entry.call.Fits then if entry.broken held then some .flush else some entry.call.deed
  else none

/-- What is held after a deed. -/
def Deed.leaves : Deed → Option HeldWrite
  | .hold write => some write
  | .flush => none
  | .send _ => none

/-- What is done with a peer by a deed that is carried out, in order. -/
def Deed.parts : Deed → List (PeerAddress × Operation)
  | .hold write => write.demand.parts
  | .flush => []
  | .send demand => demand.parts

/-- The accepted operations of a run, in order. -/
def deeds : Option HeldWrite → List Entry → List Deed
  | _, [] => []
  | held, entry :: rest =>
    match entry.deed? held with
    | none => deeds held rest
    | some deed => deed :: deeds deed.leaves rest

/-- A write that is held from before. -/
def pending (held : Option HeldWrite) : List Deed := held.toList.map .hold

/-- What is held after deeds. -/
def left (held : Option HeldWrite) : List Deed → Option HeldWrite :=
  List.foldl (fun _ deed => deed.leaves) held

theorem left_pending (held : Option HeldWrite) (rest : List Deed) :
    left none (pending held ++ rest) = left held rest := by
  cases held <;> rfl

theorem merge_send {held : Option HeldWrite} {demand : Demand}
    (apart : ∀ write count, held = some write → demand ≠ .read write.peer count)
    (rest : List Deed) :
    merge (pending held ++ .send demand :: rest) =
      held.toList.map HeldWrite.demand ++ demand :: merge rest := by
  cases held with
  | none => rfl
  | some write =>
    cases demand with
    | read peer count =>
      have other : write.peer ≠ peer := fun same => apart write count rfl (by rw [same])
      exact if_neg other
    | write | writeRead | transaction => rfl

/-- What is done with the peers does not change by merging: each part is done once, in order, but
for those of a write that is still held. -/
theorem merge_parts (deeds : List Deed) :
    (merge deeds).flatMap Demand.parts ++ (pending (left none deeds)).flatMap Deed.parts =
      deeds.flatMap Deed.parts := by
  induction deeds using merge.induct with
  | case1 => rfl
  | case2 rest rest_parts => exact rest_parts
  | case3 demand rest rest_parts =>
    show (demand :: merge rest).flatMap Demand.parts ++ _ = _
    rw [List.flatMap_cons, List.append_assoc]
    exact congrArg _ rest_parts
  | case4 write => rfl
  | case5 write count rest rest_parts =>
    rw [merge, if_pos rfl, List.flatMap_cons, List.append_assoc]
    exact congrArg _ rest_parts
  | case6 write peer count rest other rest_parts =>
    rw [merge, if_neg other, List.flatMap_cons, List.flatMap_cons, List.append_assoc,
      List.append_assoc]
    exact congrArg (write.demand.parts ++ (Demand.read peer count).parts ++ ·) rest_parts
  | case7 write next rest other rest_parts =>
    rw [merge.eq_6 _ _ _ other, List.flatMap_cons, List.append_assoc]
    exact congrArg (write.demand.parts ++ ·) rest_parts

section Runs

variable {bus : I2c σ ε}

theorem Cleared.demands {line reached : σ} {held : Option HeldWrite} {made : List Transfer}
    (cleared : Cleared bus line held made reached) :
    made.map Transfer.demand = held.toList.map HeldWrite.demand := by
  cases cleared <;> rfl

theorem Cleared.not_broken {line reached : σ} {held : Option HeldWrite} {made : List Transfer}
    (cleared : Cleared bus line held made reached) (rest : List Transfer) (call : Call)
    (outcome : Except TransportError (List (List UInt8))) :
    (⟨call, outcome, made ++ rest⟩ : Entry).broken held = false := by
  cases cleared <;> simp [Entry.broken]

theorem deed?_broken {entry : Entry} {held : Option HeldWrite} (fits : entry.call.Fits)
    (broken : entry.broken held = true) : entry.deed? held = some .flush := by
  rw [Entry.deed?, if_pos fits, if_pos broken]

theorem deed?_whole {entry : Entry} {held : Option HeldWrite} {deed : Deed}
    (fits : entry.call.Fits) (whole : entry.broken held = false) (same : entry.call.deed = deed) :
    entry.deed? held = some deed := by
  rw [Entry.deed?, if_pos fits, whole, if_neg Bool.false_ne_true, same]

/-- What a call adds to the merged transfers. -/
def Adds (held after : Option HeldWrite) (entry : Entry) : Prop :=
  match entry.deed? held with
  | none => entry.made = [] ∧ after = held
  | some deed => after = deed.leaves ∧ ∀ rest,
      entry.made.map Transfer.demand ++ merge (pending after ++ rest) =
        merge (pending held ++ deed :: rest)

theorem adds_of_deed {held : Option HeldWrite} {entry : Entry} {deed : Deed}
    (same : entry.deed? held = some deed) (adds : ∀ rest,
      entry.made.map Transfer.demand ++ merge (pending deed.leaves ++ rest) =
        merge (pending held ++ deed :: rest)) : Adds held deed.leaves entry := by
  rw [Adds, same]
  exact ⟨rfl, adds⟩

variable (bus) [Failing ε]

/-- **The transfers of one call** are those that its deed adds to the merged ones. -/
theorem adds_of_served {held after : Option HeldWrite} {line reached : σ} {call : Call}
    {outcome : Except TransportError (List (List UInt8))} {made : List Transfer}
    (served : Served bus held line call (outcome, made, after, reached)) :
    Adds held after ⟨call, outcome, made⟩ := by
  cases served with
  | refused long =>
    rw [Adds, Entry.deed?, if_neg long]
    exact ⟨rfl, rfl⟩
  | broken fits waits apart failed =>
    subst waits
    refine adds_of_deed (deed?_broken fits ?_) fun rest => rfl
    exact decide_eq_true rfl
  | @joined write count outcome _ fits waits deed ran =>
    subst waits
    have whole : Entry.broken ⟨call, outcome.mapError fun error => .ofKind (Failing.kind error),
        [.writeRead write.peer write.bytes count outcome.toOption.isSome]⟩ (some write) = false := by
      simp [Entry.broken]
    exact adds_of_deed (deed?_whole fits whole deed) fun rest => (if_pos rfl).symm
  | held fits deed cleared =>
    have whole := cleared.not_broken [] call (.ok [])
    rw [List.append_nil] at whole
    refine adds_of_deed (deed?_whole fits whole deed) fun rest => ?_
    cases cleared <;> rfl
  | flushed fits deed cleared =>
    have whole := cleared.not_broken [] call (.ok [])
    rw [List.append_nil] at whole
    refine adds_of_deed (deed?_whole fits whole deed) fun rest => ?_
    cases cleared <;> rfl
  | sent fits deed apart cleared ran =>
    refine adds_of_deed (deed?_whole fits (cleared.not_broken _ call _) deed) fun rest => ?_
    rw [merge_send (fun write count waits reads => apart write waits ⟨count, by rw [deed, reads]⟩),
      List.map_append, cleared.demands]
    simp [pending, Deed.leaves]

omit [Failing ε] in
theorem merge_deeds {held after : Option HeldWrite} {entry : Entry} (adds : Adds held after entry)
    (rest : List Entry) :
    merge (pending held ++ deeds held (entry :: rest)) =
        entry.made.map Transfer.demand ++ merge (pending after ++ deeds after rest) ∧
      left held (deeds held (entry :: rest)) = left after (deeds after rest) := by
  rw [deeds]
  cases found : entry.deed? held with
  | none =>
    rw [Adds, found] at adds
    obtain ⟨nothing, rfl⟩ := adds
    exact ⟨by rw [nothing]; rfl, rfl⟩
  | some deed =>
    rw [Adds, found] at adds
    obtain ⟨rfl, adds⟩ := adds
    exact ⟨(adds _).symm, rfl⟩

/-- The transfers of a run, and what is held after it. -/
theorem run_transfers (calls : List Call) (held : Option HeldWrite) (line : σ) :
    let (entries, reached) := run bus calls (⟨true, held⟩, line)
    entries.map Entry.call = calls ∧
      (traffic entries).map Transfer.demand = merge (pending held ++ deeds held entries) ∧
      reached.1 = ⟨true, left held (deeds held entries)⟩ := by
  induction calls generalizing held line with
  | nil => cases held <;> exact ⟨rfl, rfl, rfl⟩
  | cons call rest later =>
    obtain ⟨opened, served⟩ := step_served bus call held line
    have same : (step bus call (⟨true, held⟩, line)).1.call = call := rfl
    have adds : Adds held (step bus call (⟨true, held⟩, line)).2.1.held
      (step bus call (⟨true, held⟩, line)).1 := adds_of_served bus served
    rw [run]
    generalize step bus call (⟨true, held⟩, line) = stepped at opened same adds ⊢
    obtain ⟨entry, ⟨initialized, after⟩, middle⟩ := stepped
    obtain rfl : initialized = true := opened
    have later := later after middle
    obtain ⟨merged, kept⟩ := merge_deeds adds (run bus rest (⟨true, after⟩, middle)).1
    refine ⟨by rw [List.map_cons, same, later.1], ?_, later.2.2.trans (by rw [← kept])⟩
    rw [traffic, List.flatMap_cons, List.map_append]
    exact (congrArg _ later.2.1).trans merged.symm

/-- **A held write is sent once and in order.** For every list of calls on an open transport and
every peripheral, the transfers are the accepted operations, merged; the parts of these are done
once each and in order, but for a write that is still held; and the next call is served from what is
held then. -/
theorem run_merged (calls : List Call) (held : Option HeldWrite) (line : σ) :
    let (entries, reached) := run bus calls (⟨true, held⟩, line)
    let accepted := pending held ++ deeds held entries
    entries.map Entry.call = calls ∧
      (traffic entries).map Transfer.demand = merge accepted ∧
      (merge accepted).flatMap Demand.parts ++
        (pending reached.1.held).flatMap Deed.parts = accepted.flatMap Deed.parts ∧
      reached.1 = ⟨true, left held (deeds held entries)⟩ ∧
      ∀ call, let (entry, after) := step bus call reached
        Served bus reached.1.held reached.2 call
          (entry.outcome, entry.made, after.1.held, after.2) := by
  obtain ⟨asked, transfers, kept⟩ := run_transfers bus calls held line
  generalize run bus calls (⟨true, held⟩, line) = ran at asked transfers kept ⊢
  obtain ⟨entries, transport, reached⟩ := ran
  simp only at kept
  subst kept
  refine ⟨asked, transfers, ?_, rfl, fun call => (step_served bus call _ reached).2⟩
  rw [← left_pending]
  exact merge_parts _

end Runs

end Transport

end WireBridge
