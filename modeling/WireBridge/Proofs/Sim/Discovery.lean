/-
**Discovery of all devices on a simulated line.**

* `Search.visit`: what a pass tells of a code, which is an error if the check byte does not fit;
* `Search.Past`: between two passes the last code and the last zero tell which codes are left, those
  that come after the last code;
* `Sim.Visits`: a search that visits some codes in turn, tells something of each, and then ends;
* `Sim.Visits.calls`: what follows for passes one after the other;
* `Sim.Drives.visits_past`: from there on the codes that are left are visited in order;
* `Sim.calls_start`: the passes of a new search visit every attached code once, in the order of
  the bits that are sent, and then tell that no code is left.
-/

import WireBridge.Proofs.Bus.Ending
import WireBridge.Proofs.Sim.Searching

namespace WireBridge.Search

open Address (Before Ordered)

variable {σ ε : Type}

/-- What a pass tells that ends at a code. -/
def visit (code : Address) : Except (BusError ε) (Option Address) :=
  if code.valid then .ok (some code) else .error .invalidCrc

/-- A search of all codes goes on after each code that is not zero. -/
theorem conclude_all (search : Search) (all : search.family = none)
    (nonzero : search.rom ≠ Address.zero) (last : Nat) :
    (search.conclude last : Except (BusError ε) (Option Address) × Search) =
      (visit search.rom, { search with lastDiscrepancy := last, finished := last == 0 }) := by
  unfold conclude visit
  simp only [all, Option.any_none, if_neg nonzero, Bool.false_eq_true, if_false]
  split <;> rfl

/-! ### The codes that are left -/

/-- A search of all codes between two passes, with the codes that are left. -/
structure Past (codes : List Address) (search : Search) (rest : List Address) : Prop where
  normal : search.kind = .normal
  all : search.family = none
  zero : LastZero codes search.rom 0 search.lastDiscrepancy
  finished : search.finished = (search.lastDiscrepancy == 0)
  ordered : Ordered rest
  mem_rest : ∀ code, code ∈ rest ↔ code ∈ codes ∧ Before search.rom code

/-- Only the last code has no zero to come back to. -/
theorem Past.finished_iff {codes : List Address} {search : Search} {rest : List Address}
    (past : Past codes search rest) : search.finished = true ↔ rest = [] := by
  rw [past.finished, beq_iff_eq]
  rcases past.zero with ⟨last, none⟩ | ⟨code, member, position, last, parts, zero, _⟩
  · refine ⟨fun _ => List.eq_nil_iff_forall_not_mem.mpr fun code left => ?_, fun _ => last⟩
    obtain ⟨member, after⟩ := (past.mem_rest code).mp left
    exact none code member after
  · refine ⟨fun ended => by omega, fun empty => ?_⟩
    have left : code ∈ rest := (past.mem_rest code).mpr ⟨member, position, parts, zero⟩
    rw [empty] at left
    exact absurd left List.not_mem_nil

/-- The code at which the next pass ends is the first one that is left. -/
theorem Past.chosen_eq {codes : List Address} {search : Search} {head : Address}
    {tail : List Address} (past : Past codes search (head :: tail)) {target : Address}
    (chosen : Chosen search codes target) : target = head := by
  have more : search.lastDiscrepancy ≠ 0 := by
    intro none
    have ended : search.finished = true := by rw [past.finished, none]; rfl
    exact List.cons_ne_nil head tail (past.finished_iff.mp ended)
  obtain ⟨after, least⟩ := chosen.next past.zero more
  have left : target ∈ head :: tail := (past.mem_rest target).mpr ⟨chosen.member, after⟩
  rcases List.mem_cons.mp left with same | later
  · exact same
  · have headBefore := (List.pairwise_cons.mp past.ordered).1 target later
    obtain ⟨headMember, headAfter⟩ := (past.mem_rest head).mp List.mem_cons_self
    exact absurd (least head headMember headAfter headBefore.ne) headBefore.asymm

/-- The codes after the first one that is left are those that come after it. -/
theorem Past.mem_tail {codes : List Address} {search : Search} {head : Address}
    {tail : List Address} (past : Past codes search (head :: tail)) (code : Address) :
    code ∈ tail ↔ code ∈ codes ∧ Before head code := by
  have headAfter := ((past.mem_rest head).mp List.mem_cons_self).2
  rw [Address.mem_tail_iff past.ordered, past.mem_rest]
  exact ⟨fun ⟨⟨member, _⟩, after⟩ => ⟨member, after⟩,
    fun ⟨member, after⟩ => ⟨⟨member, headAfter.trans after⟩, after⟩⟩

end WireBridge.Search

namespace WireBridge.Sim

open Address (Before Ordered)
open Search (calls visit Past Chosen)

variable {σ ε : Type} {master : Master σ ε} {line : σ → Line}

/-- What passes do not change. -/
structure Unchanged (before after : Line) : Prop where
  devices : after.devices = before.devices
  overrun : after.overrun = before.overrun

theorem Unchanged.codes {before after : Line} (kept : Unchanged before after) :
    after.codes = before.codes := by
  rw [Line.codes, kept.devices, Line.codes]

theorem Unchanged.trans {first second third : Line} (one : Unchanged first second)
    (other : Unchanged second third) : Unchanged first third :=
  ⟨other.devices.trans one.devices, other.overrun.trans one.overrun⟩

theorem Unchanged.refl (here : Line) : Unchanged here here := ⟨rfl, rfl⟩

/-- **A pass that ends at the first code that is left** leaves the others. -/
theorem Drives.next_past (drives : Drives master line) {search : Search} {state : σ}
    (normal : search.kind = .normal) (all : search.family = none) (going : search.finished = false)
    (nonzero : ∀ code ∈ (line state).codes, code ≠ Address.zero) {head : Address}
    {tail : List Address} (ordered : Ordered (head :: tail)) (member : head ∈ (line state).codes)
    (mem_tail : ∀ code, code ∈ tail ↔ code ∈ (line state).codes ∧ Before head code)
    (chosen_eq : ∀ target, Chosen search (line state).codes target → target = head) :
    ∃ after reached,
      (Search.next master).perform (search, state) = (visit head, (after, reached)) ∧
      Past (line state).codes after tail ∧ Unchanged (line state) (line reached) := by
  have present : (line state).devices ≠ [] := fun none => by
    rw [Line.codes, none] at member
    exact absurd member List.not_mem_nil
  obtain ⟨target, last, reached, chosen, zero, nextEq, devices, overrun⟩ :=
    drives.next_perform normal going present
  obtain rfl := chosen_eq target chosen
  have concluded := @Search.conclude_all ε { search with rom := target } all
    (nonzero target member) last
  generalize @Search.conclude ε { search with rom := target } last = result at nextEq concluded
  subst concluded
  dsimp only at nextEq
  exact ⟨_, reached, nextEq,
    ⟨normal, all, zero, rfl, (List.pairwise_cons.mp ordered).2, mem_tail⟩, devices, overrun⟩

/-! ### Searches that visit some codes in turn -/

/-- A search that visits some codes in turn and then ends, where `told` is what a pass tells that
ends at a code; no pass changes a device. -/
inductive Visits (master : Master σ ε) (line : σ → Line)
    (told : Address → Except (BusError ε) (Option Address)) : List Address → Search × σ → Prop
  /-- The next pass tells that no code is left, and so does every pass after it. -/
  | ended {search after : Search} {state reached : σ}
      (nextEq : (Search.next master).perform (search, state) = (.ok none, (after, reached)))
      (stopped : after.finished = true) (kept : Unchanged (line state) (line reached)) :
      Visits master line told [] (search, state)
  /-- The next pass visits a code. -/
  | visited {search after : Search} {state reached : σ} {code : Address} {rest : List Address}
      (nextEq : (Search.next master).perform (search, state) = (told code, (after, reached)))
      (kept : Unchanged (line state) (line reached))
      (more : Visits master line told rest (after, reached)) :
      Visits master line told (code :: rest) (search, state)

section Visits

variable {told other : Address → Except (BusError ε) (Option Address)} {rest : List Address}

/-- A search that has ended visits nothing. -/
theorem Visits.of_finished {search : Search} (stopped : search.finished = true) (state : σ) :
    Visits master line told [] (search, state) :=
  .ended (Search.next_finished master stopped state) stopped (.refl _)

/-- Only what is told of the codes that are visited counts. -/
theorem Visits.congr {state : Search × σ} (visits : Visits master line told rest state)
    (same : ∀ code ∈ rest, told code = other code) : Visits master line other rest state := by
  induction visits with
  | ended nextEq stopped kept => exact .ended nextEq stopped kept
  | visited nextEq kept _ ih =>
    rw [same _ List.mem_cons_self] at nextEq
    exact .visited nextEq kept (ih fun code member => same code (List.mem_cons_of_mem _ member))

/-- **Passes one after the other** tell what is visited, and then that no code is left. -/
theorem Visits.calls {state : Search × σ} (visits : Visits master line told rest state)
    (extra : Nat) :
    (Search.calls master (rest.length + extra) state).1 =
        rest.map told ++ List.replicate extra (.ok none) ∧
      Unchanged (line state.2) (line (Search.calls master (rest.length + extra) state).2.2) := by
  induction visits with
  | ended nextEq stopped kept =>
    rw [List.length_nil, Nat.zero_add]
    cases extra with
    | zero => exact ⟨rfl, .refl _⟩
    | succ more =>
      rw [Search.calls_succ master more nextEq, Search.calls_finished master stopped]
      exact ⟨rfl, kept⟩
  | visited nextEq kept _ ih =>
    obtain ⟨outcomes, keptAfter⟩ := ih
    rw [List.length_cons, Nat.add_right_comm, Search.calls_succ master _ nextEq, outcomes]
    exact ⟨rfl, kept.trans keptAfter⟩

end Visits

/-- **Between two passes** a search has the codes before it that come after its last code. -/
theorem Drives.visits_past (drives : Drives master line) {codes : List Address}
    (nonzero : ∀ code ∈ codes, code ≠ Address.zero) (rest : List Address) :
    ∀ {search : Search} {state : σ}, Past codes search rest → (line state).codes = codes →
      Visits master line visit rest (search, state) := by
  induction rest with
  | nil =>
    intro search state past _
    exact .of_finished (past.finished_iff.mpr rfl) state
  | cons head tail ih =>
    intro search state past attached
    subst attached
    have going : search.finished = false := Bool.eq_false_iff.mpr fun ended =>
      List.cons_ne_nil head tail (past.finished_iff.mp ended)
    obtain ⟨after, reached, nextEq, pastAfter, kept⟩ :=
      drives.next_past past.normal past.all going nonzero past.ordered
        ((past.mem_rest head).mp List.mem_cons_self).1 past.mem_tail fun _ => past.chosen_eq
    exact .visited nextEq kept (ih pastAfter kept.codes)

/-- **A new search visits all codes** of a line in the order of the bits that are sent. -/
theorem Drives.visits_all (drives : Drives master line) {state : σ}
    (nonzero : ∀ code ∈ (line state).codes, code ≠ Address.zero) {order : List Address}
    (ordered : Ordered order) (mem_order : ∀ code, code ∈ order ↔ code ∈ (line state).codes) :
    Visits master line visit order (Search.start .normal none, state) := by
  have going : (Search.start .normal none).finished = false := rfl
  cases order with
  | nil =>
    have empty : (line state).devices = [] := List.map_eq_nil_iff.mp
      (List.eq_nil_iff_forall_not_mem.mpr fun code member =>
        List.not_mem_nil ((mem_order code).mpr member))
    obtain ⟨reached, nextEq, devices, overrun⟩ := drives.next_empty going empty
    exact .ended nextEq rfl ⟨devices, overrun⟩
  | cons head tail =>
    have member := (mem_order head).mp List.mem_cons_self
    have chosen_eq : ∀ target,
        Chosen (Search.start .normal none) (line state).codes target → target = head := by
      intro target chosen
      rcases List.mem_cons.mp ((mem_order target).mpr chosen.member) with here | later
      · exact here
      · have after := (List.pairwise_cons.mp ordered).1 target later
        exact absurd (chosen.first rfl member after.ne) after.asymm
    have mem_tail : ∀ code, code ∈ tail ↔ code ∈ (line state).codes ∧ Before head code := by
      intro code
      rw [← mem_order code]
      exact Address.mem_tail_iff ordered code
    obtain ⟨after, reached, nextEq, past, kept⟩ :=
      drives.next_past rfl rfl going nonzero ordered member mem_tail chosen_eq
    exact .visited nextEq kept (drives.visits_past nonzero tail past kept.codes)

/-- **Discovery is exact.** On a line whose devices have different codes other than zero, whatever
the line was doing, the passes of a new search visit each code once, in the order of the bits that
are sent, and every later pass tells that no code is left. No device is changed, and no position has
more slots than can be counted. -/
theorem calls_start (attached : Line) (distinct : attached.codes.Nodup)
    (nonzero : ∀ code ∈ attached.codes, code ≠ Address.zero) :
    ∃ order, order.Perm attached.codes ∧ Ordered order ∧ ∀ extra,
      (calls (Sim.master : Master Line ε) (attached.codes.length + extra)
          (Search.start .normal none, attached)).1 =
        order.map visit ++ List.replicate extra (.ok none) ∧
      Unchanged attached (calls (Sim.master : Master Line ε) (attached.codes.length + extra)
          (Search.start .normal none, attached)).2.2 := by
  obtain ⟨order, perm, ordered⟩ := Address.exists_ordered distinct
  refine ⟨order, perm, ordered, fun extra => ?_⟩
  rw [← perm.length_eq]
  have drives : Drives (Sim.master : Master Line ε) id := master_drives
  exact (drives.visits_all nonzero ordered fun code => perm.mem_iff).calls extra

/-- Two devices are visited in the order of their codes and not in that in which they were attached;
the check byte of the first one does not fit. -/
theorem calls_start_two :
    let line : Line :=
      { Line.empty with
        devices := [.fresh ⟨1⟩ .presenceOnly, .fresh ⟨0x9b00000000000728⟩ .presenceOnly] }
    line.codes.Nodup ∧ (∀ code ∈ line.codes, code ≠ Address.zero) ∧
      (calls (Sim.master : Master Line Empty) 3 (Search.start .normal none, line)).1 =
        [.ok (some ⟨0x9b00000000000728⟩), .error .invalidCrc, .ok none] := by
  intro line
  have distinct : line.codes.Nodup := by decide
  have nonzero : ∀ code ∈ line.codes, code ≠ Address.zero := by decide
  obtain ⟨order, perm, ordered, outcomes⟩ := @calls_start Empty line distinct nonzero
  have swapped : ([⟨0x9b00000000000728⟩, ⟨1⟩] : List Address).Perm line.codes := .swap _ _ _
  have swappedOrdered : Ordered [⟨0x9b00000000000728⟩, ⟨1⟩] := by
    refine List.pairwise_pair.mpr ⟨0, ⟨by decide, ?_, by decide⟩, by decide⟩
    exact fun _ below => absurd below (Nat.not_lt_zero _)
  have orderEq := Address.ordered_unique (perm.trans swapped.symm) ordered swappedOrdered
  have count : line.codes.length + 1 = 3 := rfl
  have visited := (outcomes 1).1
  have fits : (⟨0x9b00000000000728⟩ : Address).valid = true := by decide +kernel
  have broken : (⟨1⟩ : Address).valid = false := by decide +kernel
  rw [count, orderEq] at visited
  refine ⟨distinct, nonzero, visited.trans ?_⟩
  simp only [visit, fits, broken, List.map_cons, List.map_nil, if_true, Bool.false_eq_true,
    if_false]
  rfl

end WireBridge.Sim
