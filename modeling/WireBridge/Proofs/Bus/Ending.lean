/-
**How a search ends.**

A pass that tells that no code is left ends its search, whether it came to the end of the tree, lost
every device on the way or found the line empty.

* `Search.calls`: passes one after the other;
* `Search.calls_finished`: a search that has ended tells so, without a look at the line;
* `Search.next_ends`: a pass that tells that no code is left has ended its search;
* `Search.passes_calls`: a whole search is made of passes, no more than it may have.
-/

import WireBridge.Proofs.Action
import WireBridge.Registry.Channel

namespace WireBridge.Search

open WireBridge.Action (Leads)

variable {σ ε : Type}

/-! ### Passes one after the other -/

/-- The outcomes of some passes, and the search and the line after them. -/
def calls (master : Master σ ε) : Nat → Search × σ →
    List (Except (BusError ε) (Option Address)) × Search × σ
  | 0, state => ([], state)
  | more + 1, state =>
    let (outcome, reached) := (next master).perform state
    let (outcomes, last) := calls master more reached
    (outcome :: outcomes, last)

/-- The first of some passes, and the others after it. -/
theorem calls_succ (master : Master σ ε) (more : Nat) {state after : Search × σ}
    {outcome : Except (BusError ε) (Option Address)}
    (nextEq : (next master).perform state = (outcome, after)) :
    calls master (more + 1) state =
      (outcome :: (calls master more after).1, (calls master more after).2) := by
  rw [calls, nextEq]

/-- A pass of a search that has ended does nothing. -/
theorem next_finished (master : Master σ ε) {search : Search} (done : search.finished = true)
    (state : σ) : (next master).perform (search, state) = (.ok none, (search, state)) := by
  unfold next
  simp only [Action.perform_bind, Action.perform_current, done, if_true, Action.perform_pure]

/-- A search that has ended tells so, without a look at the line. -/
theorem calls_finished (master : Master σ ε) {search : Search} (done : search.finished = true)
    (count : Nat) (state : σ) :
    calls master count (search, state) = (List.replicate count (.ok none), (search, state)) := by
  induction count with
  | zero => rfl
  | succ more ih =>
    rw [calls_succ master more (next_finished master done state), ih, List.replicate_succ]

/-! ### The end of a search -/

/-- The search has ended if the pass told so. -/
def Ended (answer : Option Address) (state : Search × σ) : Prop :=
  answer = none → state.1.finished = true

/-- A search is ended by codes that are zero or lie past the branch of the family. -/
theorem conclude_ends {search after : Search} {lastZero : Nat}
    (ended : (search.conclude lastZero : Except (BusError ε) (Option Address) × Search) =
      (.ok none, after)) : after.finished = true := by
  unfold conclude at ended
  dsimp only at ended
  split at ended
  · exact (Prod.mk.inj ended).2 ▸ rfl
  · split at ended
    · exact (Prod.mk.inj ended).2 ▸ rfl
    · split at ended
      · exact absurd (congrArg Prod.fst ended) (by simp)
      · exact absurd (congrArg Prod.fst ended) (by simp)

theorem leads_stop_ended :
    Leads (fun _ => True) (stop : Action (Search × σ) (BusError ε) (Option Address))
      Ended fun _ => True :=
  Action.leads_bind (fun _ state => state.1.finished = true)
    (Action.leads_update fun _ _ => rfl) fun _ => Action.leads_pure fun _ done _ => done

theorem leads_conclude_ended (lastZero : Nat) :
    Leads (fun _ : Search × σ => True)
      (Action.onFirst (Action.ofStep fun search : Search =>
        (search.conclude lastZero : Except (BusError ε) (Option Address) × Search)))
      Ended fun _ => True := by
  rintro ⟨search, line⟩ _
  rw [Action.perform_onFirst, Action.perform_ofStep]
  cases ended : (search.conclude lastZero : Except (BusError ε) (Option Address) × Search) with
  | mk outcome after =>
    cases outcome with
    | error error => trivial
    | ok answer =>
      rintro rfl
      exact conclude_ends ended

/-- **A pass that tells that no code is left has ended its search**, whatever the line answers. -/
theorem next_ends (master : Master σ ε) :
    Leads (fun _ => True) (next master) Ended fun _ => True := by
  refine Action.leads_current_bind ?_
  rintro ⟨search, line⟩ _
  dsimp only
  split
  · next done =>
    refine Action.leads_pure ?_
    rintro _ rfl _
    exact done
  · refine Action.leads_bind (fun _ _ => True) Action.leads_any fun status => ?_
    split
    · refine Action.leads_current_bind fun current _ => ?_
      refine Action.leads_bind (fun _ _ => True) Action.leads_any fun _ => ?_
      refine Action.leads_bind (fun _ _ => True) Action.leads_any fun last => ?_
      cases last with
      | none => exact leads_stop_ended
      | some lastZero => exact leads_conclude_ended lastZero
    · exact leads_stop_ended
    · exact Action.leads_fail fun _ _ => trivial

/-! ### Whole searches -/

/-- The list of codes after one more pass. -/
def gather (found : List Address) : Except (BusError ε) (Option Address) → List Address
  | .ok (some code) => note found code
  | _ => found

/-- **A whole search is made of passes**, no more than it may have, and its list has the codes that
these told. -/
theorem passes_calls (master : Master σ ε) (left : Nat) (state : Search × σ)
    (found : List Address) :
    ∃ count ≤ left, (passes master left state found).2 =
      ((calls master count state).1.foldl gather found, (calls master count state).2.2) := by
  induction left generalizing state found with
  | zero => exact ⟨0, Nat.le_refl 0, rfl⟩
  | succ left ih =>
    cases nextEq : (next master).perform state with
    | mk outcome reached =>
      -- a pass after which the search is over
      have last (ended : (passes master (left + 1) state found).2 =
          (gather found outcome, reached.2)) : ∃ count ≤ left + 1,
          (passes master (left + 1) state found).2 =
            ((calls master count state).1.foldl gather found, (calls master count state).2.2) := by
        refine ⟨1, Nat.le_add_left 1 left, ?_⟩
        rw [ended, calls_succ master 0 nextEq]
        rfl
      -- a pass after which it goes on
      have onward (later : passes master (left + 1) state found =
          passes master left reached (gather found outcome)) : ∃ count ≤ left + 1,
          (passes master (left + 1) state found).2 =
            ((calls master count state).1.foldl gather found, (calls master count state).2.2) := by
        obtain ⟨count, few, passesEq⟩ := ih reached (gather found outcome)
        refine ⟨count + 1, Nat.succ_le_succ few, ?_⟩
        rw [later, passesEq, calls_succ master count nextEq]
        rfl
      cases outcome with
      | ok answer =>
        cases answer with
        | none => exact last (by rw [passes, nextEq]; rfl)
        | some code => exact onward (by rw [passes, nextEq]; rfl)
      | error error =>
        cases error with
        | invalidCrc => exact onward (by rw [passes, nextEq]; rfl)
        | _ => exact last (by rw [passes, nextEq]; rfl)

end WireBridge.Search
