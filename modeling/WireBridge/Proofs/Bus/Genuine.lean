/-
**Codes that a search yields.**

A line may answer anything: noise, contradictions, codes of devices that are not there. Whatever it
answers, what a search yields has been checked.

* `Search.Seeks`: what a search looks for;
* `Search.Genuine`: a code that is not zero, fits its check byte and is looked for;
* `Search.next_genuine`, `Search.passes_genuine`, `Search.present_genuine`: a pass, a whole search
  and the question for one device let only such codes through.
-/

import WireBridge.Proofs.Action
import WireBridge.Registry.Channel

namespace WireBridge.Search

open WireBridge.Action (Leads Keeps)

variable {σ ε : Type}

/-- Whether a search for all devices, or for those of one family, looks for a code. -/
def Seeks (family : Option FamilyCode) (code : Address) : Prop :=
  ∀ wanted, family = some wanted → code.family = wanted

theorem seeks_iff {family : Option FamilyCode} {code : Address} :
    Seeks family code ↔ family.any (· != code.family) = false := by
  cases family with
  | none => simp [Seeks]
  | some wanted => simpa [Seeks] using eq_comm

theorem seeks_none (code : Address) : Seeks none code :=
  fun _ named => absurd named (Option.some_ne_none _).symm

theorem seeks_some {family : FamilyCode} {code : Address} :
    Seeks (some family) code ↔ code.family = family :=
  ⟨fun seeks => seeks family rfl, fun same _ named => same.trans (Option.some.inj named)⟩

/-- A code that is not zero, fits its check byte and is looked for. -/
structure Genuine (family : Option FamilyCode) (code : Address) : Prop where
  nonzero : code ≠ Address.zero
  valid : code.valid = true
  sought : Seeks family code

theorem Genuine.weaken {family : Option FamilyCode} {code : Address}
    (genuine : Genuine family code) : Genuine none code :=
  ⟨genuine.nonzero, genuine.valid, seeks_none code⟩

/-! ### One pass -/

section Pass

variable {family : Option FamilyCode} {master : Master σ ε}

theorem start_family (kind : SearchKind) (family : Option FamilyCode) :
    (start kind family).family = family := by
  cases family <;> rfl

theorem conclude_family_eq (search : Search) (lastZero : Nat) :
    (search.conclude lastZero : Except (BusError ε) (Option Address) × Search).2.family =
      search.family := by
  unfold conclude
  dsimp only
  split
  · rfl
  · split
    · rfl
    · split <;> rfl

/-- The code at the end of a pass has been checked. -/
theorem conclude_genuine {search after : Search} {lastZero : Nat} {code : Address}
    (ended : (search.conclude lastZero : Except (BusError ε) (Option Address) × Search) =
      (.ok (some code), after)) : Genuine search.family code := by
  unfold conclude at ended
  dsimp only at ended
  split at ended
  · exact absurd (congrArg Prod.fst ended) (by simp)
  · next nonzero =>
    split at ended
    · exact absurd (congrArg Prod.fst ended) (by simp)
    · next inFamily =>
      split at ended
      · next valid =>
        obtain rfl : search.rom = code := by simpa using congrArg Prod.fst ended
        refine ⟨nonzero, valid, ?_⟩
        intro wanted named
        rw [named] at inFamily
        simpa using (by simpa using inFamily : wanted = search.rom.family).symm
      · exact absurd (congrArg Prod.fst ended) (by simp)

/-- A search for all devices, or for those of one family, on some line. -/
def Restricted (family : Option FamilyCode) (state : Search × σ) : Prop :=
  state.1.family = family

theorem keeps_restricted {α : Type} (action : Action σ ε α) :
    Keeps (Restricted family) (Action.onSecond action : Action (Search × σ) ε α) :=
  Action.keeps_first fun search : Search => search.family = family

/-- What a walk sees does not change what the search looks for. -/
theorem keeps_walk (remaining lastZero : Nat) :
    Keeps (Restricted family) (walk master remaining lastZero) := by
  induction remaining generalizing lastZero with
  | zero => exact Action.leads_pure fun _ here => here
  | succ left ih =>
    refine Action.leads_current_bind fun current here => ?_
    refine Action.leads_bind (fun _ => Restricted family)
      ((keeps_restricted _).of_imp fun _ same => same ▸ here) fun triplet => ?_
    split
    · exact Action.leads_pure fun _ still => still
    · exact Action.leads_bind (fun _ => Restricted family)
        (Action.leads_update fun _ still => still) fun _ => ih _

/-- The search still looks for the same, and what it yielded is genuine. -/
def Yields (family : Option FamilyCode) (found : Option Address) (state : Search × σ) : Prop :=
  Restricted family state ∧ ∀ code, found = some code → Genuine family code

theorem leads_stop :
    Leads (Restricted family) (stop : Action (Search × σ) (BusError ε) (Option Address))
      (Yields family) (Restricted family) :=
  Action.leads_bind (fun _ => Restricted family) (Action.leads_update fun _ here => here) fun _ =>
    Action.leads_pure fun _ here => ⟨here, fun _ none => absurd none (Option.some_ne_none _).symm⟩

theorem leads_conclude (lastZero : Nat) :
    Leads (Restricted family : Search × σ → Prop)
      (Action.onFirst (Action.ofStep fun search : Search =>
        (search.conclude lastZero : Except (BusError ε) (Option Address) × Search)))
      (Yields family) (Restricted family) := by
  rintro ⟨search, line⟩ restricted
  have still := (conclude_family_eq (ε := ε) search lastZero).trans restricted
  have checked (code : Address) (after : Search)
      (ended : (search.conclude lastZero : Except (BusError ε) (Option Address) × Search) =
        (.ok (some code), after)) : Genuine family code := restricted ▸ conclude_genuine ended
  rw [Action.perform_onFirst, Action.perform_ofStep]
  generalize (search.conclude lastZero : Except (BusError ε) (Option Address) × Search) = ended
    at still checked ⊢
  obtain ⟨error | found, after⟩ := ended
  · exact still
  · exact ⟨still, fun code yielded => checked code after (by rw [yielded])⟩

theorem leads_pass :
    Leads (Restricted family) (pass master) (Yields family) (Restricted family) := by
  refine Action.leads_current_bind fun current here => ?_
  refine Action.leads_bind (fun _ => Restricted family)
    ((keeps_restricted _).of_imp fun _ same => same ▸ here) fun _ => ?_
  refine Action.leads_bind (fun _ => Restricted family) (keeps_walk 64 0) fun last => ?_
  cases last with
  | none => exact leads_stop
  | some lastZero => exact leads_conclude lastZero

/-- **A pass** yields only genuine codes, whatever the line answers. -/
theorem next_genuine (family : Option FamilyCode) (master : Master σ ε) :
    Leads (Restricted family) (next master) (Yields family) (Restricted family) := by
  refine Action.leads_current_bind ?_
  rintro ⟨search, line⟩ here
  have same : ∀ state, state = (search, line) → Restricted family state := by
    rintro _ rfl
    exact here
  dsimp only
  split
  · exact Action.leads_pure fun state still =>
      ⟨same state still, fun _ none => absurd none (Option.some_ne_none _).symm⟩
  · refine Action.leads_bind (fun _ => Restricted family) ?_ fun status => ?_
    · intro state still
      exact Action.keeps_iff.mp (keeps_restricted _) state (same state still)
    · split
      · exact leads_pass
      · exact leads_stop
      · exact Action.leads_fail fun _ still => still

end Pass

/-! ### A whole search -/

theorem mem_note {found : List Address} {code other : Address} :
    other ∈ note found code ↔ other ∈ found ∨ other = code := by
  unfold note
  by_cases known : code ∈ found
  · simp only [List.contains_iff_mem.mpr known, if_true]
    exact ⟨.inl, fun either => either.elim id fun same => same ▸ known⟩
  · simp [known]

theorem nodup_note {found : List Address} (distinct : found.Nodup) (code : Address) :
    (note found code).Nodup := by
  unfold note
  split
  · exact distinct
  · next unknown =>
    have fresh : code ∉ found := by simpa using unknown
    refine List.nodup_append.mpr ⟨distinct, List.pairwise_singleton _ _, ?_⟩
    rintro other known _ (_ | ⟨_, ⟨⟩⟩) rfl
    exact fresh known

/-- **A search** lists each code once, and only genuine ones. -/
theorem passes_genuine {family : Option FamilyCode} (master : Master σ ε) (left : Nat)
    {state : Search × σ} {found : List Address} (restricted : state.1.family = family)
    (distinct : found.Nodup) (genuine : ∀ code ∈ found, Genuine family code) :
    (passes master left state found).2.1.Nodup ∧
      ∀ code ∈ (passes master left state found).2.1, Genuine family code := by
  induction left generalizing state found with
  | zero => exact ⟨distinct, genuine⟩
  | succ left ih =>
    have here := next_genuine family master state restricted
    unfold passes
    generalize (next master).perform state = performed at here ⊢
    obtain ⟨error | answer, reached⟩ := performed
    · cases error with
      | invalidCrc => exact ih here distinct genuine
      | _ => exact ⟨distinct, genuine⟩
    · cases answer with
      | none => exact ⟨distinct, genuine⟩
      | some code =>
        refine ih here.1 (nodup_note distinct code) fun other member => ?_
        rcases mem_note.mp member with known | rfl
        · exact genuine other known
        · exact here.2 other rfl

/-- **Only a genuine code** is told to be present. -/
theorem present_genuine {master : Master σ ε} {code : Address} {line reached : σ}
    (answer : (present master code).perform line = (.ok true, reached)) : Genuine none code := by
  have here := next_genuine none master ((start .normal none).aim code, line) rfl
  unfold present confirm at answer
  simp only [Action.perform_ofStep, Action.perform_bind, Action.perform_current,
    Action.perform_update, Action.perform_attempt] at answer
  generalize (next master).perform ((start .normal none).aim code, line) = performed at here answer
  obtain ⟨error | found, after⟩ := performed
  · cases error with
    | invalidCrc => exact absurd (congrArg Prod.fst answer) (by simp)
    | _ => exact absurd (congrArg Prod.fst answer) (by simp)
  · have same : found = some code := by simpa using congrArg Prod.fst answer
    exact here.2 code same

end WireBridge.Search
