/-
**Reasoning about actions.**

* `Action.bind_ok`, `Action.mapError_ok` and the like take an action that yielded a value apart;
* `Action.Leads`: what an action makes of a property of the state, with one rule for each way to
  build an action;
* `Action.Keeps`: an action that keeps a property, whatever its outcome;
* `Action.FailsOnly`: an action whose errors are all of some kind;
* `Action.Mirrors`: an action that does on a view of a state what another one does on the state;
* `Action.concat_eq_split`: the items of a list to which one was added.
-/

import WireBridge.Action

namespace WireBridge.Action

variable {σ τ ε ε' α β : Type}

theorem perform_current_bind (next : σ → Action σ ε α) (state : σ) :
    (current >>= next).perform state = (next state).perform state := rfl

/-! ### Actions that yielded a value -/

theorem pure_ok {value result : α} {state after : σ}
    (ran : (pure value : Action σ ε α).perform state = (.ok result, after)) :
    result = value ∧ after = state := by
  rw [perform_pure] at ran
  exact ⟨(Except.ok.inj (congrArg Prod.fst ran)).symm, (congrArg Prod.snd ran).symm⟩

theorem not_fail_ok {error : ε} {result : α} {state after : σ} :
    (fail error : Action σ ε α).perform state ≠ (.ok result, after) := by
  intro ran
  exact absurd (congrArg Prod.fst ran) (by simp)

/-- Both parts of an action that yielded a value yielded one. -/
theorem bind_ok {action : Action σ ε α} {next : α → Action σ ε β} {state after : σ} {result : β}
    (ran : (action >>= next).perform state = (.ok result, after)) :
    ∃ value reached, action.perform state = (.ok value, reached) ∧
      (next value).perform reached = (.ok result, after) := by
  rw [perform_bind] at ran
  generalize action.perform state = performed at ran ⊢
  rcases performed with ⟨error | value, reached⟩
  · exact absurd (congrArg Prod.fst ran) (by simp)
  · exact ⟨value, reached, rfl, ran⟩

/-- An action that ends with a given value yields it. -/
theorem bind_pure_ok {action : Action σ ε α} {state after : σ} {value result : β}
    (ran : (action >>= fun _ => pure value).perform state = (.ok result, after)) :
    result = value := by
  obtain ⟨_, _, _, last⟩ := bind_ok ran
  exact (pure_ok last).1

theorem ok_of_mapError {rename : ε → ε'} {outcome : Except ε α} {result : α}
    (renamed : outcome.mapError rename = .ok result) : outcome = .ok result := by
  cases outcome with
  | error error => exact nomatch (renamed : Except.error (rename error) = Except.ok result)
  | ok value => exact congrArg Except.ok (Except.ok.inj renamed)

theorem mapError_ok {rename : ε → ε'} {action : Action σ ε α} {state after : σ} {result : α}
    (ran : (mapError rename action).perform state = (.ok result, after)) :
    action.perform state = (.ok result, after) := by
  have outcome : (action.perform state).1.mapError rename = .ok result := congrArg Prod.fst ran
  have reached : (action.perform state).2 = after := congrArg Prod.snd ran
  exact Prod.ext (ok_of_mapError outcome) reached

theorem ofExcept_bind_ok {outcome : Except ε α} {next : α → Action σ ε β} {state after : σ}
    {result : β} (ran : (ofExcept outcome >>= next).perform state = (.ok result, after)) :
    ∃ value, outcome = .ok value ∧ (next value).perform state = (.ok result, after) := by
  obtain ⟨value, reached, known, rest⟩ := bind_ok ran
  obtain ⟨rfl, rfl⟩ := Prod.mk.inj known
  exact ⟨value, rfl, rest⟩

/-! ### Actions that failed -/

theorem not_pure_error {value : α} {state after : σ} {error : ε} :
    (pure value : Action σ ε α).perform state ≠ (.error error, after) := by
  intro ran
  exact absurd (congrArg Prod.fst ran) (by simp)

/-- Either the first part failed, or the second one after it. -/
theorem bind_error {action : Action σ ε α} {next : α → Action σ ε β} {state after : σ} {error : ε}
    (ran : (action >>= next).perform state = (.error error, after)) :
    action.perform state = (.error error, after) ∨
      ∃ value reached, action.perform state = (.ok value, reached) ∧
        (next value).perform reached = (.error error, after) := by
  rw [perform_bind] at ran
  generalize action.perform state = performed at ran ⊢
  rcases performed with ⟨first | value, reached⟩
  · obtain ⟨same, rfl⟩ := Prod.mk.inj ran
    obtain rfl := Except.error.inj same
    exact .inl rfl
  · exact .inr ⟨value, reached, rfl, ran⟩

theorem mapError_error {rename : ε → ε'} {action : Action σ ε α} {state after : σ} {error : ε'}
    (ran : (mapError rename action).perform state = (.error error, after)) :
    ∃ failure, action.perform state = (.error failure, after) := by
  rw [perform_mapError] at ran
  generalize action.perform state = performed at ran ⊢
  rcases performed with ⟨failure | value, reached⟩
  · obtain ⟨_, rfl⟩ := Prod.mk.inj ran
    exact ⟨failure, rfl⟩
  · exact nomatch (congrArg Prod.fst ran : Except.ok value = Except.error error)

/-! ### What actions lead to -/

/-- From any state with a property the action leads to a state with another one, which depends on
what it yields, and to a state with a third one if it fails. -/
def Leads (before : σ → Prop) (action : Action σ ε α) (after : α → σ → Prop)
    (failed : σ → Prop) : Prop :=
  ∀ state, before state → match action.perform state with
    | (.ok value, reached) => after value reached
    | (.error _, reached) => failed reached

/-- The action keeps a property, whatever its outcome. -/
def Keeps (kept : σ → Prop) (action : Action σ ε α) : Prop :=
  Leads kept action (fun _ => kept) kept

variable {before failed kept : σ → Prop} {after : α → σ → Prop} {last : β → σ → Prop}

theorem Leads.of_perform {action : Action σ ε α}
    (leads : Leads before action after failed) {state : σ} (holds : before state)
    {value : α} {reached : σ} (ran : action.perform state = (.ok value, reached)) :
    after value reached := by
  have here := leads state holds
  rw [ran] at here
  exact here

/-- An action that cannot fail yields a value. -/
theorem Leads.performs {action : Action σ ε α} (leads : Leads before action after failed)
    (never : ∀ state, ¬ failed state) {state : σ} (holds : before state) :
    ∃ value reached, action.perform state = (.ok value, reached) ∧ after value reached := by
  have here := leads state holds
  generalize action.perform state = performed at here ⊢
  rcases performed with ⟨error | value, reached⟩
  · exact absurd here (never reached)
  · exact ⟨value, reached, rfl, here⟩

theorem keeps_iff {action : Action σ ε α} :
    Keeps kept action ↔ ∀ state, kept state → kept (action.perform state).2 := by
  constructor
  · intro keeps state holds
    have here := keeps state holds
    generalize action.perform state = performed at here ⊢
    rcases performed with ⟨error | value, reached⟩
    · exact here
    · exact here
  · intro keeps state holds
    have here := keeps state holds
    generalize action.perform state = performed at here ⊢
    rcases performed with ⟨error | value, reached⟩
    · exact here
    · exact here

/-- Every action leads somewhere. -/
theorem leads_any {action : Action σ ε α} :
    Leads before action (fun _ _ => True) fun _ => True := by
  intro state _
  generalize action.perform state = performed
  rcases performed with ⟨error | value, reached⟩
  · trivial
  · trivial

theorem Leads.mono {action : Action σ ε α} {wanted : α → σ → Prop} {broken : σ → Prop}
    (leads : Leads before action after failed)
    (yielded : ∀ value state, after value state → wanted value state)
    (stopped : ∀ state, failed state → broken state) : Leads before action wanted broken := by
  intro state holds
  have here := leads state holds
  generalize action.perform state = performed at here ⊢
  rcases performed with ⟨error | value, reached⟩
  · exact stopped reached here
  · exact yielded value reached here

/-- What two properties of the state lead to. -/
theorem Leads.and {action : Action σ ε α} {start broken : σ → Prop} {wanted : α → σ → Prop}
    (one : Leads before action after failed) (other : Leads start action wanted broken) :
    Leads (fun state => before state ∧ start state) action
      (fun value state => after value state ∧ wanted value state)
      fun state => failed state ∧ broken state := by
  rintro state ⟨here, there⟩
  have first := one state here
  have second := other state there
  generalize action.perform state = performed at first second ⊢
  rcases performed with ⟨error | value, reached⟩
  · exact ⟨first, second⟩
  · exact ⟨first, second⟩

theorem Keeps.leads_and {action : Action σ ε α} (keeps : Keeps kept action)
    (leads : Leads before action after failed) :
    Leads (fun state => kept state ∧ before state) action
      (fun value state => kept state ∧ after value state)
      fun state => kept state ∧ failed state :=
  Leads.and keeps leads

theorem Keeps.and {other : σ → Prop} {action : Action σ ε α} (one : Keeps kept action)
    (another : Keeps other action) : Keeps (fun state => kept state ∧ other state) action :=
  one.leads_and another

theorem Leads.of_imp {action : Action σ ε α} {start : σ → Prop}
    (leads : Leads before action after failed) (weaker : ∀ state, start state → before state) :
    Leads start action after failed :=
  fun state holds => leads state (weaker state holds)

theorem leads_exists {ι : Sort _} {start : ι → σ → Prop} {action : Action σ ε α}
    (each : ∀ index, Leads (start index) action after failed) :
    Leads (fun state => ∃ index, start index state) action after failed :=
  fun state ⟨index, holds⟩ => each index state holds

theorem leads_pure {value : α} (holds : ∀ state, before state → after value state) :
    Leads before (pure value : Action σ ε α) after failed :=
  fun state here => holds state here

theorem leads_fail {error : ε} (holds : ∀ state, before state → failed state) :
    Leads before (fail error : Action σ ε α) after failed :=
  fun state here => holds state here

theorem leads_bind (middle : α → σ → Prop) {action : Action σ ε α} {next : α → Action σ ε β}
    (first : Leads before action middle failed)
    (second : ∀ value, Leads (middle value) (next value) last failed) :
    Leads before (action >>= next) last failed := by
  intro state holds
  have here := first state holds
  rw [perform_bind]
  generalize action.perform state = performed at here ⊢
  rcases performed with ⟨error | value, reached⟩
  · exact here
  · exact second value reached here

/-- An action that looks at the state first. -/
theorem leads_current_bind {next : σ → Action σ ε α}
    (rest : ∀ state, before state → Leads (· = state) (next state) after failed) :
    Leads before (current >>= next) after failed := by
  intro state holds
  rw [perform_current_bind]
  exact rest state holds state rfl

theorem leads_update {change : σ → σ} {after : Unit → σ → Prop}
    (holds : ∀ state, before state → after () (change state)) :
    Leads before (update change : Action σ ε Unit) after failed :=
  fun state here => holds state here

theorem leads_mapError {rename : ε → ε'} {action : Action σ ε α}
    (leads : Leads before action after failed) :
    Leads before (mapError rename action) after failed := by
  intro state holds
  have here := leads state holds
  rw [perform_mapError]
  generalize action.perform state = performed at here ⊢
  rcases performed with ⟨error | value, reached⟩
  · exact here
  · exact here

theorem leads_ofExcept {outcome : Except ε α}
    (yielded : ∀ value, outcome = .ok value → ∀ state, before state → after value state)
    (stopped : ∀ state, before state → failed state) :
    Leads before (ofExcept outcome) after failed := by
  intro state holds
  rw [perform_ofExcept]
  cases outcome with
  | error error => exact stopped state holds
  | ok value => exact yielded value rfl state holds

/-- An action on the second half of a state leaves the first half as it is. -/
theorem leads_onSecond (left : τ → Prop) {action : Action σ ε α}
    (leads : Leads before action after failed) :
    Leads (fun state : τ × σ => left state.1 ∧ before state.2) (onSecond action)
      (fun value state => left state.1 ∧ after value state.2)
      fun state => left state.1 ∧ failed state.2 := by
  rintro ⟨first, second⟩ ⟨kept, holds⟩
  have there := leads second holds
  rw [perform_onSecond]
  generalize action.perform second = performed at there ⊢
  rcases performed with ⟨error | value, reached⟩
  · exact ⟨kept, there⟩
  · exact ⟨kept, there⟩

theorem leads_second {action : Action σ ε α} (leads : Leads before action after failed) :
    Leads (fun state : τ × σ => before state.2) (onSecond action)
      (fun value state => after value state.2) fun state => failed state.2 :=
  ((leads_onSecond (fun _ => True) leads).mono (fun _ _ here => here.2) fun _ here => here.2).of_imp
    fun _ holds => ⟨trivial, holds⟩

/-- Whatever happens to the second half, the first half is kept. -/
theorem keeps_first (left : τ → Prop) {action : Action σ ε α} :
    Keeps (fun state : τ × σ => left state.1) (onSecond action) := by
  have any : Keeps (fun _ : σ => True) action := keeps_iff.mpr fun _ _ => trivial
  exact ((leads_onSecond left any).mono (fun _ _ here => here.1) fun _ here => here.1).of_imp
    fun _ kept => ⟨kept, trivial⟩

theorem keeps_collect {action : Action σ ε α} (each : Keeps kept action) (count : Nat) :
    Keeps kept (collect count action) := by
  induction count with
  | zero => exact leads_pure fun _ here => here
  | succ before ih =>
    refine leads_bind _ ih fun _ => leads_bind _ each fun _ => ?_
    exact leads_pure fun _ here => here

/-! ### What actions fail with -/

/-- From any state with a property the action fails only with errors of some kind. -/
def FailsOnly (before : σ → Prop) (possible : ε → Prop) (action : Action σ ε α) : Prop :=
  ∀ state, before state → ∀ error after, action.perform state = (.error error, after) →
    possible error

section FailsOnly

variable {possible : ε → Prop}

theorem FailsOnly.of_imp {start : σ → Prop} {action : Action σ ε α}
    (fails : FailsOnly before possible action) (weaker : ∀ state, start state → before state) :
    FailsOnly start possible action :=
  fun state holds => fails state (weaker state holds)

theorem FailsOnly.mono {told : ε → Prop} {action : Action σ ε α}
    (fails : FailsOnly before possible action) (weaker : ∀ error, possible error → told error) :
    FailsOnly before told action :=
  fun state holds error after ran => weaker error (fails state holds error after ran)

theorem failsOnly_pure (value : α) : FailsOnly before possible (pure value : Action σ ε α) :=
  fun _ _ _ _ ran => absurd ran not_pure_error

theorem failsOnly_fail {error : ε} (known : possible error) :
    FailsOnly before possible (fail error : Action σ ε α) := by
  intro state _ other after ran
  obtain rfl := Except.error.inj (congrArg Prod.fst ran)
  exact known

theorem failsOnly_update {change : σ → σ} :
    FailsOnly before possible (update change : Action σ ε Unit) := by
  intro state _ error after ran
  exact nomatch (congrArg Prod.fst ran : Except.ok () = Except.error error)

theorem failsOnly_bind {action : Action σ ε α} {next : α → Action σ ε β}
    (first : FailsOnly before possible action)
    (second : ∀ value, FailsOnly (fun _ => True) possible (next value)) :
    FailsOnly before possible (action >>= next) := by
  intro state holds error after ran
  rcases bind_error ran with here | ⟨value, reached, _, later⟩
  · exact first state holds error after here
  · exact second value reached trivial error after later

/-- An action that looks at the state first. -/
theorem failsOnly_current_bind {next : σ → Action σ ε α}
    (rest : ∀ state, before state → FailsOnly (· = state) possible (next state)) :
    FailsOnly before possible (current >>= next) :=
  fun state holds => rest state holds state rfl

/-- Errors that are renamed. -/
theorem failsOnly_mapError {rename : ε → ε'} {told : ε' → Prop} {action : Action σ ε α}
    (fails : FailsOnly before possible action)
    (known : ∀ error, possible error → told (rename error)) :
    FailsOnly before told (mapError rename action) := by
  intro state holds error after ran
  rw [perform_mapError] at ran
  cases performed : action.perform state with
  | mk outcome reached =>
    rw [performed] at ran
    cases outcome with
    | ok value => exact nomatch (congrArg Prod.fst ran : Except.ok value = Except.error error)
    | error failure =>
      obtain rfl := Except.error.inj (congrArg Prod.fst ran)
      exact known failure (fails state holds failure reached performed)

/-- Whatever happened, the error has a name of some kind afterwards. -/
theorem failsOnly_rename {rename : ε → ε'} {told : ε' → Prop} {action : Action σ ε α}
    (known : ∀ error, told (rename error)) : FailsOnly before told (mapError rename action) :=
  failsOnly_mapError (fun _ _ _ _ _ => trivial : FailsOnly before (fun _ => True) action)
    fun error _ => known error

/-- An action on the second half of a state. -/
theorem failsOnly_onSecond {action : Action σ ε α} (fails : FailsOnly before possible action) :
    FailsOnly (fun state : τ × σ => before state.2) possible (onSecond action) := by
  intro state holds error after ran
  have failed : (action.perform state.2).1 = .error error := congrArg Prod.fst ran
  exact fails state.2 holds error (action.perform state.2).2 (Prod.ext failed rfl)

theorem failsOnly_ofExcept {outcome : Except ε α}
    (known : ∀ error, outcome = .error error → possible error) :
    FailsOnly before possible (ofExcept outcome) :=
  fun _ _ error _ ran => known error (congrArg Prod.fst ran)

end FailsOnly

/-! ### Actions on a view of a state -/

/-- On a view of any state the second action does what the first one does on the state. -/
def Mirrors (view : τ → σ) (first : Action τ ε α) (second : Action σ ε α) : Prop :=
  ∀ state, second.perform (view state) = ((first.perform state).1, view (first.perform state).2)

section Mirrors

variable {view : τ → σ} {first : Action τ ε α} {second : Action σ ε α}

theorem mirrors_pure (value : α) :
    Mirrors view (pure value : Action τ ε α) (pure value : Action σ ε α) :=
  fun _ => rfl

theorem mirrors_fail (error : ε) :
    Mirrors view (fail error : Action τ ε α) (fail error : Action σ ε α) :=
  fun _ => rfl

theorem mirrors_bind {next : α → Action τ ε β} {other : α → Action σ ε β}
    (start : Mirrors view first second) (rest : ∀ value, Mirrors view (next value) (other value)) :
    Mirrors view (first >>= next) (second >>= other) := by
  intro state
  rw [perform_bind, start state, perform_bind]
  rcases first.perform state with ⟨error | value, reached⟩
  · rfl
  · exact rest value reached

/-- An action that looks at the state first. -/
theorem mirrors_current_bind {next : τ → Action τ ε α} {other : σ → Action σ ε α}
    (rest : ∀ state, Mirrors view (next state) (other (view state))) :
    Mirrors view (current >>= next) (current >>= other) :=
  fun state => rest state state

theorem mirrors_update {change : τ → τ} {other : σ → σ}
    (same : ∀ state, other (view state) = view (change state)) :
    Mirrors view (update change : Action τ ε Unit) (update other : Action σ ε Unit) :=
  fun state => congrArg (Prod.mk (Except.ok ())) (same state)

theorem mirrors_mapError {rename : ε → ε'} (mirrors : Mirrors view first second) :
    Mirrors view (mapError rename first) (mapError rename second) := by
  intro state
  rw [perform_mapError, mirrors state, perform_mapError]

theorem mirrors_onSecond {ρ : Type} (mirrors : Mirrors view first second) :
    Mirrors (fun state : ρ × τ => (state.1, view state.2)) (onSecond first) (onSecond second) := by
  intro state
  rw [perform_onSecond, mirrors state.2]
  rfl

end Mirrors

/-! ### Lists of what happened -/

/-- The last item of a list, or one of the others. -/
theorem concat_eq_split {items front back : List β} {last item : β} :
    items ++ [last] = front ++ item :: back ↔
      (front = items ∧ item = last ∧ back = []) ∨
        ∃ rest, back = rest ++ [last] ∧ items = front ++ item :: rest := by
  constructor
  · intro split
    rcases List.eq_nil_or_concat back with rfl | ⟨rest, other, rfl⟩
    · obtain ⟨same, only⟩ := List.append_inj' split rfl
      exact .inl ⟨same.symm, (List.cons.inj only).1.symm, rfl⟩
    · rw [List.concat_eq_append, ← List.cons_append, ← List.append_assoc] at split
      obtain ⟨same, only⟩ := List.append_inj' split rfl
      obtain rfl := (List.cons.inj only).1
      exact .inr ⟨rest, List.concat_eq_append, same⟩
  · rintro (⟨rfl, rfl, rfl⟩ | ⟨rest, rfl, rfl⟩)
    · rfl
    · rw [List.append_assoc, List.cons_append]

end WireBridge.Action
