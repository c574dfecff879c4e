/-
**Conditions on a registry that no command ends.**

* `Registry.Stable`: a condition that nothing ends that commands do;
* `Registry.Stable.took`: no poll ends it;
* `Registry.Stable.run_polls`, `Registry.Stable.run_after`: it holds throughout a run, from its
  start or from some poll on.
-/

import WireBridge.Proofs.Bridge.Keeping
import WireBridge.Proofs.Bridge.Run

namespace WireBridge

open WireBridge.Action (Leads Keeps)

variable {β ω ε : Type} {lines : ChannelId → Master (β × ω) ε} {apt : Address → Device → Prop}
  {kept : Registry β → Prop}

/-- Nothing that commands do ends a condition, whatever they convert. -/
abbrev Registry.Stable (lines : ChannelId → Master (β × ω) ε) (apt : Address → Device → Prop)
    (kept : Registry β → Prop) : Prop :=
  Registry.Keeping lines apt (fun _ _ => True) kept

namespace Registry.Stable

open Bridge (Taking Poll Event Ledger Entry run step polls)

variable (stable : Registry.Stable lines apt kept)

include stable

theorem keeps_advance (command : Command) (now : Nat) :
    Keeps (fun state => kept state.1) (Command.advance lines command now) :=
  Keeping.keeps_advance stable now fun _ _ _ _ _ => trivial

/-! ### Turns -/

theorem taking {now : Nat} {command : Command} {bridge reached : Bridge β} {world after : ω}
    {turn : Turn} (taking : Taking lines now command bridge world (turn, reached, after))
    (here : kept bridge.registry) : kept reached.registry := by
  have advance : ∀ outcome registry reached,
      (Command.advance lines command now).perform (bridge.registry, world) =
        (outcome, (registry, reached)) → kept registry := by
    intro outcome registry reached ran
    have stays := Action.keeps_iff.mp (stable.keeps_advance command now)
      (bridge.registry, world) here
    rw [ran] at stays
    exact stays
  cases taking with
  | scans due verb ran =>
    have stays := Action.keeps_iff.mp (stable.keeps_discover command) (bridge.registry, world) here
    rw [ran] at stays
    exact stays
  | goesOn due verb ran => exact advance _ _ _ ran
  | reads due verb ran => exact advance _ _ _ ran
  | fails due verb ran => exact advance _ _ _ ran
  | _ => exact here

theorem took {poll : Poll β ω} (took : poll.Took lines) (here : kept poll.before.1) :
    kept poll.after.1 := by
  obtain ⟨bridge, reached, found, left, taking⟩ := took
  rw [← found] at here
  rw [← left]
  exact stable.taking taking here

/-! ### Runs -/

theorem step_keeps {ledger : Ledger β ω} (sound : ledger.Sound) (event : Event)
    (here : kept ledger.bridge.registry) : kept (step lines event ledger).2.bridge.registry := by
  cases found : (step lines event ledger).1.poll? with
  | none =>
    rw [Bridge.step_idle lines sound event found]
    exact here
  | some poll =>
    obtain ⟨took, before, after⟩ := Bridge.step_took lines sound event found
    rw [← after]
    exact stable.took took (before ▸ here)

theorem run_keeps (events : List Event) {ledger : Ledger β ω} (sound : ledger.Sound)
    (here : kept ledger.bridge.registry) : kept (run lines events ledger).2.bridge.registry := by
  induction events generalizing ledger with
  | nil => exact here
  | cons event rest ih =>
    rw [Bridge.run_cons]
    exact ih (Bridge.step_sound lines sound event) (stable.step_keeps sound event here)

/-- **The condition holds at every poll of a run.** -/
theorem run_polls (events : List Event) {ledger : Ledger β ω} (sound : ledger.Sound)
    (here : kept ledger.bridge.registry) :
    ∀ poll ∈ polls (run lines events ledger).1,
      poll.Took lines ∧ kept poll.before.1 ∧ kept poll.after.1 := by
  induction events generalizing ledger with
  | nil => exact fun _ member => absurd member List.not_mem_nil
  | cons event rest ih =>
    intro poll member
    obtain ⟨entry, inside, found⟩ := List.mem_filterMap.mp member
    rw [Bridge.run_cons] at inside
    rcases List.mem_cons.mp inside with rfl | later
    · obtain ⟨took, before, _⟩ := Bridge.step_took lines sound event found
      have there : kept poll.before.1 := before ▸ here
      exact ⟨took, there, stable.took took there⟩
    · exact ih (Bridge.step_sound lines sound event) (stable.step_keeps sound event here) poll
        (List.mem_filterMap.mpr ⟨entry, later, found⟩)

/-- **The condition holds from some poll on.** -/
theorem run_after (events : List Event) {ledger : Ledger β ω} (sound : ledger.Sound)
    {poll : Poll β ω} (member : poll ∈ polls (run lines events ledger).1)
    (there : kept poll.after.1) : kept (run lines events ledger).2.bridge.registry := by
  induction events generalizing ledger with
  | nil => exact absurd member List.not_mem_nil
  | cons event rest ih =>
    have next := Bridge.step_sound lines sound event
    obtain ⟨entry, inside, found⟩ := List.mem_filterMap.mp member
    rw [Bridge.run_cons] at inside ⊢
    rcases List.mem_cons.mp inside with rfl | later
    · obtain ⟨_, _, after⟩ := Bridge.step_took lines sound event found
      exact stable.run_keeps rest next (after ▸ there)
    · exact ih next (List.mem_filterMap.mpr ⟨entry, later, found⟩)

end Registry.Stable

end WireBridge
