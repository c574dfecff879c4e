/-
**Each transfer of a channel runs on that channel.**

All users of a switch share its control register, and a write that fails leaves it as it was. So
what a channel relies on is not the state that it left behind but the selection that it makes just
before each transfer.

* `Mux.run`: what comes of the calls of all users of a switch, with the transfers that each of them
  makes on the shared bus;
* `Mux.register?`: the control register, which is the last byte that reached the switch;
* `Mux.Passage`: what a transfer of a channel comes to, one case for each way out;
* `Mux.run_selected`: after any calls, a transfer of a channel passes right after its own selection,
  with the register set to that channel alone, or fails without reaching a peer.
-/

import WireBridge.I2c.Mux
import WireBridge.Proofs.Action
import WireBridge.Proofs.I2c.Demand

namespace WireBridge.Mux

open I2c (Demand PeerAddress Transfer)
open WireBridge.Action (Keeps keeps_iff leads_bind leads_fail leads_pure)

variable {σ ε : Type}

/-! ### Users of a switch -/

/-- What a user of a switch calls for. -/
inductive Call where
  | probe
  | select (channel : UInt8)
  | disconnect
  /-- A transfer through the switch as it is set. -/
  | through (demand : Demand)
  /-- A transfer on one channel. -/
  | onChannel (channel : UInt8) (demand : Demand)

/-- What comes of a call: the bytes of each read. -/
def Call.run (bus : I2c σ ε) : Call → Action (Mux × σ) (MuxError ε) (List (List UInt8))
  | .probe => do
    let register ← Mux.probe bus
    pure [[register]]
  | .select channel => do
    Mux.select bus channel
    pure []
  | .disconnect => do
    Mux.disconnect bus
    pure []
  | .through demand => demand.run (Mux.through bus)
  | .onChannel channel demand => demand.run (Mux.channel bus channel)

/-- A call, what came of it, and the transfers that it made on the shared bus, in order. -/
structure Entry (ε : Type) where
  call : Call
  outcome : Except (MuxError ε) (List (List UInt8))
  made : List Transfer

/-- A call that found the switch. -/
def Entry.finds (entry : Entry ε) : Bool :=
  match entry.call, entry.outcome with
  | .probe, .ok _ => true
  | _, _ => false

/-- One call. -/
def step (bus : I2c σ ε) (call : Call) (state : Mux × σ) : Entry ε × Mux × σ :=
  let (outcome, (mux, (line, notes))) :=
    (call.run (bus.traced id)).perform (state.1, (state.2, []))
  (⟨call, outcome, notes.reverse⟩, (mux, line))

/-- Calls one after the other. -/
def run (bus : I2c σ ε) : List Call → Mux × σ → List (Entry ε) × Mux × σ
  | [], state => ([], state)
  | call :: rest, state =>
    let (entry, reached) := step bus call state
    let (entries, last) := run bus rest reached
    (entry :: entries, last)

/-- The transfers on the shared bus, in order. -/
def traffic (entries : List (Entry ε)) : List Transfer := entries.flatMap Entry.made

/-- The control register of a switch: the last byte that reached it. -/
def register? (address : PeerAddress) (transfers : List Transfer) : Option UInt8 :=
  (transfers.flatMap (Transfer.stored address)).getLast?

/-! ### Transfers behind the switch -/

section Transfers

variable {α β : Type} (bus : I2c σ ε)

theorem forward_perform (transfer : Action σ ε α) (mux : Mux) (line : σ) :
    (forward transfer).perform (mux, line) =
      if mux.initialized then
        ((transfer.perform line).1.mapError .i2c, (mux, (transfer.perform line).2))
      else (.error .notInitialized, (mux, line)) := by
  unfold forward requireFound
  simp only [Action.perform_bind, Action.perform_current]
  cases mux.initialized <;> rfl

theorem probe_perform (mux : Mux) (line : σ) :
    (probe bus).perform (mux, line) =
      match (bus.read mux.address 1).perform line with
      | (.ok register, reached) => (.ok register.head, (⟨mux.address, true⟩, reached))
      | (.error error, reached) => (.error (.i2c error), (mux, reached)) := by
  unfold probe pass
  simp only [Action.perform_bind, Action.perform_current, Action.perform_onSecond,
    Action.perform_mapError]
  rcases (bus.read mux.address 1).perform line with ⟨error | register, reached⟩ <;> rfl

theorem writeControl_perform (register : UInt8) (mux : Mux) (line : σ) :
    (writeControl bus register).perform (mux, line) =
      if mux.initialized then
        (((bus.write mux.address [register]).perform line).1.mapError .i2c,
          (mux, ((bus.write mux.address [register]).perform line).2))
      else (.error .notInitialized, (mux, line)) := by
  unfold writeControl requireFound
  simp only [Action.perform_bind, Action.perform_current]
  cases mux.initialized <;> rfl

/-- What is made of the result of a transfer happens after it, in front of the switch or behind. -/
theorem forward_bind_pure (transfer : Action σ ε α) (form : α → β) :
    (forward transfer >>= fun value => pure (form value)) =
      forward (transfer >>= fun value => pure (form value)) := by
  refine Action.ext fun ⟨mux, line⟩ => ?_
  rw [Action.perform_bind, forward_perform, forward_perform, Action.perform_bind]
  cases mux.initialized with
  | false => rfl
  | true => rcases transfer.perform line with ⟨error | value, reached⟩ <;> rfl

theorem onChannel_bind_pure (channel : UInt8) (transfer : Action σ ε α) (form : α → β) :
    (onChannel bus channel transfer >>= fun value => pure (form value)) =
      onChannel bus channel (transfer >>= fun value => pure (form value)) := by
  unfold onChannel
  rw [← forward_bind_pure]
  refine Action.ext fun state => ?_
  simp only [Action.perform_bind]
  rcases (select bus channel).perform state with ⟨error | done, reached⟩ <;> rfl

theorem run_through (demand : Demand) : demand.run (through bus) = forward (demand.run bus) := by
  cases demand with
  | read peer count => exact forward_bind_pure (bus.read peer count) fun bytes => [bytes.toList]
  | write peer bytes => exact forward_bind_pure (bus.write peer bytes) fun _ => []
  | writeRead peer bytes count =>
    exact forward_bind_pure (bus.writeRead peer bytes count) fun answer => [answer.toList]
  | transaction peer operations => rfl

theorem run_channel (number : UInt8) (demand : Demand) :
    demand.run (channel bus number) = onChannel bus number (demand.run bus) := by
  cases demand with
  | read peer count =>
    exact onChannel_bind_pure bus number (bus.read peer count) fun bytes => [bytes.toList]
  | write peer bytes => exact onChannel_bind_pure bus number (bus.write peer bytes) fun _ => []
  | writeRead peer bytes count =>
    exact onChannel_bind_pure bus number (bus.writeRead peer bytes count)
      fun answer => [answer.toList]
  | transaction peer operations => rfl

end Transfers

/-! ### One call -/

variable (bus : I2c σ ε)

theorem keeps_forward {α : Type} (transfer : Action σ ε α) (mux : Mux) :
    Keeps (fun state => state.1 = mux) (forward transfer) := by
  refine keeps_iff.mpr fun state same => ?_
  rw [← same, forward_perform]
  split <;> rfl

theorem keeps_writeControl (register : UInt8) (mux : Mux) :
    Keeps (fun state => state.1 = mux) (writeControl bus register) := by
  refine keeps_iff.mpr fun state same => ?_
  rw [← same, writeControl_perform]
  split <;> rfl

theorem keeps_select (channel : UInt8) (mux : Mux) :
    Keeps (fun state => state.1 = mux) (select bus channel) := by
  unfold select
  split
  · exact leads_fail fun _ same => same
  · exact keeps_writeControl bus _ mux

/-- Only a call that finds the switch changes what the driver knows. -/
theorem step_mux (call : Call) (mux : Mux) (line : σ) :
    (step bus call (mux, line)).2.1 =
      ⟨mux.address, mux.initialized || (step bus call (mux, line)).1.finds⟩ := by
  have kept (keeps : Keeps (fun state => state.1 = mux) (call.run (bus.traced id)))
      (other : call ≠ .probe) : (step bus call (mux, line)).2.1 =
        ⟨mux.address, mux.initialized || (step bus call (mux, line)).1.finds⟩ := by
    have stays : (step bus call (mux, line)).2.1 = mux := keeps_iff.mp keeps (mux, (line, [])) rfl
    have unfound : (step bus call (mux, line)).1.finds = false := by
      cases call with
      | probe => exact absurd rfl other
      | _ => rfl
    rw [stays, unfound, Bool.or_false]
  cases call with
  | probe =>
    simp only [step, Call.run, Action.perform_bind, probe_perform]
    generalize ((bus.traced id).read mux.address 1).perform (line, []) = asked
    rcases asked with ⟨error | register, reached⟩
    · show mux = ⟨mux.address, mux.initialized || false⟩
      rw [Bool.or_false]
    · show (⟨mux.address, true⟩ : Mux) = ⟨mux.address, mux.initialized || true⟩
      rw [Bool.or_true]
  | select channel =>
    exact kept (leads_bind _ (keeps_select _ channel mux) fun _ => leads_pure fun _ same => same)
      Call.noConfusion
  | disconnect =>
    exact kept (leads_bind _ (keeps_writeControl _ 0 mux) fun _ => leads_pure fun _ same => same)
      Call.noConfusion
  | through demand =>
    refine kept ?_ Call.noConfusion
    rw [Call.run, run_through]
    exact keeps_forward _ mux
  | onChannel channel demand =>
    refine kept ?_ Call.noConfusion
    rw [Call.run, run_channel]
    exact leads_bind _ (keeps_select _ channel mux) fun _ => keeps_forward _ mux

/-- What a transfer of a channel comes to, given the line before: its outcome, what reaches the
shared bus, and the line after. -/
inductive Passage (bus : I2c σ ε) (address : PeerAddress) (found : Bool) (channel : UInt8)
    (demand : Demand) (line : σ) :
    Except (MuxError ε) (List (List UInt8)) × List Transfer × σ → Prop
  | invalid (beyond : 8 ≤ channel.toNat) :
    Passage bus address found channel demand line (.error (.invalidChannel channel), [], line)
  | unfound (inside : channel.toNat < 8) (missing : found = false) :
    Passage bus address found channel demand line (.error .notInitialized, [], line)
  | unselected {error : ε} {reached : σ} (inside : channel.toNat < 8) (present : found = true)
      (refused : (bus.write address [1 <<< channel]).perform line = (.error error, reached)) :
    Passage bus address found channel demand line
      (.error (.i2c error), [.write address [1 <<< channel] false], reached)
  | passes {outcome : Except ε (List (List UInt8))} {selected reached : σ}
      (inside : channel.toNat < 8) (present : found = true)
      (chosen : (bus.write address [1 <<< channel]).perform line = (.ok (), selected))
      (ran : (demand.run bus).perform selected = (outcome, reached)) :
    Passage bus address found channel demand line
      (outcome.mapError .i2c,
        [.write address [1 <<< channel] true, demand.noted outcome.toOption.isSome], reached)

/-- **A transfer of a channel selects the channel first.** -/
theorem step_passage (channel : UInt8) (demand : Demand) (mux : Mux) (line : σ) :
    Passage bus mux.address mux.initialized channel demand line
      ((step bus (.onChannel channel demand) (mux, line)).1.outcome,
        (step bus (.onChannel channel demand) (mux, line)).1.made,
        (step bus (.onChannel channel demand) (mux, line)).2.2) := by
  simp only [step, Call.run, run_channel, onChannel, Action.perform_bind, select]
  by_cases beyond : channels ≤ channel.toNat
  · rw [if_pos beyond]
    exact .invalid beyond
  · rw [if_neg beyond, writeControl_perform]
    have inside : channel.toNat < 8 := Nat.lt_of_not_le beyond
    cases found : mux.initialized with
    | false => exact .unfound inside rfl
    | true =>
      cases written : (bus.write mux.address [control channel]).perform line with
      | mk outcome selected =>
        have noted : ((bus.traced id).write mux.address [control channel]).perform (line, []) =
            (outcome, (selected, [.write mux.address [control channel] outcome.toOption.isSome])) := by
          simp only [I2c.traced, Action.noted_perform, written, id]
        rw [if_pos rfl, noted]
        cases outcome with
        | error error => exact .unselected inside rfl written
        | ok done =>
          have kept : (Except.ok done).mapError (@MuxError.i2c ε) = .ok done := rfl
          simp only [kept, forward_perform, found, if_true, Demand.run_traced]
          exact .passes inside rfl written rfl

/-- What passes to another peer than the switch finds the register set to the channel alone, by the
transfer just before it. -/
theorem Passage.selected {address : PeerAddress} {found : Bool} {channel : UInt8} {demand : Demand}
    {line reached : σ} {outcome : Except (MuxError ε) (List (List UInt8))} {made : List Transfer}
    (passage : Passage bus address found channel demand line (outcome, made, reached))
    (earlier : List Transfer) {sooner later : List Transfer} {transfer : Transfer}
    (split : made = sooner ++ transfer :: later) (elsewhere : transfer.peer ≠ address) :
    transfer.demand = demand ∧
      (earlier ++ sooner).getLast? = some (.write address [1 <<< channel] true) ∧
      register? address (earlier ++ sooner) = some (1 <<< channel) := by
  have none {β : Type} {items front back : List β} {item : β} (nothing : items = [])
      (place : items = front ++ item :: back) : False := by
    rw [nothing] at place
    exact absurd place.symm (List.append_ne_nil_of_right_ne_nil _ (List.cons_ne_nil _ _))
  cases passage with
  | invalid beyond => exact (none rfl split).elim
  | unfound inside missing => exact (none rfl split).elim
  | unselected inside present refused =>
    cases sooner with
    | nil =>
      obtain ⟨rfl, _⟩ := List.cons.inj split
      exact absurd rfl elsewhere
    | cons first rest => exact (none rfl (List.cons.inj split).2).elim
  | passes inside present chosen ran =>
    cases sooner with
    | nil =>
      obtain ⟨rfl, _⟩ := List.cons.inj split
      exact absurd rfl elsewhere
    | cons first rest =>
      obtain ⟨rfl, second⟩ := List.cons.inj split
      cases rest with
      | nil =>
        obtain ⟨rfl, _⟩ := List.cons.inj second
        refine ⟨Transfer.demand_noted _ demand, List.getLast?_concat, ?_⟩
        simp [register?, Transfer.stored]
      | cons third others => exact (none rfl (List.cons.inj second).2).elim

/-! ### Calls in a row -/

/-- What the driver knows after some calls: whether one of them found the switch. -/
theorem run_mux (calls : List Call) (mux : Mux) (line : σ) :
    (run bus calls (mux, line)).2.1 =
      ⟨mux.address, mux.initialized || (run bus calls (mux, line)).1.any Entry.finds⟩ := by
  induction calls generalizing mux line with
  | nil =>
    show mux = ⟨mux.address, mux.initialized || false⟩
    rw [Bool.or_false]
  | cons call rest ih =>
    have one := step_mux bus call mux line
    generalize stepEq : step bus call (mux, line) = stepped at one
    obtain ⟨entry, next, reached⟩ := stepped
    have others := ih next reached
    simp only [run, stepEq, List.any_cons]
    rw [others, show next = _ from one, Bool.or_assoc]

/-- **Each transfer of a channel runs on that channel.** After any calls of any users of a switch, a
transfer of a channel writes the register first; unless the channel does not exist, the switch has
not been found or that write fails, which is then the outcome, it passes. What passes to a peer
finds the register set to the channel alone, by the transfer just before it. -/
theorem run_selected (address : PeerAddress) (line : σ) (calls : List Call) (channel : UInt8)
    (demand : Demand) :
    let entries := (run bus calls (fresh address, line)).1
    let reached := (run bus calls (fresh address, line)).2
    let entry := (step bus (.onChannel channel demand) reached).1
    let last := (step bus (.onChannel channel demand) reached).2
    Passage bus address (entries.any Entry.finds) channel demand reached.2
        (entry.outcome, entry.made, last.2) ∧
      ∀ sooner transfer later, entry.made = sooner ++ transfer :: later →
        transfer.peer ≠ address →
          transfer.demand = demand ∧
            (traffic entries ++ sooner).getLast? = some (.write address [1 <<< channel] true) ∧
            register? address (traffic entries ++ sooner) = some (1 <<< channel) := by
  intro entries reached entry last
  have known : reached.1 = ⟨address, entries.any Entry.finds⟩ := by
    rw [show reached.1 = _ from run_mux bus calls (fresh address) line]
    exact congrArg (Mux.mk address) (Bool.false_or _)
  have passage : Passage bus reached.1.address reached.1.initialized channel demand reached.2
      (entry.outcome, entry.made, last.2) := step_passage bus channel demand reached.1 reached.2
  rw [congrArg Mux.address known, congrArg Mux.initialized known] at passage
  exact ⟨passage, fun _ _ _ => passage.selected bus (traffic entries)⟩

end WireBridge.Mux
