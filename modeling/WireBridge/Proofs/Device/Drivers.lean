/-
**Drivers change only what they have read.**

* `Driver.Fits`, `Driver.Of`: a driver is that of a code, as its family says;
* `Device.unread`: a device with its driver as it was before it read anything;
* `Device.leads_sample`, `Device.leads_read`: what the phases of a read do to a line is what the
  driver does to it;
* `Device.Blind`: a condition on devices that does not depend on what their drivers have read. No
  action changes it, on any line (`Device.Blind.keeps_setUp` and the like).
-/

import WireBridge.Device.Basic
import WireBridge.Proofs.Action

namespace WireBridge

open WireBridge.Action (Leads Keeps)

variable {σ ε α : Type} {master : Master σ ε} {code : Address}

/-- The voltage input that a quantity is about, true for the supply. -/
def Quantity.supply? : Quantity → Option Bool
  | .vad => some false
  | .vdd => some true
  | _ => none

/-- The driver is that of a device with a code. -/
def Driver.Fits (code : Address) : Driver → Prop
  | .presenceOnly address => address = code
  | .thermometer driver => driver.address = code ∧ code.family = Family.thermometer
  | .batteryMonitor driver => driver.address = code ∧ code.family = Family.batteryMonitor

theorem Driver.fits_ofAddress (code : Address) : (Driver.ofAddress code).Fits code := by
  unfold Driver.ofAddress
  split
  · next family => exact ⟨rfl, family⟩
  · split
    · next family => exact ⟨rfl, family⟩
    · exact rfl

theorem Driver.Fits.address_eq {driver : Driver} (fits : driver.Fits code) :
    driver.address = code := by
  cases driver with
  | presenceOnly address => exact fits
  | thermometer driver => exact fits.1
  | batteryMonitor driver => exact fits.1

/-- The driver as it was before it read its device. -/
def Driver.forget : Driver → Driver
  | .presenceOnly address => .presenceOnly address
  | .thermometer driver => .thermometer (.unread driver.address driver.resolution)
  | .batteryMonitor driver => .batteryMonitor (.unread driver.address)

theorem Driver.forget_ofAddress (code : Address) : (ofAddress code).forget = ofAddress code := by
  unfold ofAddress
  split
  · rfl
  · split <;> rfl

/-- The device with its driver as it was before it read anything. -/
def Device.unread (device : Device) : Device := ⟨device.channel, device.driver.forget⟩

theorem Device.unread_ofAddress (channel : ChannelId) (code : Address) :
    (ofAddress channel code).unread = ofAddress channel code := by
  unfold unread ofAddress
  rw [Driver.forget_ofAddress]

/-- A driver that was made for a code is that of the code. -/
theorem Driver.fits_of_forget {driver : Driver} (made : driver.forget = ofAddress code) :
    driver.Fits code := by
  have fits := fits_ofAddress code
  rw [← made] at fits
  cases driver with
  | presenceOnly address => exact fits
  | thermometer driver => exact fits
  | batteryMonitor driver => exact fits

/-- Thermometers are asked for their full resolution. -/
theorem Driver.resolution_of_forget {driver : Thermometer}
    (made : (Driver.thermometer driver).forget = ofAddress code) : driver.resolution = .twelve := by
  unfold ofAddress at made
  split at made
  · exact congrArg Thermometer.resolution (Driver.thermometer.inj made)
  · split at made
    · exact absurd made Driver.noConfusion
    · exact absurd made Driver.noConfusion

/-- The driver of a device with a code, of the kind that its family says. -/
inductive Driver.Of (code : Address) : Driver → Prop
  | thermometer {driver : Thermometer} (family : code.family = Family.thermometer)
      (address : driver.address = code) : Of code (.thermometer driver)
  | batteryMonitor {driver : BatteryMonitor} (family : code.family = Family.batteryMonitor)
      (address : driver.address = code) : Of code (.batteryMonitor driver)
  | presenceOnly (notThermometer : code.family ≠ Family.thermometer)
      (notMonitor : code.family ≠ Family.batteryMonitor) : Of code (.presenceOnly code)

/-- A driver that was made for a code is of the kind that its family says. -/
theorem Driver.of_forget {driver : Driver}
    (made : driver.forget = ofAddress code) : driver.Of code := by
  have fits := fits_of_forget made
  cases driver with
  | thermometer driver => exact .thermometer fits.2 fits.1
  | batteryMonitor driver => exact .batteryMonitor fits.2 fits.1
  | presenceOnly address =>
    obtain rfl : address = code := fits
    unfold ofAddress at made
    split at made
    · exact absurd made Driver.noConfusion
    · next notThermometer =>
      split at made
      · exact absurd made Driver.noConfusion
      · next notMonitor => exact .presenceOnly notThermometer notMonitor

/-- Nothing is measured without a driver that reads. -/
theorem Driver.quantities_eq_nil {address : Address}
    (made : (Driver.presenceOnly address).forget = ofAddress code) :
    Family.quantities code.family = [] := by
  cases of_forget made with
  | presenceOnly notThermometer notMonitor =>
    rw [Family.quantities, if_neg notThermometer, if_neg notMonitor]

/-- **Starting the conversions of a family** is one conversion for all devices of a line. -/
theorem Device.leads_sampleFamily {before after failed : σ → Prop}
    (converts : Leads before
      (do
        master.select none
        master.writeByte FunctionCommand.convertTemperature.code)
      (fun _ => after) failed)
    (refused : ∀ state, before state → failed state) (family : FamilyCode) :
    Leads before (sampleFamily master family) (fun _ => after) failed := by
  unfold sampleFamily
  split
  · exact Action.leads_bind _ converts fun _ => Action.leads_pure fun _ here => here
  · split
    · exact Action.leads_bind _ converts fun _ => Action.leads_pure fun _ here => here
    · exact Action.leads_fail refused

/-! ### Thermometers -/

namespace Thermometer

/-- A condition does not depend on the scratchpad that was read last. -/
def Blind (kept : Thermometer → Prop) : Prop :=
  ∀ driver scratchpad, kept driver → kept { driver with scratchpad := scratchpad }

variable {kept : Thermometer → Prop} (blind : Blind kept)

include blind

theorem Blind.keeps_refresh :
    Keeps (fun state : Thermometer × σ => kept state.1) (refresh master) := by
  refine Action.leads_current_bind fun state here => ?_
  refine Action.leads_bind (fun _ state => kept state.1) ?_ fun scratchpad => ?_
  · exact (Action.keeps_first kept).of_imp fun _ same => same ▸ here
  · exact Action.leads_update fun state here => blind state.1 scratchpad here

theorem Blind.keeps_setUp :
    Keeps (fun state : Thermometer × σ => kept state.1) (setUp master) := by
  refine Action.leads_current_bind fun state here => ?_
  dsimp only
  split
  · exact Action.leads_fail fun _ same => same ▸ here
  · refine Action.leads_bind _ (blind.keeps_refresh.of_imp fun _ same => same ▸ here) fun _ => ?_
    refine Action.leads_current_bind fun current still => ?_
    split
    · exact Action.leads_pure fun _ same => same ▸ still
    · refine Action.leads_bind (fun _ state => kept state.1)
        (Action.leads_update fun _ _ => blind current.1 _ still) fun _ => ?_
      exact Action.keeps_first kept

theorem Blind.keeps_temperature :
    Keeps (fun state : Thermometer × σ => kept state.1) (temperature master) := by
  refine Action.leads_bind _ blind.keeps_refresh fun _ => ?_
  exact Action.leads_current_bind fun _ here => Action.leads_pure fun _ same => same ▸ here

end Thermometer

/-! ### Battery monitors -/

namespace BatteryMonitor

/-- A condition does not depend on the page that was read last. -/
def Blind (kept : BatteryMonitor → Prop) : Prop :=
  ∀ driver page, kept driver → kept { driver with page := page }

variable {kept : BatteryMonitor → Prop} (blind : Blind kept)

include blind

theorem Blind.keeps_refresh :
    Keeps (fun state : BatteryMonitor × σ => kept state.1) (refresh master) := by
  refine Action.leads_current_bind fun state here => ?_
  refine Action.leads_bind (fun _ state => kept state.1) ?_ fun page => ?_
  · exact (Action.keeps_first kept).of_imp fun _ same => same ▸ here
  · exact Action.leads_update fun state here => blind state.1 page here

theorem Blind.keeps_setUp :
    Keeps (fun state : BatteryMonitor × σ => kept state.1) (setUp master) := by
  refine Action.leads_current_bind fun state here => ?_
  dsimp only
  split
  · exact Action.leads_fail fun _ same => same ▸ here
  · exact blind.keeps_refresh.of_imp fun _ same => same ▸ here

theorem Blind.keeps_sampleVoltage (supply : Bool) :
    Keeps (fun state : BatteryMonitor × σ => kept state.1) (sampleVoltage master supply) := by
  refine Action.leads_bind _ blind.keeps_refresh fun _ => ?_
  refine Action.leads_current_bind fun current here => ?_
  dsimp only
  split
  · refine Action.leads_bind (fun _ state => kept state.1)
      (Action.leads_update fun _ _ => blind current.1 _ here) fun _ => ?_
    exact Action.leads_bind _ (Action.keeps_first kept) fun _ => Action.keeps_first kept
  · exact (Action.keeps_first kept).of_imp fun _ same => same ▸ here

theorem Blind.keeps_temperature :
    Keeps (fun state : BatteryMonitor × σ => kept state.1) (temperature master) := by
  refine Action.leads_bind _ blind.keeps_refresh fun _ => ?_
  exact Action.leads_current_bind fun _ here => Action.leads_pure fun _ same => same ▸ here

theorem Blind.keeps_voltage :
    Keeps (fun state : BatteryMonitor × σ => kept state.1) (voltage master) := by
  have reads : Keeps (fun state : BatteryMonitor × σ => kept state.1) (hundredths master) := by
    refine Action.leads_bind _ blind.keeps_refresh fun _ => ?_
    exact Action.leads_current_bind fun _ here => Action.leads_pure fun _ same => same ▸ here
  exact Action.leads_bind _ reads fun _ => Action.leads_pure fun _ here => here

end BatteryMonitor

/-! ### Devices -/

namespace Device

/-- An action of a driver is one of its device. -/
theorem leads_withDriver {δ : Type} {channel : ChannelId} {driver : δ} {store : δ → Driver}
    {action : Action (δ × σ) (BusError ε) α} {inner : δ × σ → Prop} {before : Device × σ → Prop}
    {after : α → Device × σ → Prop} {failed : Device × σ → Prop}
    (start : ∀ state, before state → inner (driver, state.2))
    (leads : Leads inner action (fun value state => after value (⟨channel, store state.1⟩, state.2))
      fun state => failed (⟨channel, store state.1⟩, state.2)) :
    Leads before (withDriver channel driver store action) after failed := by
  intro state holds
  have there := leads (driver, state.2) (start state holds)
  unfold withDriver
  rw [Action.perform_ofStep]
  dsimp only
  generalize action.perform (driver, state.2) = performed at there ⊢
  rcases performed with ⟨error | value, changed, reached⟩
  · exact there
  · exact there

variable {before failed : Device × σ → Prop} {quantity : Quantity}

/-- **Starting a conversion** is one of the temperature, or one of a voltage by a battery
monitor. -/
theorem leads_sample {after : Device × σ → Prop}
    (refused : ∀ state, before state → failed state)
    (temperature : quantity = .temperature → ∀ device here, before (device, here) →
      Leads (· = here)
        (do
          master.select (some device.address)
          master.writeByte FunctionCommand.convertTemperature.code)
        (fun _ reached => after (device, reached)) fun reached => failed (device, reached))
    (voltage : ∀ supply, quantity.supply? = some supply → ∀ channel driver here,
      before (⟨channel, .batteryMonitor driver⟩, here) →
        Leads (· = (driver, here)) (BatteryMonitor.sampleVoltage master supply)
          (fun _ reached => after (⟨channel, .batteryMonitor reached.1⟩, reached.2))
          fun reached => failed (⟨channel, .batteryMonitor reached.1⟩, reached.2)) :
    Leads before (sample master quantity) (fun _ => after) failed := by
  refine Action.leads_current_bind ?_
  rintro ⟨⟨channel, driver⟩, here⟩ start
  have stopped : ∀ state, state = ((⟨channel, driver⟩ : Device), here) → failed state := by
    rintro _ rfl
    exact refused _ start
  have waits : ∀ {action : Action (Device × σ) (BusError ε) Unit} (wait : Nat),
      Leads (· = ((⟨channel, driver⟩ : Device), here)) action (fun _ => after) failed →
      Leads (· = ((⟨channel, driver⟩ : Device), here)) (action >>= fun _ => pure wait)
        (fun _ => after) failed := fun wait leads =>
    Action.leads_bind _ leads fun _ => Action.leads_pure fun _ done => done
  have warms (asked : quantity = .temperature) :
      Leads (· = ((⟨channel, driver⟩ : Device), here))
        (Action.onSecond do
          master.select (some driver.address)
          master.writeByte FunctionCommand.convertTemperature.code)
        (fun _ => after) failed := by
    refine ((Action.leads_onSecond (· = (⟨channel, driver⟩ : Device))
      (temperature asked _ here start)).mono ?_ ?_).of_imp ?_
    · rintro _ ⟨_, reached⟩ ⟨rfl, done⟩
      exact done
    · rintro ⟨_, reached⟩ ⟨rfl, done⟩
      exact done
    · rintro _ rfl
      exact ⟨rfl, rfl⟩
  cases driver with
  | presenceOnly address => exact Action.leads_fail stopped
  | thermometer driver =>
    cases quantity with
    | temperature => exact waits _ (warms rfl)
    | _ => exact Action.leads_fail stopped
  | batteryMonitor driver =>
    have same : ∀ state, state = ((⟨channel, .batteryMonitor driver⟩ : Device), here) →
        (driver, state.2) = (driver, here) := by
      rintro _ rfl
      rfl
    cases quantity with
    | presence => exact Action.leads_fail stopped
    | temperature => exact waits _ (warms rfl)
    | vad => exact waits _ (leads_withDriver same (voltage false rfl _ _ _ start))
    | vdd => exact waits _ (leads_withDriver same (voltage true rfl _ _ _ start))

/-- **Reading a result** is reading the temperature, or the voltage of a battery monitor. -/
theorem leads_read {after : Float32 → Device × σ → Prop}
    (refused : ∀ state, before state → failed state)
    (thermometer : quantity = .temperature → ∀ channel driver here,
      before (⟨channel, .thermometer driver⟩, here) →
        Leads (· = (driver, here)) (Thermometer.temperature master)
          (fun value reached => after value.celsius (⟨channel, .thermometer reached.1⟩, reached.2))
          fun reached => failed (⟨channel, .thermometer reached.1⟩, reached.2))
    (monitor : quantity = .temperature → ∀ channel driver here,
      before (⟨channel, .batteryMonitor driver⟩, here) →
        Leads (· = (driver, here)) (BatteryMonitor.temperature master)
          (fun value reached =>
            after value.celsius (⟨channel, .batteryMonitor reached.1⟩, reached.2))
          fun reached => failed (⟨channel, .batteryMonitor reached.1⟩, reached.2))
    (voltage : quantity.supply? ≠ none → ∀ channel driver here,
      before (⟨channel, .batteryMonitor driver⟩, here) →
        Leads (· = (driver, here)) (BatteryMonitor.voltage master)
          (fun value reached => after value (⟨channel, .batteryMonitor reached.1⟩, reached.2))
          fun reached => failed (⟨channel, .batteryMonitor reached.1⟩, reached.2)) :
    Leads before (read master quantity) after failed := by
  refine Action.leads_current_bind ?_
  rintro ⟨⟨channel, driver⟩, here⟩ start
  have stopped : ∀ state, state = ((⟨channel, driver⟩ : Device), here) → failed state := by
    rintro _ rfl
    exact refused _ start
  have same {δ : Type} (own : δ) : ∀ state, state = ((⟨channel, driver⟩ : Device), here) →
      (own, state.2) = (own, here) := by
    rintro _ rfl
    rfl
  have degrees : ∀ {action : Action (Device × σ) (BusError ε) Temperature},
      Leads (· = ((⟨channel, driver⟩ : Device), here)) action (fun value => after value.celsius)
        failed →
      Leads (· = ((⟨channel, driver⟩ : Device), here))
        (action >>= fun value => pure value.celsius) after failed := fun leads =>
    Action.leads_bind _ leads fun _ => Action.leads_pure fun _ done => done
  cases driver with
  | presenceOnly address => exact Action.leads_fail stopped
  | thermometer driver =>
    cases quantity with
    | temperature => exact degrees (leads_withDriver (same _) (thermometer rfl _ _ _ start))
    | _ => exact Action.leads_fail stopped
  | batteryMonitor driver =>
    cases quantity with
    | presence => exact Action.leads_fail stopped
    | temperature => exact degrees (leads_withDriver (same _) (monitor rfl _ _ _ start))
    | vad => exact leads_withDriver (same _) (voltage (Option.some_ne_none _) _ _ _ start)
    | vdd => exact leads_withDriver (same _) (voltage (Option.some_ne_none _) _ _ _ start)

/-- A condition on devices does not depend on what their drivers read last. -/
structure Blind (kept : Device → Prop) : Prop where
  thermometer : ∀ channel, Thermometer.Blind fun driver => kept ⟨channel, .thermometer driver⟩
  batteryMonitor : ∀ channel,
    BatteryMonitor.Blind fun driver => kept ⟨channel, .batteryMonitor driver⟩

theorem blind_fits (code : Address) : Blind fun device => device.driver.Fits code :=
  ⟨fun _ _ _ fits => fits, fun _ _ _ fits => fits⟩

theorem blind_unread (start : Device) : Blind fun device => device.unread = start :=
  ⟨fun _ _ _ same => same, fun _ _ _ same => same⟩

variable {kept : Device → Prop}

theorem keeps_withDriver {δ : Type} {channel : ChannelId} {driver : δ} {store : δ → Driver}
    {action : Action (δ × σ) (BusError ε) α} {before : Device × σ → Prop}
    (here : kept ⟨channel, store driver⟩)
    (keeps : Keeps (fun state : δ × σ => kept ⟨channel, store state.1⟩) action) :
    Leads before (withDriver channel driver store action) (fun _ state => kept state.1)
      fun state => kept state.1 :=
  leads_withDriver (fun _ _ => here) keeps

variable (blind : Blind kept)

include blind

theorem Blind.keeps_setUp :
    Keeps (fun state : Device × σ => kept state.1) (setUp master) := by
  refine Action.leads_current_bind ?_
  rintro ⟨⟨channel, driver⟩, line⟩ here
  cases driver with
  | presenceOnly address => exact Action.leads_pure fun _ same => same ▸ here
  | thermometer driver =>
    exact keeps_withDriver here (blind.thermometer channel).keeps_setUp
  | batteryMonitor driver =>
    exact keeps_withDriver here (blind.batteryMonitor channel).keeps_setUp

theorem Blind.keeps_sample (quantity : Quantity) :
    Keeps (fun state : Device × σ => kept state.1) (sample master quantity) :=
  leads_sample (fun _ here => here)
    (fun _ _ _ here => (Action.keeps_iff.mpr fun _ still => still).of_imp fun _ _ => here)
    fun supply _ channel _ _ here =>
      ((blind.batteryMonitor channel).keeps_sampleVoltage supply).of_imp fun _ same => same ▸ here

theorem Blind.keeps_read (quantity : Quantity) :
    Keeps (fun state : Device × σ => kept state.1) (read master quantity) :=
  leads_read (fun _ here => here)
    (fun _ channel _ _ here =>
      (blind.thermometer channel).keeps_temperature.of_imp fun _ same => same ▸ here)
    (fun _ channel _ _ here =>
      (blind.batteryMonitor channel).keeps_temperature.of_imp fun _ same => same ▸ here)
    fun _ channel _ _ here =>
      (blind.batteryMonitor channel).keeps_voltage.of_imp fun _ same => same ▸ here

omit blind

/-! What the actions of a device read does not change what it is. -/

variable (master)

theorem unread_setUp (state : Device × σ) :
    ((setUp master).perform state).2.1.unread = state.1.unread :=
  Action.keeps_iff.mp (blind_unread state.1.unread).keeps_setUp state rfl

/-- A new device stays that of its code, whatever its driver reads. -/
theorem unread_setUp_ofAddress (channel : ChannelId) (code : Address) (line : σ) :
    ((setUp master).perform (ofAddress channel code, line)).2.1.unread = ofAddress channel code :=
  (unread_setUp master _).trans (unread_ofAddress channel code)

theorem unread_sample (quantity : Quantity) (state : Device × σ) :
    ((sample master quantity).perform state).2.1.unread = state.1.unread :=
  Action.keeps_iff.mp ((blind_unread state.1.unread).keeps_sample quantity) state rfl

theorem unread_read (quantity : Quantity) (state : Device × σ) :
    ((read master quantity).perform state).2.1.unread = state.1.unread :=
  Action.keeps_iff.mp ((blind_unread state.1.unread).keeps_read quantity) state rfl

end Device

end WireBridge
