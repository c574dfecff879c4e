/-
**Selecting a voltage input disturbs nothing else.**

A battery monitor converts one of two inputs. To select one its driver reads all registers, changes
one bit, and writes them all back.

* `Sim.Registers.sampling`: what is said to a device with some registers;
* `Sim.Registers.Sampled`: what the registers are afterwards;
* `Sim.tells_voltage`, `Sim.tells_monitorTemperature`: what drivers read of registers;
* `Sim.sampleVoltage_replaces`: **a voltage conversion** changes the input, the voltage register and
  the count of conversions, and nothing else on the line.
-/

import WireBridge.Proofs.Device.Replacing
import WireBridge.Proofs.Device.Telling
import WireBridge.Proofs.Device.Temperature

namespace WireBridge.Sim

open WireBridge.Action (Leads)
open BusCall (Dialogue)
open Master.Notes (Says)

variable {ε : Type} {celsius vad vdd : Float32} {registers : Registers} {device : Device}

/-! ### Registers -/

namespace Registers

/-- What is said to a battery monitor with some registers for the conversion of an input: they are
read, and written and stored only if the other input is selected. Then the voltage is converted. -/
def sampling (registers : Registers) (supply : Bool) : List Exchange :=
  BatteryMonitor.asked (scratchpadOf registers) ++
    (if registers.config.supply = supply then []
    else BatteryMonitor.told (registers.toList.set 0 (registers.config.withSupply supply).bits)) ++
    [⟨[0xb4], []⟩]

/-- The registers of a battery monitor after the conversion of an input with some voltage. -/
structure Sampled (registers : Registers) (supply : Bool) (voltage : Float32)
    (after : Registers) : Prop where
  config : ∀ bit < 8, after.config.bits.toNat.testBit bit =
    if bit = 3 then supply else registers.config.bits.toNat.testBit bit
  voltage : after.word 3 = hundredths voltage &&& 0x03ff
  others : ∀ place : Fin 8, place ∉ [0, 3, 4] → after.get place = registers.get place

/-- One bit of the configuration register selects the input. -/
theorem testBit_withSupply (config : MonitorConfig) (supply : Bool) {bit : Nat} (inside : bit < 8) :
    (config.withSupply supply).bits.toNat.testBit bit =
      if bit = 3 then supply else config.bits.toNat.testBit bit := by
  have table : ∀ (bits : Fin 256) (supply : Bool) (bit : Fin 8),
      ((MonitorConfig.mk (.ofFin bits)).withSupply supply).bits.toNat.testBit bit =
        if bit.val = 3 then supply else bits.val.testBit bit := by
    decide +kernel
  exact table config.bits.toFin supply ⟨bit, inside⟩

theorem sampled_storeWord (registers : Registers) (supply : Bool) (voltage : Float32) :
    registers.Sampled supply voltage
      (storeWord (Line.storeRegister registers 0 (registers.config.withSupply supply).bits) 3
        (hundredths voltage &&& 0x03ff)) := by
  have kept (registers : Registers) (word : UInt16) (place : Fin 8) (low : 3 ≠ place.val)
      (high : 4 ≠ place.val) : (storeWord registers 3 word).get place = registers.get place := by
    show ((registers.set 3 (Word.low word)).set 4 (Word.high word))[place.val] =
      registers[place.val]
    rw [Vector.getElem_set_ne _ _ high, Vector.getElem_set_ne _ _ low]
  refine ⟨fun bit inside => ?_, word_storeWord _ _, fun place other => ?_⟩
  · have selects : (storeWord (Line.storeRegister registers 0
        (registers.config.withSupply supply).bits) 3 (hundredths voltage &&& 0x03ff)).config =
          registers.config.withSupply supply :=
      (congrArg MonitorConfig.mk (kept _ _ 0 (by decide) (by decide))).trans
        (registers.config_storeRegister_zero _)
    rw [selects]
    exact testBit_withSupply registers.config supply inside
  · have apart : ∀ place : Fin 8, place ∉ [0, 3, 4] →
        0 ≠ place.val ∧ 3 ≠ place.val ∧ 4 ≠ place.val := by decide
    obtain ⟨config, low, high⟩ := apart place other
    rw [kept _ _ place low high]
    exact Vector.getElem_setIfInBounds_ne place.isLt config

end Registers

/-- **The device after a voltage conversion.** -/
theorem Device.convertVoltage_selectInput
    (model : device.model = .batteryMonitor celsius vad vdd registers) (supply : Bool) :
    ∃ shown, (device.selectInput supply).convertVoltage =
        { device with
          model := .batteryMonitor celsius vad vdd shown
          conversions := device.conversions + 1 } ∧
      registers.Sampled supply (if supply then vdd else vad) shown := by
  refine ⟨_, ?_, registers.sampled_storeWord supply _⟩
  have selects := registers.config_storeRegister_zero (registers.config.withSupply supply).bits
  rw [selectInput_eq model, convertVoltage]
  dsimp only
  rw [selects, MonitorConfig.supply_withSupply]

/-! ### What is read -/

theorem decodeHundredths_scratchpadOf (registers : Registers) :
    BatteryMonitor.decodeHundredths (scratchpadOf registers) = registers.word 3 &&& 0x03ff := by
  unfold BatteryMonitor.decodeHundredths
  rw [Word.join_and, getElem_scratchpadOf registers (show 3 < 8 by decide),
    getElem_scratchpadOf registers (show 4 < 8 by decide)]
  rfl

section Reading

variable {line : Line} {code : Address} (found : line.find? code = some device)
  (intact : device.corrupt = false)
  (model : device.model = .batteryMonitor celsius vad vdd registers)

include found intact model

theorem tells_monitorTemperature :
    line.Tells (BatteryMonitor.temperature (watched : Master (Line × List BusCall) ε))
      (·.address = code) (BatteryMonitor.decodeTemperature (scratchpadOf registers)) := by
  refine Line.tells_of_leads found intact ?_
  rintro driver rfl
  exact (watched_drives.leads_monitorTemperature model).mono (fun _ _ there => there.1)
    fun _ there => there.2

theorem tells_voltage :
    line.Tells (BatteryMonitor.voltage (watched : Master (Line × List BusCall) ε))
      (·.address = code) (BatteryMonitor.volts (registers.word 3 &&& 0x03ff)) := by
  refine Line.tells_of_leads found intact ?_
  rintro driver rfl
  refine Action.leads_bind (fun raw _ => raw = registers.word 3 &&& 0x03ff)
    (Action.leads_bind _ ((watched_drives.leads_monitorRefresh model).mono
      (fun _ _ there => there.1) fun _ there => there.2) fun _ => ?_) fun _ => ?_
  · refine Action.leads_current_bind ?_
    rintro ⟨_, reached⟩ rfl
    exact Action.leads_pure fun _ _ => decodeHundredths_scratchpadOf registers
  · exact Action.leads_pure fun _ same => same ▸ rfl

end Reading

/-! ### Voltage conversions -/

/-- What is said to a battery monitor while it is sampled. -/
theorem says_sampling {driver : BatteryMonitor}
    (model : device.model = .batteryMonitor celsius vad vdd registers) (supply : Bool)
    (earlier : List BusCall) :
    Leads
      (fun state : BatteryMonitor × (Line × List BusCall) =>
        (state.1 = driver ∧ state.2.1.Has driver.address (· = device)) ∧ state.1 = driver ∧
          Says Prod.snd id earlier driver.address [] state.2)
      (BatteryMonitor.sampleVoltage (watched : Master (Line × List BusCall) ε) supply)
      (fun _ state => state.1.address = driver.address ∧
        Says Prod.snd id earlier driver.address (registers.sampling supply) state.2)
      fun _ => True := by
  have drives : Drives (watched : Master (Line × List BusCall) ε) Prod.fst := watched_drives
  have shown : (scratchpadOf registers)[0] = registers[0] :=
    getElem_scratchpadOf registers (show 0 < 8 by decide)
  have whole : (scratchpadOf registers).toList.take 8 = registers.toList := by
    rw [toList_scratchpadOf, List.take_left' Vector.length_toList]
  have sampling : registers.sampling supply = [] ++ BatteryMonitor.asked (scratchpadOf registers) ++
      (if (MonitorConfig.mk (scratchpadOf registers)[0]).supply = supply then []
      else BatteryMonitor.told (((scratchpadOf registers).toList.take 8).set 0
        ((MonitorConfig.mk (scratchpadOf registers)[0]).withSupply supply).bits)) ++
      [⟨[0xb4], []⟩] := by
    rw [shown, whole]
    rfl
  rw [sampling]
  exact BatteryMonitor.says_sampleVoltage (Master.notes_traced id master) supply
    ((drives.leads_monitorRefresh model).mono (fun _ _ there => there.1) fun _ _ => trivial)

/-- **A voltage conversion disturbs nothing else.** The driver of a battery monitor that sends no
flipped bits yields. Then the input is selected and its voltage converted, all other registers and
devices are as they were, and the registers were written only if the other input was selected. The
voltage that is read is the one that was stored, and the temperature is the same as before. -/
theorem sampleVoltage_replaces {line : Line} {driver : BatteryMonitor}
    (found : line.find? driver.address = some device) (intact : device.corrupt = false)
    (model : device.model = .batteryMonitor celsius vad vdd registers) (supply : Bool)
    (earlier : List BusCall) :
    ∃ sampled reached calls shown temperature,
      (BatteryMonitor.sampleVoltage (watched : Master (Line × List BusCall) ε) supply).perform
          (driver, (line, earlier)) = (.ok (), (sampled, (reached, calls.reverse ++ earlier))) ∧
      Dialogue driver.address (registers.sampling supply) calls ∧
      line.Replaces driver.address
        { device with
          model := .batteryMonitor celsius vad vdd shown
          conversions := device.conversions + 1 } reached ∧
      registers.Sampled supply (if supply then vdd else vad) shown ∧
      reached.Tells (BatteryMonitor.voltage (watched : Master (Line × List BusCall) ε))
        (·.address = driver.address) (BatteryMonitor.volts (shown.word 3)) ∧
      line.Tells (BatteryMonitor.temperature (watched : Master (Line × List BusCall) ε))
        (·.address = driver.address) temperature ∧
      reached.Tells (BatteryMonitor.temperature (watched : Master (Line × List BusCall) ε))
        (·.address = driver.address) temperature := by
  have drives : Drives (watched : Master (Line × List BusCall) ε) Prod.fst := watched_drives
  obtain ⟨shown, changed, samples⟩ := Device.convertVoltage_selectInput model supply
  let start : BatteryMonitor × (Line × List BusCall) := (driver, (line, earlier))
  have own := (drives.leads_ownSampleVoltage model supply).of_imp
    (Line.starts found driver earlier)
  rw [changed] at own
  obtain ⟨_, ⟨sampled, reached, _⟩, calls, ran, _, rfl, dialogue, replaces⟩ :=
    Line.performs_replaces Prod.snd start
      (own.mono (fun _ _ there => there) fun _ failed => Bool.eq_false_iff.mp intact failed.2)
      ((says_sampling model supply earlier).of_imp
        (Line.starts_silent found driver earlier))
      (((drives.spares line).keeps_sampleVoltage supply).of_imp fun state same =>
        same ▸ .of_devices rfl)
      fun other device different there =>
        (drives.keeps_otherSampleVoltage supply).of_imp fun state same => same ▸ ⟨different, there⟩
  have stored : shown.word 3 &&& 0x03ff = shown.word 3 := by
    rw [samples.voltage, UInt16.and_assoc]
    rfl
  have celsius : shown.word 1 = registers.word 1 := by
    show Word.join (shown.get 1) (shown.get 2) = Word.join (registers.get 1) (registers.get 2)
    rw [samples.others 1 (by decide), samples.others 2 (by decide)]
  refine ⟨sampled, reached, calls, shown, _, ran, dialogue, replaces, samples, ?_,
    tells_monitorTemperature found intact model, ?_⟩
  · rw [← stored]
    exact tells_voltage replaces.own intact rfl
  · have decodes : BatteryMonitor.decodeTemperature (scratchpadOf registers) =
        BatteryMonitor.decodeTemperature (scratchpadOf shown) := by
      rw [Device.decodeTemperature_scratchpadOf, Device.decodeTemperature_scratchpadOf, celsius]
    rw [decodes]
    exact tells_monitorTemperature replaces.own intact rfl

/-- At power-on the supply is selected. The other input is converted next to a thermometer. -/
theorem sampleVoltage_replaces_powerOn :
    let thermometer := Device.fresh ⟨0x28⟩ (.thermometer 20.0 thermometerPowerOn)
    let monitor := Device.fresh ⟨0x26⟩ (.batteryMonitor 21.5 1.25 5.0 monitorPowerOn)
    let line : Line := { Line.empty with devices := [thermometer, monitor] }
    ∃ sampled reached calls shown,
      (BatteryMonitor.sampleVoltage (watched : Master (Line × List BusCall) Empty) false).perform
          (.unread ⟨0x26⟩, (line, [])) = (.ok (), (sampled, (reached, calls))) ∧
        (monitorPowerOn.sampling false)[2]? = some ⟨[0x4e, 0, 0x07, 0, 0, 0, 0, 0, 0, 0], []⟩ ∧
        Dialogue ⟨0x26⟩ (monitorPowerOn.sampling false) calls.reverse ∧
        reached.devices = [thermometer,
          ⟨⟨0x26⟩, .batteryMonitor 21.5 1.25 5.0 shown, false, 1⟩] := by
  intro thermometer monitor line
  obtain ⟨sampled, reached, calls, shown, _, ran, dialogue, replaces, _⟩ :=
    @sampleVoltage_replaces Empty 21.5 1.25 5.0 monitorPowerOn monitor line (.unread ⟨0x26⟩) rfl rfl
      rfl false []
  rw [List.append_nil] at ran
  refine ⟨sampled, reached, calls.reverse, shown, ran, by decide +kernel, ?_,
    replaces.devices_eq (by decide)⟩
  rw [List.reverse_reverse]
  exact dialogue

end WireBridge.Sim
