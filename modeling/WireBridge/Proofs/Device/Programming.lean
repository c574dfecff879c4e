/-
**Programming a resolution changes nothing else.**

A thermometer measures with one of four resolutions, which is in one of its registers. To change it
its driver reads all registers and writes three of them.

* `Sim.Registers.programming`: what is said to a thermometer with some registers;
* `Sim.setUp_replaces`: the device after its driver was set up;
* `Sim.sample_replaces`: the device after a conversion;
* `Sim.resolutionMask_code`: a driver and its device agree about the bits that a resolution defines;
* `Sim.setUp_programs`: **a driver that is set up** programs its resolution and nothing else, once,
  and then reads what its device measures.
-/

import WireBridge.Proofs.Device.Replacing
import WireBridge.Proofs.Device.Telling
import WireBridge.Proofs.Device.Temperature

namespace WireBridge.Sim

open WireBridge.Action (Leads)
open BusCall (Dialogue)
open Master.Notes (Says)

variable {ε : Type} {celsius : Float32} {registers : Registers} {device : Device} {line : Line}

/-- The registers of a thermometer with a resolution: all others are as they were. -/
abbrev Registers.programmed (registers : Registers) (resolution : Resolution) : Registers :=
  Line.storeRegister registers 4 resolution.code

/-- The resolution that is programmed last counts. -/
theorem Registers.programmed_programmed (registers : Registers) (first last : Resolution) :
    (registers.programmed first).programmed last = registers.programmed last :=
  Vector.setIfInBounds_setIfInBounds _

theorem Device.configure_code (model : device.model = .thermometer celsius registers)
    (resolution : Resolution) :
    device.configure resolution.code =
      { device with model := .thermometer celsius (registers.programmed resolution) } :=
  configure_eq model resolution.code

/-- What is said to a thermometer with some registers to program a resolution: they are read, and
those from the alarms to the configuration are written and stored only if they have another one. -/
def Registers.programming (registers : Registers) (resolution : Resolution) : List Exchange :=
  Thermometer.asked (scratchpadOf registers) ++
    if registers.resolution = resolution.code then []
    else Thermometer.told (((registers.programmed resolution).toList.drop 2).take 3)

/-- The alarms are written as they are. -/
theorem Registers.take_programmed (registers : Registers) (resolution : Resolution) :
    ((registers.programmed resolution).toList.drop 2).take 3 =
      [registers.get 2, registers.get 3, resolution.code] := by
  obtain ⟨⟨bytes⟩, length⟩ := registers
  match bytes, length with
  | [_, _, _, _, _, _, _, _], _ => rfl

/-- Registers with a resolution do not get it again. -/
theorem Registers.programming_programmed (registers : Registers) (resolution : Resolution) :
    Registers.programming (registers.programmed resolution) resolution =
      Thermometer.asked (scratchpadOf (registers.programmed resolution)) := by
  rw [programming, if_pos (resolution_storeRegister registers _), List.append_nil]

/-! ### Setting up -/

theorem says_programming {driver : Thermometer}
    (family : driver.address.family = Family.thermometer)
    (model : device.model = .thermometer celsius registers) (earlier : List BusCall) :
    Leads
      (fun state : Thermometer × (Line × List BusCall) =>
        (state.1 = driver ∧ state.2.1.Has driver.address (· = device)) ∧ state.1 = driver ∧
          Says Prod.snd id earlier driver.address [] state.2)
      (Thermometer.setUp (watched : Master (Line × List BusCall) ε))
      (fun _ state =>
        (state.1.address = driver.address ∧ state.1.resolution = driver.resolution) ∧
          Says Prod.snd id earlier driver.address (registers.programming driver.resolution) state.2)
      fun _ => True := by
  have drives : Drives (watched : Master (Line × List BusCall) ε) Prod.fst := watched_drives
  have shown (place : Nat) (inside : place < 8) :
      (scratchpadOf registers)[place] = registers[place] := getElem_scratchpadOf registers inside
  have programming : registers.programming driver.resolution =
      [] ++ Thermometer.asked (scratchpadOf registers) ++
        if (scratchpadOf registers).get 4 = driver.resolution.code then []
        else Thermometer.told [(scratchpadOf registers).get 2, (scratchpadOf registers).get 3,
          driver.resolution.code] := by
    rw [Registers.programming, Registers.take_programmed]
    show _ = Thermometer.asked _ ++
      if (scratchpadOf registers)[4] = _ then []
      else Thermometer.told [(scratchpadOf registers)[2], (scratchpadOf registers)[3], _]
    rw [shown 2 (by decide), shown 3 (by decide), shown 4 (by decide)]
    rfl
  rw [programming]
  refine (Thermometer.says_setUp (Master.notes_traced id master) family
    ((drives.leads_thermometerRefresh model).mono (fun _ _ there => there.1)
      fun _ _ => trivial)).mono ?_ fun _ _ => trivial
  rintro _ ⟨_, reached⟩ ⟨rfl, there⟩
  exact ⟨⟨rfl, rfl⟩, there⟩

/-- **A driver that is set up** changes nothing but the resolution of its device. -/
theorem setUp_replaces (driver : Thermometer) (found : line.find? driver.address = some device)
    (intact : device.corrupt = false) (family : driver.address.family = Family.thermometer)
    (model : device.model = .thermometer celsius registers) (earlier : List BusCall) :
    ∃ ready reached calls,
      (Thermometer.setUp (watched : Master (Line × List BusCall) ε)).perform
          (driver, (line, earlier)) = (.ok (), (ready, (reached, calls.reverse ++ earlier))) ∧
      (ready.address = driver.address ∧ ready.resolution = driver.resolution) ∧
      Dialogue driver.address (registers.programming driver.resolution) calls ∧
      line.Replaces driver.address (device.configure driver.resolution.code) reached := by
  have drives : Drives (watched : Master (Line × List BusCall) ε) Prod.fst := watched_drives
  let start : Thermometer × (Line × List BusCall) := (driver, (line, earlier))
  obtain ⟨_, ⟨ready, reached, _⟩, calls, ran, kept, rfl, dialogue, replaces⟩ :=
    Line.performs_replaces Prod.snd start
      (((drives.leads_thermometerSetUp family model).of_imp
        (Line.starts found driver earlier)).mono
        (fun _ _ there => there.2) fun _ failed => Bool.eq_false_iff.mp intact failed.2)
      ((says_programming family model earlier).of_imp
        (Line.starts_silent found driver earlier))
      ((drives.spares line).keeps_thermometerSetUp.of_imp fun state same => same ▸ .of_devices rfl)
      fun other device different there =>
        (drives.keeps_thermometerSetUp.mono (fun _ _ kept => kept.2) fun _ kept => kept).of_imp
          fun state same => same ▸ ⟨different, there⟩
  exact ⟨ready, reached, calls, ran, kept, dialogue, replaces⟩

/-! ### Measuring -/

/-- **A conversion** of one device. -/
theorem sample_replaces (driver : Thermometer) (found : line.find? driver.address = some device)
    (earlier : List BusCall) :
    ∃ reached calls,
      (Thermometer.sample (watched : Master (Line × List BusCall) ε) driver).perform
          (line, earlier) = (.ok (), (reached, calls.reverse ++ earlier)) ∧
      Dialogue driver.address [⟨[0x44], []⟩] calls ∧
      line.Replaces driver.address device.convertTemperature reached := by
  have drives : Drives (watched : Master (Line × List BusCall) ε) Prod.fst := watched_drives
  have begins : ∀ state : Line × List BusCall, state = (line, earlier) →
      state.1.Has driver.address (· = device) := by
    rintro _ rfl
    exact ⟨device, found, rfl⟩
  have spoken : Leads (Says Prod.snd id earlier driver.address [])
      (Thermometer.sample (watched : Master (Line × List BusCall) ε) driver)
      (fun _ state => True ∧ Says Prod.snd id earlier driver.address [⟨[0x44], []⟩] state)
      (Master.Notes.Stops Prod.snd id earlier) :=
    ((Master.notes_traced id master).says_command 0x44).mono (fun _ _ there => ⟨trivial, there⟩)
      fun _ stops => stops
  obtain ⟨_, ⟨reached, _⟩, calls, ran, _, rfl, dialogue, replaces⟩ :=
    Line.performs_replaces id (line, earlier) (drives.leads_ownConvert.of_imp begins)
      (spoken.of_imp fun state same => same ▸ ⟨[], .silent, rfl⟩)
      (((drives.spares line).keeps_convert _ _).of_imp fun state same => same ▸ .of_devices rfl)
      fun other device different there =>
        (drives.keeps_otherCommand different _).of_imp fun state same => same ▸ there
  exact ⟨reached, calls, ran, dialogue, replaces⟩

theorem tells_thermometerTemperature {code : Address} (found : line.find? code = some device)
    (intact : device.corrupt = false) (model : device.model = .thermometer celsius registers)
    (resolution : Resolution) :
    line.Tells (Thermometer.temperature (watched : Master (Line × List BusCall) ε))
      (fun reader => reader.address = code ∧ reader.resolution = resolution)
      (Thermometer.decode resolution (scratchpadOf registers)) := by
  refine Line.tells_of_leads found intact ?_
  rintro driver ⟨rfl, rfl⟩
  exact (watched_drives.leads_thermometerTemperature model).mono (fun _ _ there => there.1)
    fun _ there => there.2

/-- **A driver and its device agree** about the bits that a resolution defines. -/
theorem resolutionMask_code (resolution : Resolution) :
    resolutionMask resolution.code = resolution.mask := by
  cases resolution <;> rfl

theorem Device.convertTemperature_configure
    (model : device.model = .thermometer celsius registers) (resolution : Resolution) :
    (device.configure resolution.code).convertTemperature =
      { device with
        model := .thermometer celsius (storeWord (registers.programmed resolution) 0
          ((sixteenths celsius).toUInt16 &&& resolution.mask))
        conversions := device.conversions + 1 } := by
  rw [configure_eq model, convertTemperature]
  dsimp only
  rw [Registers.resolution_storeRegister, resolutionMask_code]

/-! ### From the first read to a temperature -/

/-- **A driver that is set up programs its resolution**, whatever its thermometer has in its
registers, unless that sends flipped bits. All other registers and devices are as they were. If it
is set up again it writes nothing. After a conversion, each driver with this resolution reads what
the conversion stored, of which the resolution takes no bit away. -/
theorem setUp_programs {code : Address} (found : line.find? code = some device)
    (intact : device.corrupt = false) (family : code.family = Family.thermometer)
    (model : device.model = .thermometer celsius registers) (resolution : Resolution)
    (earlier : List BusCall) :
    ∃ ready reached calls,
      (Thermometer.setUp (watched : Master (Line × List BusCall) ε)).perform
          (.unread code resolution, (line, earlier)) =
        (.ok (), (ready, (reached, calls.reverse ++ earlier))) ∧
      Dialogue code (registers.programming resolution) calls ∧
      line.Replaces code
        { device with model := .thermometer celsius (registers.programmed resolution) } reached ∧
      (∀ notes, ∃ again still more,
        (Thermometer.setUp (watched : Master (Line × List BusCall) ε)).perform
            (ready, (reached, notes)) = (.ok (), (again, (still, more.reverse ++ notes))) ∧
          Dialogue code
            (Thermometer.asked (scratchpadOf (registers.programmed resolution))) more ∧
          reached.Replaces code
            { device with model := .thermometer celsius (registers.programmed resolution) }
            still) ∧
      ∀ notes, ∃ measured more stored,
        (Thermometer.sample (watched : Master (Line × List BusCall) ε) ready).perform
            (reached, notes) = (.ok (), (measured, more.reverse ++ notes)) ∧
          Dialogue code [⟨[0x44], []⟩] more ∧
          reached.Replaces code
            { device with
              model := .thermometer celsius (storeWord (registers.programmed resolution) 0 stored)
              conversions := device.conversions + 1 } measured ∧
          stored = (sixteenths celsius).toUInt16 &&& resolution.mask ∧
          stored &&& resolution.mask = stored ∧
          measured.Tells (Thermometer.temperature (watched : Master (Line × List BusCall) ε))
            (fun reader => reader.address = code ∧ reader.resolution = resolution)
            ⟨stored.toInt16, 4⟩ := by
  have configured := Device.configure_code model resolution
  have still : ({ device with
      model := .thermometer celsius (registers.programmed resolution) } : Device).configure
        resolution.code = device.configure resolution.code := by
    rw [configured, Device.configure_code rfl, registers.programmed_programmed]
  obtain ⟨⟨address, wanted, scratchpad⟩, reached, calls, ran, ⟨own, asked⟩, dialogue, replaces⟩ :=
    setUp_replaces (.unread code resolution) found intact family model earlier
  obtain rfl : address = code := own
  obtain rfl : wanted = resolution := asked
  rw [← configured]
  refine ⟨_, reached, calls, ran, dialogue, replaces, fun notes => ?_, fun notes => ?_⟩
  · have there : reached.find? address = some _ := configured ▸ replaces.own
    obtain ⟨again, now, more, ranAgain, _, said, same⟩ :=
      setUp_replaces ⟨address, wanted, scratchpad⟩ there intact family rfl notes
    refine ⟨again, now, more, ranAgain, registers.programming_programmed wanted ▸ said, ?_⟩
    exact still ▸ same
  · obtain ⟨measured, more, sampled, said, converted⟩ :=
      sample_replaces ⟨address, wanted, scratchpad⟩ replaces.own notes
    rw [Device.convertTemperature_configure model] at converted
    have kept : (sixteenths celsius).toUInt16 &&& wanted.mask &&& wanted.mask =
        (sixteenths celsius).toUInt16 &&& wanted.mask := by
      rw [UInt16.and_assoc, UInt16.and_self]
    have decoded : Thermometer.decode wanted (scratchpadOf (storeWord
        (registers.programmed wanted) 0 ((sixteenths celsius).toUInt16 &&& wanted.mask))) =
          ⟨((sixteenths celsius).toUInt16 &&& wanted.mask).toInt16, 4⟩ := by
      rw [Device.decode_scratchpadOf, Registers.word_storeWord, kept]
    refine ⟨measured, more, (sixteenths celsius).toUInt16 &&& wanted.mask, sampled, said, converted,
      rfl, kept, ?_⟩
    rw [← decoded]
    exact tells_thermometerTemperature converted.own intact rfl wanted

/-- A thermometer at power-on, which measures twelve bits, gets nine next to a battery monitor. -/
theorem setUp_programs_powerOn :
    let thermometer := Device.fresh ⟨0x28⟩ (.thermometer 21.6 thermometerPowerOn)
    let monitor := Device.fresh ⟨0x26⟩ (.batteryMonitor 21.5 1.25 5.0 monitorPowerOn)
    let line : Line := { Line.empty with devices := [monitor, thermometer] }
    ∃ ready reached calls,
      (Thermometer.setUp (watched : Master (Line × List BusCall) Empty)).perform
          (.unread ⟨0x28⟩ .nine, (line, [])) = (.ok (), (ready, (reached, calls))) ∧
        thermometerPowerOn.programming .nine =
          [⟨[0xbe], [0x50, 0x05, 0x4b, 0x46, 0x7f, 0xff, 0x0c, 0x10, 0x1c]⟩,
            ⟨[0x4e, 0x4b, 0x46, 0x1f], []⟩, ⟨[0x48], []⟩] ∧
        Dialogue ⟨0x28⟩ (thermometerPowerOn.programming .nine) calls.reverse ∧
        reached.devices = [monitor, .fresh ⟨0x28⟩
          (.thermometer 21.6 #v[0x50, 0x05, 0x4b, 0x46, 0x1f, 0xff, 0x0c, 0x10])] := by
  intro thermometer monitor line
  have family : (⟨0x28⟩ : Address).family = Family.thermometer := by decide
  obtain ⟨ready, reached, calls, ran, dialogue, replaces, _⟩ :=
    @setUp_programs Empty 21.6 thermometerPowerOn thermometer line ⟨0x28⟩ rfl rfl family rfl .nine
      []
  rw [List.append_nil] at ran
  refine ⟨ready, reached, calls.reverse, ran, by decide +kernel, ?_,
    replaces.devices_eq (by decide)⟩
  rw [List.reverse_reverse]
  exact dialogue

end WireBridge.Sim
