/-
**What drivers say to their devices.**

* `Thermometer.asked`, `BatteryMonitor.asked`: how registers are read;
* `Thermometer.told`, `BatteryMonitor.told`: how registers are written and stored;
* `Thermometer.says_refresh`, `BatteryMonitor.says_refresh`: **a driver stores the nine bytes that
  it read last** if they fit their check, and keeps what it had otherwise;
* `Thermometer.says_setUp`, `BatteryMonitor.says_sampleVoltage`: what is said to a device whose
  registers may have to be written first.
-/

import WireBridge.Proofs.Device.Dialogue

namespace WireBridge

open WireBridge.Action (Leads)
open BusCall (selection)
open Master.Notes (Says Fails)

variable {σ ε ν : Type} {master : Master σ ε} {log : σ → List ν} {note : BusCall → ν}
  {earlier : List ν} {said : List Exchange}

/-! ### Thermometers -/

namespace Thermometer

/-- How the scratchpad is read. -/
def asked (page : Scratchpad) : List Exchange := [⟨[0xbe], page.toList⟩]

/-- How the alarms and the configuration are written and stored. -/
def told (registers : List UInt8) : List Exchange :=
  [⟨0x4e :: registers, []⟩, ⟨[0x48], []⟩]

/-- Only the configuration differs from what was read. -/
theorem told_setIfInBounds (page : Scratchpad) (config : UInt8) :
    told [(page.setIfInBounds 4 config).get 2, (page.setIfInBounds 4 config).get 3,
      (page.setIfInBounds 4 config).get 4] = told [page.get 2, page.get 3, config] := by
  have kept (place : Nat) (inside : place < 9) (other : 4 ≠ place) :
      (page.setIfInBounds 4 config)[place] = page[place] :=
    Vector.getElem_setIfInBounds_ne inside other
  have written : (page.setIfInBounds 4 config)[4] = config :=
    Vector.getElem_setIfInBounds_self (by decide)
  show told [(page.setIfInBounds 4 config)[2], (page.setIfInBounds 4 config)[3],
    (page.setIfInBounds 4 config)[4]] = _
  rw [kept 2 (by decide) (by decide), kept 3 (by decide) (by decide), written]
  rfl

variable (notes : master.Notes log note)

include notes

/-- **The scratchpad is read** and stored. It is kept if that fails. -/
theorem says_refresh (driver : Thermometer) :
    Leads
      (fun state : Thermometer × σ =>
        state.1 = driver ∧ Says log note earlier driver.address said state.2)
      (refresh master)
      (fun _ state => ∃ page : Scratchpad, state.1 = { driver with scratchpad := page } ∧
        Crc.valid page.toList = true ∧
        Says log note earlier driver.address (said ++ asked page) state.2)
      fun state => state.1 = driver ∧
        Fails log note earlier driver.address (fun page => said ++ asked page) state.2 := by
  refine Action.leads_current_bind ?_
  rintro ⟨current, line⟩ ⟨same, spoken⟩
  obtain rfl : current = driver := same
  refine Action.leads_bind
    (fun page state => state.1 = current ∧ Crc.valid page.toList = true ∧
      Says log note earlier current.address (said ++ asked page) state.2) ?_ fun page => ?_
  · refine (Action.leads_onSecond (fun other : Thermometer => other = current)
      (notes.says_read [0xbe])).of_imp ?_
    rintro _ rfl
    exact ⟨rfl, spoken⟩
  · refine Action.leads_update ?_
    rintro ⟨_, reached⟩ ⟨rfl, fits, here⟩
    exact ⟨page, rfl, fits, here⟩

/-- A read of bytes that are known. -/
theorem says_reads {driver : Thermometer} {before : Thermometer × σ → Prop} {page : Scratchpad}
    (reads : Leads before (refresh master)
      (fun _ state => state.1 = { driver with scratchpad := page }) fun _ => True) :
    Leads
      (fun state : Thermometer × σ => before state ∧ state.1 = driver ∧
        Says log note earlier driver.address said state.2)
      (refresh master)
      (fun _ state => state.1 = { driver with scratchpad := page } ∧
        Says log note earlier driver.address (said ++ asked page) state.2)
      fun _ => True := by
  refine (reads.and (says_refresh notes driver)).mono ?_ fun _ _ => trivial
  rintro _ state ⟨known, other, stored, _, here⟩
  obtain rfl : page = other := congrArg Thermometer.scratchpad (known.symm.trans stored)
  exact ⟨known, here⟩

theorem says_program (driver : Thermometer) :
    Leads (Says log note earlier driver.address said) (program master driver)
      (fun _ => Says log note earlier driver.address (said ++
        told [driver.scratchpad.get 2, driver.scratchpad.get 3, driver.scratchpad.get 4]))
      fun _ => True := by
  have split (registers : List UInt8) : said ++ told registers =
      said ++ [⟨[0x4e] ++ registers, []⟩] ++ [⟨[0x48], []⟩] := by simp [told]
  rw [split]
  refine Action.leads_bind _ (notes.says_select.mono (fun _ _ tells => tells) fun _ _ => trivial)
    fun _ => ?_
  refine Action.leads_bind _ ((notes.says_writeByte (selection driver.address) 0x4e).mono
    (fun _ _ tells => tells) fun _ _ => trivial) fun _ => ?_
  refine Action.leads_bind _ ((notes.says_writeBytes (selection driver.address ++ [0x4e]) _).mono
    (fun _ _ tells => ?_) fun _ _ => trivial) fun _ =>
      (notes.says_command 0x48).mono (fun _ _ spoken => spoken) fun _ _ => trivial
  rw [List.append_assoc] at tells
  exact tells.ends

/-- **A resolution is programmed** only if the device has another one. -/
theorem says_setUp {driver : Thermometer} (family : driver.address.family = Family.thermometer)
    {before : Thermometer × σ → Prop} {page : Scratchpad}
    (reads : Leads before (refresh master)
      (fun _ state => state.1 = { driver with scratchpad := page }) fun _ => True) :
    Leads
      (fun state : Thermometer × σ => before state ∧ state.1 = driver ∧
        Says log note earlier driver.address said state.2)
      (setUp master)
      (fun _ state => state.1 =
          { driver with scratchpad := page.setIfInBounds 4 driver.resolution.code } ∧
        Says log note earlier driver.address (said ++ asked page ++
          if page.get 4 = driver.resolution.code then []
          else told [page.get 2, page.get 3, driver.resolution.code]) state.2)
      fun _ => True := by
  refine Action.leads_current_bind ?_
  rintro ⟨current, line⟩ ⟨start, same, spoken⟩
  obtain rfl : current = driver := same
  dsimp only
  rw [if_neg (not_not_intro family)]
  refine Action.leads_bind
    (fun _ state => state.1 = { current with scratchpad := page } ∧
      Says log note earlier current.address (said ++ asked page) state.2)
    ((says_reads notes reads).of_imp ?_) fun _ => ?_
  · rintro _ rfl
    exact ⟨start, rfl, spoken⟩
  refine Action.leads_current_bind ?_
  rintro ⟨_, reached⟩ ⟨rfl, here⟩
  dsimp only
  split
  · next shown =>
    refine Action.leads_pure ?_
    rintro _ rfl
    have kept : page.setIfInBounds 4 current.resolution.code = page := by
      rw [← shown]
      exact Vector.ext fun place inside => by
        rw [Vector.getElem_setIfInBounds]
        split
        · next here => subst here; rfl
        · rfl
    rw [kept, List.append_nil]
    exact ⟨rfl, here⟩
  · refine Action.leads_bind (fun _ state => state.1 =
        { current with scratchpad := page.setIfInBounds 4 current.resolution.code } ∧
      Says log note earlier current.address (said ++ asked page) state.2)
      (Action.leads_update ?_) fun _ => ?_
    · rintro _ rfl
      exact ⟨rfl, here⟩
    · have writes : Leads (Says log note earlier current.address (said ++ asked page))
          (program master
            { current with scratchpad := page.setIfInBounds 4 current.resolution.code }) _ _ :=
        says_program notes
          { current with scratchpad := page.setIfInBounds 4 current.resolution.code }
      refine (Action.leads_onSecond (fun other : Thermometer => other =
        { current with scratchpad := page.setIfInBounds 4 current.resolution.code })
          writes).mono ?_ fun _ _ => trivial
      rintro _ state ⟨known, there⟩
      rw [told_setIfInBounds] at there
      exact ⟨known, there⟩

end Thermometer

/-! ### Battery monitors -/

namespace BatteryMonitor

/-- How the page is read: it is recalled from memory first. -/
def asked (page : Scratchpad) : List Exchange := [⟨[0xb8, 0x00], []⟩, ⟨[0xbe, 0x00], page.toList⟩]

/-- How the page is written and stored. -/
def told (registers : List UInt8) : List Exchange :=
  [⟨0x4e :: 0x00 :: registers, []⟩, ⟨[0x48, 0x00], []⟩]

variable (notes : master.Notes log note)

include notes

/-- **The page is read** and stored. The cached one is kept if that fails. -/
theorem says_refresh (driver : BatteryMonitor) :
    Leads
      (fun state : BatteryMonitor × σ =>
        state.1 = driver ∧ Says log note earlier driver.address said state.2)
      (refresh master)
      (fun _ state => ∃ page : Scratchpad, state.1 = { driver with page := page } ∧
        Crc.valid page.toList = true ∧
        Says log note earlier driver.address (said ++ asked page) state.2)
      fun state => state.1 = driver ∧
        Fails log note earlier driver.address (fun page => said ++ asked page) state.2 := by
  refine Action.leads_current_bind ?_
  rintro ⟨current, line⟩ ⟨same, spoken⟩
  obtain rfl : current = driver := same
  have split (page : Scratchpad) : said ++ asked page =
      said ++ [⟨[0xb8, 0x00], []⟩] ++ [⟨[0xbe, 0x00], page.toList⟩] := by simp [asked]
  simp only [split]
  refine Action.leads_bind
    (fun page state => state.1 = current ∧ Crc.valid page.toList = true ∧
      Says log note earlier current.address
        (said ++ [⟨[0xb8, 0x00], []⟩] ++ [⟨[0xbe, 0x00], page.toList⟩]) state.2) ?_ fun page => ?_
  · refine Leads.of_imp (Action.leads_onSecond (fun other : BatteryMonitor => other = current)
      (Action.leads_bind _ (notes.says_select.mono (fun _ _ tells => tells) fun _ => .inl)
        fun _ => Action.leads_bind _
          ((notes.says_writeBytes (selection current.address) [0xb8, 0x00]).mono
            (fun _ _ tells => tells.ends) fun _ => .inl)
          fun _ => notes.says_read [0xbe, 0x00])) ?_
    rintro _ rfl
    exact ⟨rfl, spoken⟩
  · refine Action.leads_update ?_
    rintro ⟨_, reached⟩ ⟨rfl, fits, here⟩
    exact ⟨page, rfl, fits, here⟩

/-- A read of bytes that are known. -/
theorem says_reads {driver : BatteryMonitor} {before : BatteryMonitor × σ → Prop}
    {page : Scratchpad}
    (reads : Leads before (refresh master)
      (fun _ state => state.1 = { driver with page := page }) fun _ => True) :
    Leads
      (fun state : BatteryMonitor × σ => before state ∧ state.1 = driver ∧
        Says log note earlier driver.address said state.2)
      (refresh master)
      (fun _ state => state.1 = { driver with page := page } ∧
        Says log note earlier driver.address (said ++ asked page) state.2)
      fun _ => True := by
  refine (reads.and (says_refresh notes driver)).mono ?_ fun _ _ => trivial
  rintro _ state ⟨known, other, stored, _, here⟩
  obtain rfl : page = other := congrArg BatteryMonitor.page (known.symm.trans stored)
  exact ⟨known, here⟩

theorem says_program (driver : BatteryMonitor) :
    Leads (Says log note earlier driver.address said) (program master driver)
      (fun _ => Says log note earlier driver.address (said ++ told (driver.page.toList.take 8)))
      fun _ => True := by
  have split (registers : List UInt8) : said ++ told registers =
      said ++ [⟨[0x4e, 0x00] ++ registers, []⟩] ++ [⟨[0x48, 0x00], []⟩] := by simp [told]
  rw [split]
  refine Action.leads_bind _ (notes.says_select.mono (fun _ _ tells => tells) fun _ _ => trivial)
    fun _ => ?_
  refine Action.leads_bind _ ((notes.says_writeBytes (selection driver.address) [0x4e, 0x00]).mono
    (fun _ _ tells => tells) fun _ _ => trivial) fun _ => ?_
  refine Action.leads_bind _
    ((notes.says_writeBytes (selection driver.address ++ [0x4e, 0x00]) _).mono
      (fun _ _ tells => ?_) fun _ _ => trivial) fun _ =>
        (notes.says_written [0x48, 0x00]).mono (fun _ _ spoken => spoken) fun _ _ => trivial
  rw [List.append_assoc] at tells
  exact tells.ends

/-- **An input is selected** only if the other one is. Then the voltage is converted. -/
theorem says_sampleVoltage {driver : BatteryMonitor} (supply : Bool)
    {before : BatteryMonitor × σ → Prop} {page : Scratchpad}
    (reads : Leads before (refresh master)
      (fun _ state => state.1 = { driver with page := page }) fun _ => True) :
    Leads
      (fun state : BatteryMonitor × σ => before state ∧ state.1 = driver ∧
        Says log note earlier driver.address said state.2)
      (sampleVoltage master supply)
      (fun _ state => state.1.address = driver.address ∧
        Says log note earlier driver.address (said ++ asked page ++
          (if (MonitorConfig.mk (page.get 0)).supply = supply then []
          else told
            ((page.toList.take 8).set 0 ((MonitorConfig.mk (page.get 0)).withSupply supply).bits))
          ++ [⟨[0xb4], []⟩]) state.2)
      fun _ => True := by
  have converts (said : List Exchange) :
      Leads (fun state : BatteryMonitor × σ => state.1.address = driver.address ∧
          Says log note earlier driver.address said state.2)
        (Action.onSecond do
          master.select (some driver.address)
          master.writeByte FunctionCommand.convertVoltage.code)
        (fun _ state => state.1.address = driver.address ∧
          Says log note earlier driver.address (said ++ [⟨[0xb4], []⟩]) state.2)
        fun _ => True :=
    (Action.leads_onSecond (fun other : BatteryMonitor => other.address = driver.address)
      (notes.says_command 0xb4)).mono (fun _ _ there => there) fun _ _ => trivial
  refine Action.leads_bind _ (says_reads notes reads) fun _ => ?_
  refine Action.leads_current_bind ?_
  rintro ⟨_, reached⟩ ⟨rfl, here⟩
  dsimp only
  by_cases same : (BatteryMonitor.mk driver.address page).config.supply = supply
  · have selected : (MonitorConfig.mk (page.get 0)).supply = supply := same
    rw [if_neg (not_not_intro same), if_pos selected, List.append_nil]
    refine (converts _).of_imp ?_
    rintro _ rfl
    exact ⟨rfl, here⟩
  · have other : (MonitorConfig.mk (page.get 0)).supply ≠ supply := same
    rw [if_pos same, if_neg other]
    refine Action.leads_bind (fun _ state => state.1 = ⟨driver.address, page.set 0
        ((MonitorConfig.mk (page.get 0)).withSupply supply).bits⟩ ∧
      Says log note earlier driver.address (said ++ asked page) state.2)
      (Action.leads_update ?_) fun _ => ?_
    · rintro _ rfl
      exact ⟨rfl, here⟩
    have written (registers : Scratchpad) (byte : UInt8) :
        (registers.set 0 byte).toList.take 8 = (registers.toList.take 8).set 0 byte := by
      rw [Vector.toList_set, List.take_set]
    have writes : Leads (Says log note earlier driver.address (said ++ asked page))
        (program master ⟨driver.address, page.set 0
          ((MonitorConfig.mk (page.get 0)).withSupply supply).bits⟩) _ _ :=
      says_program notes ⟨driver.address, page.set 0
        ((MonitorConfig.mk (page.get 0)).withSupply supply).bits⟩
    rw [written] at writes
    refine Action.leads_bind _ ?_ fun _ => converts _
    refine ((Action.leads_onSecond (fun other : BatteryMonitor => other.address = driver.address)
      writes).mono (fun _ _ there => there) fun _ _ => trivial).of_imp ?_
    rintro _ ⟨known, there⟩
    exact ⟨known ▸ rfl, there⟩

end BatteryMonitor

end WireBridge
