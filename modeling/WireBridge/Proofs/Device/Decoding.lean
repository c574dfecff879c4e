/-
**Readings come from checked bytes.**

A driver reads nine bytes of its device, and whatever the line does, at any call, it tells a value
only if these bytes fit their check.

* `Word.toInt_and`: clearing the lowest bits of a signed register rounds down;
* `Thermometer.Decodes`, `BatteryMonitor.Decodes`, `BatteryMonitor.DecodesVoltage`: the values in a
  scratchpad, in terms of its bytes;
* `Reading`, `Reads`: what may come of a read by a driver, and the calls that it makes;
* `readings_checked`: **each read of a driver ends that way**, on any line.
-/

import WireBridge.Proofs.Device.Telling
import WireBridge.Proofs.Rom.Check
import WireBridge.Proofs.Sim.Monitor

namespace WireBridge

open WireBridge.Action (Leads)
open BusCall (Dialogue Interrupted)
open Master.Notes (Says Fails)

/-! ### Registers -/

namespace Word

/-- Two bytes as a signed number, low byte first. -/
def signed (low high : UInt8) : Int :=
  if high.toNat < 128 then low.toNat + 256 * high.toNat
  else low.toNat + 256 * high.toNat - 65536

theorem toInt_toInt16 (word : UInt16) :
    word.toInt16.toInt = if word.toNat < 32768 then (word.toNat : Int) else word.toNat - 65536 := by
  have value : word.toInt16.toInt = word.toBitVec.toInt := rfl
  have same : word.toBitVec.toNat = word.toNat := rfl
  rw [value, BitVec.toInt_eq_toNat_cond, same]
  by_cases small : word.toNat < 32768
  · rw [if_pos small, if_pos (by omega)]
  · rw [if_neg small, if_neg (by omega)]
    rfl

theorem toInt_join (low high : UInt8) : (join low high).toInt16.toInt = signed low high := by
  have below : low.toNat < 256 := low.toNat_lt
  rw [toInt_toInt16, toNat_join, signed]
  by_cases positive : high.toNat < 128
  · rw [if_pos positive, if_pos (by omega)]
    omega
  · rw [if_neg positive, if_neg (by omega)]
    omega

/-- The lowest bits of a word cleared. -/
theorem toNat_and (word : UInt16) {mask : UInt16} {places : Nat}
    (clears : mask.toBitVec = BitVec.allOnes 16 <<< places) :
    (word &&& mask).toNat = word.toNat / 2 ^ places * 2 ^ places := by
  have below : word.toNat < 2 ^ 16 := word.toNat_lt
  have shifted : (word &&& mask).toBitVec = word.toBitVec >>> places <<< places := by
    rw [UInt16.toBitVec_and, clears, BitVec.shiftLeft_ushiftRight]
  have inside : word.toNat / 2 ^ places * 2 ^ places < 2 ^ 16 :=
    Nat.lt_of_le_of_lt (Nat.div_mul_le_self _ _) below
  calc (word &&& mask).toNat = (word.toBitVec >>> places <<< places).toNat :=
        congrArg BitVec.toNat shifted
    _ = word.toNat / 2 ^ places * 2 ^ places % 2 ^ 16 := by
        rw [BitVec.toNat_shiftLeft, BitVec.toNat_ushiftRight, Nat.shiftLeft_eq,
          Nat.shiftRight_eq_div_pow]
        rfl
    _ = word.toNat / 2 ^ places * 2 ^ places := Nat.mod_eq_of_lt inside

/-- **Clearing the lowest bits** of a signed register rounds down. -/
theorem toInt_and (word : UInt16) {mask : UInt16} {places : Nat} (few : places < 4)
    (clears : mask.toBitVec = BitVec.allOnes 16 <<< places) :
    (word &&& mask).toInt16.toInt =
      word.toInt16.toInt / (2 ^ places : Nat) * (2 ^ places : Nat) := by
  have below : word.toNat < 65536 := word.toNat_lt
  rw [toInt_toInt16, toInt_toInt16, toNat_and word clears]
  match places, few with
  | 0, _ | 1, _ | 2, _ | 3, _ => omega

end Word

/-- The number of lowest bits of the temperature register that are not defined. -/
def Resolution.undefined : Resolution → Nat
  | .nine => 3
  | .ten => 2
  | .eleven => 1
  | .twelve => 0

/-- A temperature of a thermometer: the first two bytes in sixteenths of a degree, down to what the
resolution tells apart. -/
structure Thermometer.Decodes (resolution : Resolution) (page : Scratchpad)
    (value : Temperature) : Prop where
  places : value.places = 4
  units : value.units.toInt =
    Word.signed (page.get 0) (page.get 1) / (2 ^ resolution.undefined : Nat) *
      (2 ^ resolution.undefined : Nat)

/-- A temperature of a battery monitor: the second and the third byte in units of 1/256 degree, down
to a multiple of eight. -/
structure BatteryMonitor.Decodes (page : Scratchpad) (value : Temperature) : Prop where
  places : value.places = 8
  units : value.units.toInt = Word.signed (page.get 1) (page.get 2) / 8 * 8

/-- A voltage of a battery monitor: ten bits in hundredths of a volt. -/
structure BatteryMonitor.DecodesVoltage (page : Scratchpad) (value : Float32) : Prop where
  hundredths : value =
    volts (UInt16.ofNat ((page.get 3).toNat + 256 * ((page.get 4).toNat % 4)))

theorem Thermometer.decodes_decode (resolution : Resolution) (page : Scratchpad) :
    Decodes resolution page (decode resolution page) := by
  have few : resolution.undefined < 4 := by cases resolution <;> decide
  have clears : resolution.mask.toBitVec = BitVec.allOnes 16 <<< resolution.undefined := by
    cases resolution <;> rfl
  refine ⟨rfl, ?_⟩
  show (Word.join (page.get 0) (page.get 1) &&& resolution.mask).toInt16.toInt = _
  rw [Word.toInt_and _ few clears, Word.toInt_join]

theorem BatteryMonitor.decodes_decodeTemperature (page : Scratchpad) :
    Decodes page (decodeTemperature page) := by
  have clears : (0xfff8 : UInt16).toBitVec = BitVec.allOnes 16 <<< 3 := rfl
  have cut := Word.toInt_and (Word.join (page.get 1) (page.get 2)) (by decide : 3 < 4) clears
  rw [Word.toInt_join] at cut
  exact ⟨rfl, cut⟩

theorem BatteryMonitor.decodesVoltage_decodeHundredths (page : Scratchpad) :
    DecodesVoltage page (volts (decodeHundredths page)) := by
  have kept : (page.get 4 &&& 0x03).toNat = (page.get 4).toNat % 4 := by
    rw [UInt8.toNat_and]
    exact Nat.and_two_pow_sub_one_eq_mod (page.get 4).toNat 2
  refine ⟨congrArg volts (UInt16.toNat_inj.mp ?_)⟩
  show (Word.join (page.get 3) (page.get 4 &&& 0x03)).toNat = _
  rw [Word.toNat_join, kept, UInt16.toNat_ofNat_of_lt']
  have below : (page.get 3).toNat < 2 ^ 8 := (page.get 3).toNat_lt
  show _ < 2 ^ 16
  omega

/-- Nine bytes fit their check if and only if the last is that of the others. -/
theorem Scratchpad.valid_iff (page : Scratchpad) :
    Crc.valid page.toList = true ↔ page.get 8 = Crc.check (page.toList.take 8) := by
  have split : page.toList = page.toList.take 8 ++ [page.get 8] := by
    have last : page.toList.drop 8 = [page.get 8] := by
      rw [List.drop_eq_getElem_cons (by simp), List.drop_of_length_le (by simp)]
      rfl
    rw [← last, List.take_append_drop]
  rw [← Crc.valid_append, ← split]

/-! ### Readings -/

/-- What may come of a read of nine bytes by a driver, and the calls that it makes.

* `told`: the bytes fit their check. The driver yields a value of these bytes, and stores them;
* `unfit`: they do not. The driver is as it was;
* `stopped`: a call failed. The driver is as it was. -/
inductive Reading {δ ε α : Type} (code : Address) (asked : Scratchpad → List Exchange)
    (stored : Scratchpad → δ) (driver : δ) (decodes : Scratchpad → α → Prop) :
    List BusCall → Except ε α → δ → Prop
  | told {calls : List BusCall} {page : Scratchpad} {value : α}
      (said : Dialogue code (asked page) calls)
      (fits : page.get 8 = Crc.check (page.toList.take 8))
      (decoded : decodes page value) :
      Reading code asked stored driver decodes calls (.ok value) (stored page)
  | unfit {calls : List BusCall} {page : Scratchpad} {error : ε}
      (said : Dialogue code (asked page) calls)
      (wrong : page.get 8 ≠ Crc.check (page.toList.take 8)) :
      Reading code asked stored driver decodes calls (.error error) driver
  | stopped {calls : List BusCall} {error : ε} (interrupted : Interrupted calls) :
      Reading code asked stored driver decodes calls (.error error) driver

/-- An action of a driver is a reading, on a line in any state and with any earlier calls. -/
def Reads {σ δ ε α : Type} (action : Action (δ × (σ × List BusCall)) ε α) (code : Address)
    (asked : Scratchpad → List Exchange) (stored : Scratchpad → δ) (driver : δ)
    (decodes : Scratchpad → α → Prop) : Prop :=
  ∀ line earlier, ∃ calls outcome after reached,
    action.perform (driver, (line, earlier)) =
        (outcome, (after, (reached, calls.reverse ++ earlier))) ∧
      Reading code asked stored driver decodes calls outcome after

theorem Reads.of_leads {σ δ ε α : Type} {action : Action (δ × (σ × List BusCall)) ε α}
    {code : Address} {asked : Scratchpad → List Exchange} {stored : Scratchpad → δ} {driver : δ}
    {decodes : Scratchpad → α → Prop}
    (leads : ∀ earlier,
      Leads (fun state => state.1 = driver ∧ Says Prod.snd id earlier code [] state.2) action
        (fun value state => ∃ page, state.1 = stored page ∧ Crc.valid page.toList = true ∧
          decodes page value ∧ Says Prod.snd id earlier code (asked page) state.2)
        fun state => state.1 = driver ∧ Fails Prod.snd id earlier code asked state.2) :
    Reads action code asked stored driver decodes := by
  intro line earlier
  have ended := leads earlier (driver, (line, earlier)) ⟨rfl, [], .silent, rfl⟩
  generalize action.perform (driver, (line, earlier)) = performed at ended ⊢
  obtain ⟨error | value, after, reached, log⟩ := performed
  · obtain ⟨same, ⟨calls, interrupted, noted⟩ | ⟨page, wrong, calls, said, noted⟩⟩ := ended
    all_goals
      obtain rfl : after = driver := same
      replace noted : log = calls ++ earlier := noted.trans (by rw [List.map_id])
      subst noted
    · exact ⟨calls.reverse, _, _, _, by rw [List.reverse_reverse], .stopped interrupted⟩
    · refine ⟨calls.reverse, _, _, _, by rw [List.reverse_reverse], .unfit said fun same => ?_⟩
      exact Bool.eq_false_iff.mp wrong (page.valid_iff.mpr same)
  · obtain ⟨page, same, fits, decoded, calls, said, noted⟩ := ended
    obtain rfl : after = stored page := same
    replace noted : log = calls ++ earlier := noted.trans (by rw [List.map_id])
    subst noted
    exact ⟨calls.reverse, _, _, _, by rw [List.reverse_reverse],
      .told said (page.valid_iff.mp fits) decoded⟩

section Drivers

variable {σ ε : Type} (master : Master σ ε)

theorem Thermometer.reads_temperature (driver : Thermometer) :
    Reads (temperature (master.traced id)) driver.address asked
      (fun page => { driver with scratchpad := page }) driver (Decodes driver.resolution) := by
  refine .of_leads fun earlier => ?_
  refine Action.leads_bind _ (says_refresh (Master.notes_traced id master) driver) fun _ => ?_
  refine Action.leads_current_bind ?_
  rintro ⟨_, reached⟩ ⟨page, rfl, fits, spoken⟩
  refine Action.leads_pure ?_
  rintro _ rfl
  exact ⟨page, rfl, fits, decodes_decode driver.resolution page, spoken⟩

/-- What a battery monitor tells of its page. -/
theorem BatteryMonitor.leads_page {driver : BatteryMonitor} {earlier : List BusCall} {α : Type}
    (decodes : Scratchpad → α → Prop) {decode : Scratchpad → α}
    (decoded : ∀ page, decodes page (decode page)) :
    Leads (fun state => state.1 = driver ∧
        Says Prod.snd id earlier driver.address [] state.2)
      (do
        refresh (master.traced id)
        let (current, _) ← Action.current
        pure (decode current.page))
      (fun value state => ∃ page, state.1 = { driver with page := page } ∧
        Crc.valid page.toList = true ∧ decodes page value ∧
        Says Prod.snd id earlier driver.address (asked page) state.2)
      fun state => state.1 = driver ∧
        Fails Prod.snd id earlier driver.address asked state.2 := by
  refine Action.leads_bind _ (says_refresh (Master.notes_traced id master) driver) fun _ => ?_
  refine Action.leads_current_bind ?_
  rintro ⟨_, reached⟩ ⟨page, rfl, fits, spoken⟩
  refine Action.leads_pure ?_
  rintro _ rfl
  exact ⟨page, rfl, fits, decoded page, spoken⟩

theorem BatteryMonitor.reads_temperature (driver : BatteryMonitor) :
    Reads (temperature (master.traced id)) driver.address asked
      (fun page => { driver with page := page }) driver Decodes :=
  .of_leads fun _ => leads_page master Decodes decodes_decodeTemperature

theorem BatteryMonitor.reads_voltage (driver : BatteryMonitor) :
    Reads (voltage (master.traced id)) driver.address asked
      (fun page => { driver with page := page }) driver DecodesVoltage := by
  refine .of_leads fun earlier => ?_
  refine Action.leads_bind _ (leads_page master (fun page raw => DecodesVoltage page (volts raw))
    decodesVoltage_decodeHundredths) fun _ => ?_
  exact Action.leads_pure fun _ told => told

/-- **A driver tells only what fits its check.** On any line, a read of a driver yields a value of
the nine bytes that its device answered last, or fails and leaves the driver as it was. -/
theorem readings_checked :
    (∀ driver : Thermometer,
      Reads (Thermometer.temperature (master.traced id)) driver.address Thermometer.asked
        (fun page => { driver with scratchpad := page }) driver
        (Thermometer.Decodes driver.resolution)) ∧
      (∀ driver : BatteryMonitor,
        Reads (BatteryMonitor.temperature (master.traced id)) driver.address BatteryMonitor.asked
          (fun page => { driver with page := page }) driver BatteryMonitor.Decodes) ∧
      ∀ driver : BatteryMonitor,
        Reads (BatteryMonitor.voltage (master.traced id)) driver.address BatteryMonitor.asked
          (fun page => { driver with page := page }) driver BatteryMonitor.DecodesVoltage :=
  ⟨Thermometer.reads_temperature master, BatteryMonitor.reads_temperature master,
    BatteryMonitor.reads_voltage master⟩

end Drivers

end WireBridge
