/-
**What the supported devices measure.**

* `Quantity`: the quantities that can be asked for, with their names in requests and answers;
* `Family.quantities`, `Family.partName?`, `Family.conversionTime`: what each family code stands
  for.
-/

import WireBridge.Action
import WireBridge.KeyMap
import WireBridge.Rom.Address

namespace WireBridge

/-- A quantity that can be asked of a device. -/
inductive Quantity where
  /-- Whether the device answers. -/
  | presence
  /-- Its temperature. -/
  | temperature
  /-- The voltage at its general purpose input. -/
  | vad
  /-- Its supply voltage. -/
  | vdd
deriving DecidableEq, Inhabited

namespace Quantity

/-- All quantities in their order. -/
def all : List Quantity := [.presence, .temperature, .vad, .vdd]

/-- The name in requests and answers. -/
def name : Quantity → String
  | .presence => "presence"
  | .temperature => "temperature"
  | .vad => "VAD"
  | .vdd => "VDD"

/-- The quantity of a name. -/
def ofName? (name : String) : Option Quantity :=
  all.find? fun quantity => quantity.name == name

/-- The place in the order of quantities. -/
def index : Quantity → Nat
  | .presence => 0
  | .temperature => 1
  | .vad => 2
  | .vdd => 3

instance : Ranked Quantity where
  rank := index
  rank_injective := by intro first second; cases first <;> cases second <;> simp [index]

/-- The name in diagnostics. -/
def tag : Quantity → String
  | .presence => "Presence"
  | .temperature => "Temperature"
  | .vad => "Vad"
  | .vdd => "Vdd"

end Quantity

instance : Ranked Address where
  rank address := address.raw.toNat
  rank_injective := by
    rintro ⟨first⟩ ⟨second⟩ equal
    exact congrArg Address.mk (BitVec.eq_of_toNat_eq equal)

instance : Ranked FamilyCode where
  rank := UInt8.toNat
  rank_injective _ _ := UInt8.toNat_inj.mp

/-- Keys that carry a quantity are ordered by the key first. -/
instance {κ : Type} [Ranked κ] : Ranked (κ × Quantity) where
  rank key := 4 * Ranked.rank key.1 + key.2.index
  rank_injective := by
    rintro ⟨firstKey, firstQuantity⟩ ⟨secondKey, secondQuantity⟩ equal
    have split : Ranked.rank firstKey = Ranked.rank secondKey ∧
        firstQuantity.index = secondQuantity.index := by
      have below : ∀ quantity : Quantity, quantity.index < 4 := by
        intro quantity
        cases quantity <;> decide
      have first := below firstQuantity
      have second := below secondQuantity
      simp only at equal
      omega
    exact Prod.ext (Ranked.rank_injective _ _ split.1)
      (Ranked.rank_injective firstQuantity secondQuantity split.2)

namespace Family

/-- Serial numbers, which only answer that they are there. -/
def serialNumber : FamilyCode := 0x01

/-- Battery monitors. -/
def batteryMonitor : FamilyCode := 0x26

/-- Thermometers. -/
def thermometer : FamilyCode := 0x28

/-- What the devices of a family measure. -/
def quantities (family : FamilyCode) : List Quantity :=
  if family = thermometer then [.temperature]
  else if family = batteryMonitor then [.temperature, .vad, .vdd]
  else []

/-- The part that a family code stands for. -/
def partName? (family : FamilyCode) : Option String :=
  if family = thermometer then some "DS18B20"
  else if family = batteryMonitor then some "DS2438"
  else if family = serialNumber then some "DS2411"
  else none

/-- The longest conversion of a family in milliseconds. -/
def conversionTime (family : FamilyCode) : Nat :=
  if family = thermometer then 750
  else if family = batteryMonitor then 10
  else 0

end Family

end WireBridge
