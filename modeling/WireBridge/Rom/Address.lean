/-
**ROM codes of 1-Wire devices.**

A ROM code has 64 bits: the family code in bits 0 to 7, a 48-bit serial number in bits 8 to 55 and
the check of the first seven bytes in bits 56 to 63. Codes are sent byte by byte, least significant
byte first and least significant bit first, and are ordered by their numeric value.

* `Address.bytes`, `Address.ofBytes`: the bytes in transmission order;
* `Address.valid`: the check byte fits the other seven;
* `Address.ofPayload`: seven bytes completed by their check byte.
-/

import WireBridge.Rom.Crc

namespace WireBridge

/-- The code in the first byte of a ROM code, which tells the kind of device. -/
abbrev FamilyCode := UInt8

/-- A ROM code. -/
structure Address where
  /-- The 64-bit value. -/
  raw : BitVec 64
deriving DecidableEq, Inhabited

namespace Address

/-- The code with all bits zero, which no device has. -/
def zero : Address := ⟨0⟩

/-- The bit sent at a position, 0 to 63. -/
def bit (address : Address) (position : Nat) : Bool :=
  address.raw.getLsbD position

/-- The code with one bit replaced. -/
def setBit (address : Address) (position : Nat) (value : Bool) : Address :=
  let mask := BitVec.twoPow 64 position
  ⟨if value then address.raw ||| mask else address.raw &&& ~~~mask⟩

/-- The byte sent at a position, 0 to 7. -/
def byte (address : Address) (position : Nat) : UInt8 :=
  ⟨address.raw.extractLsb' (8 * position) 8⟩

/-- The bytes in transmission order. -/
def bytes (address : Address) : List UInt8 :=
  [address.byte 0, address.byte 1, address.byte 2, address.byte 3,
    address.byte 4, address.byte 5, address.byte 6, address.byte 7]

/-- The number whose base-256 digits are the given bytes, least significant first. -/
def littleEndian (bytes : List UInt8) : Nat :=
  bytes.foldr (fun byte above => byte.toNat + 256 * above) 0

/-- The code with the given bytes in transmission order. -/
def ofBytes (bytes : List UInt8) : Address :=
  ⟨BitVec.ofNat 64 (littleEndian bytes)⟩

/-- Seven bytes completed by their check byte. -/
def ofPayload (payload : List UInt8) : Address :=
  ofBytes (payload ++ [Crc.check payload])

/-- The family code. -/
def family (address : Address) : FamilyCode :=
  address.byte 0

/-- The 48-bit serial number. -/
def serial (address : Address) : BitVec 48 :=
  address.raw.extractLsb' 8 48

/-- The check byte that the code carries. -/
def crc (address : Address) : UInt8 :=
  address.byte 7

/-- Whether the check byte fits the other seven. -/
def valid (address : Address) : Bool :=
  Crc.valid address.bytes

/-- The valid code of a family and a serial number, of which the low 48 bits count. -/
def ofParts (family : FamilyCode) (serial : BitVec 64) : Address :=
  ofPayload ((⟨(serial <<< 8) ||| family.toBitVec.setWidth 64⟩ : Address).bytes.take 7)

instance : LT Address := ⟨fun first second => first.raw < second.raw⟩

instance : LE Address := ⟨fun first second => first.raw ≤ second.raw⟩

instance (first second : Address) : Decidable (first < second) :=
  inferInstanceAs (Decidable (first.raw < second.raw))

instance (first second : Address) : Decidable (first ≤ second) :=
  inferInstanceAs (Decidable (first.raw ≤ second.raw))

instance : Ord Address := ⟨fun first second => compare first.raw.toNat second.raw.toNat⟩

/-- A list of codes in ascending order, each once. -/
def sorted (addresses : List Address) : List Address :=
  (addresses.mergeSort fun first second => first ≤ second).eraseReps

end Address

end WireBridge
