/-
**The eight-bit check of ROM codes and scratchpads.**

The check is a shift register over the polynomial `x⁸ + x⁵ + x⁴ + 1`, fed least significant bit
first, so the feedback is the reflected constant `0x8c`.

* `shift`: one bit time of the register;
* `step`: one byte, through a table of the 256 registers after eight bit times;
* `check`, `valid`: a byte sequence, and a sequence that ends in its own check byte.
-/

namespace WireBridge.Crc

/-- The feedback of the reflected polynomial. -/
def feedback : UInt8 := 0x8c

/-- One bit time: the register moves towards its low end and a bit that falls out feeds back. -/
def shift (register : UInt8) : UInt8 :=
  if register &&& 1 = 1 then (register >>> 1) ^^^ feedback else register >>> 1

/-- Eight bit times, which consume one byte. -/
def shiftByte (register : UInt8) : UInt8 :=
  shift (shift (shift (shift (shift (shift (shift (shift register)))))))

/-- The register after eight bit times, for every register. -/
def table : Vector UInt8 256 :=
  Vector.ofFn fun index => shiftByte (UInt8.ofNat index)

/-- Feed one byte. -/
def step (register byte : UInt8) : UInt8 :=
  have inside : (register ^^^ byte).toNat < 256 := (register ^^^ byte).toNat_lt
  table[(register ^^^ byte).toNat]

/-- The table holds what eight bit times check. -/
theorem step_eq (register byte : UInt8) : step register byte = shiftByte (register ^^^ byte) := by
  have index : UInt8.ofNat (register ^^^ byte).toNat = register ^^^ byte := UInt8.ofNat_toNat
  simp only [step, table, Vector.getElem_ofFn, index]

/-- The check of a byte sequence. -/
def check (bytes : List UInt8) : UInt8 :=
  bytes.foldl step 0

/-- Whether a sequence ends in the check of what comes before: the register is then zero. -/
def valid (bytes : List UInt8) : Bool :=
  check bytes == 0

/-- The register before the first byte and after each byte. -/
def registers (bytes : List UInt8) : List UInt8 :=
  0 :: go 0 bytes
where
  /-- The registers after each byte, from a given register. -/
  go (register : UInt8) : List UInt8 → List UInt8
    | [] => []
    | byte :: rest => step register byte :: go (step register byte) rest

end WireBridge.Crc
