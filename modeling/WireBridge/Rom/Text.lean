/-
**The dotted text form of ROM codes.**

A code is written as the two hexadecimal digits of its family, a dot and the twelve digits of its
serial bytes in transmission order, as in `28.8F0945161302`. The check byte is not written: reading
computes it, so every code that is read is valid.

* `Address.text`: the written form, with capital digits;
* `Address.parse`: reads digits of either case. A text of another length than fifteen bytes is
  refused first, then one without a dot in third place, then one with a character that is no digit.
-/

import WireBridge.Action
import WireBridge.Rom.Address
import WireBridge.Text.Hex

namespace WireBridge

/-- Why a text is not the dotted form of a ROM code. -/
inductive AddressError where
  | invalidLength
  | missingSeparator
  | invalidDigit
deriving DecidableEq

instance : Diagnostic AddressError where
  name
    | .invalidLength => "InvalidLength"
    | .missingSeparator => "MissingSeparator"
    | .invalidDigit => "InvalidDigit"
  message
    | .invalidLength => "address must be 15 characters"
    | .missingSeparator => "address must be FF.SSSSSSSSSSSS"
    | .invalidDigit => "address contains a non-hex digit"

namespace Address

/-- The characters of the dotted form. -/
def textChars (address : Address) : List Char :=
  Hex.pair (address.byte 0) ++ '.' :: ((address.bytes.drop 1).take 6).flatMap Hex.pair

/-- The dotted form. -/
def text (address : Address) : String :=
  String.ofList address.textChars

/-- Read the dotted form from the bytes of a text, each given as the character with its code. -/
def parseBytes (text : List Char) : Except AddressError Address :=
  if text.length ≠ 15 then .error .invalidLength
  else if text[2]? ≠ some '.' then .error .missingSeparator
  else
    match Hex.bytes? (text.take 2 ++ text.drop 3) with
    | none => .error .invalidDigit
    | some payload => .ok (ofPayload payload)

/-- Read the dotted form. -/
def parse (text : String) : Except AddressError Address :=
  parseBytes (text.toUTF8.data.toList.map fun byte => Char.ofNat byte.toNat)

end Address

end WireBridge
