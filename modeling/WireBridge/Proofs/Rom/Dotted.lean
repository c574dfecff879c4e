/-
**The dotted form is exact.**

Codes and their texts determine each other: a text is read if and only if it is two hexadecimal
digits, a dot and twelve more digits, and what was read is written as the same text in capitals.

* `Hex.bytes?_eq_some`, `Hex.exists_bytes?`: which characters are the digits of bytes;
* `Address.toList_eq_byteChars`: a text whose bytes are all plain consists of them;
* `Address.bytes_ofPayload`, `Address.ofPayload_eq_iff`: what the check byte of a code decides;
* `Address.parse_ok_iff`: the code of a text;
* `Address.Written`: what the text of a code tells of it;
* `Address.Understood`: which texts are read, and why the others are not;
* `Address.parse_exact`: all codes are so written and all texts are so understood.
-/

import Mathlib.Data.List.Basic
import WireBridge.Proofs.Rom.Families
import WireBridge.Proofs.Rom.Text

namespace WireBridge

/-! ### Digits -/

namespace Hex

variable {char : Char}

/-- A hexadecimal digit of either case. -/
def IsDigit (char : Char) : Prop :=
  ('0' ≤ char ∧ char ≤ '9') ∨ ('A' ≤ char ∧ char ≤ 'F') ∨ ('a' ≤ char ∧ char ≤ 'f')

instance (char : Char) : Decidable (IsDigit char) := inferInstanceAs (Decidable (_ ∨ _))

theorem isSome_value?_iff : (value? char).isSome = true ↔ IsDigit char := by
  unfold value? IsDigit
  split
  · next decimal => simp [decimal]
  · next notDecimal =>
    split
    · next capital => simp [capital]
    · next notCapital => split <;> simp_all

theorem IsDigit.toNat_le (digit : IsDigit char) : char.toNat ≤ 127 := by
  have below {last : Char} (upTo : char ≤ last) (plain : last.toNat ≤ 127) : char.toNat ≤ 127 :=
    Nat.le_trans upTo plain
  rcases digit with ⟨_, upTo⟩ | ⟨_, upTo⟩ | ⟨_, upTo⟩
  · exact below upTo (by decide)
  · exact below upTo (by decide)
  · exact below upTo (by decide)

/-- The digit of a value is that from which it was read, as a capital. -/
theorem digit_of_value? {value : Nat} (read : value? char = some value) :
    value < 16 ∧ digit value = char.toUpper := by
  have table : ∀ code : Fin 128, (value? (Char.ofNat code)).all fun value =>
      decide (value < 16) && digit value == (Char.ofNat code).toUpper := by
    decide +kernel
  have plain : char.toNat ≤ 127 := (isSome_value?_iff.mp (Option.isSome_of_eq_some read)).toNat_le
  have here := table ⟨char.toNat, Nat.lt_succ_of_le plain⟩
  rw [Char.ofNat_toNat, read] at here
  simpa using here

/-- **What was read as bytes** are their digits, of either case. -/
theorem bytes?_eq_some {digits : List Char} {bytes : List UInt8}
    (read : bytes? digits = some bytes) :
    digits.length = 2 * bytes.length ∧ (∀ char ∈ digits, IsDigit char) ∧
      bytes.flatMap pair = digits.map Char.toUpper := by
  fun_induction bytes? digits generalizing bytes with
  | case1 =>
    obtain rfl := Option.some.inj read
    exact ⟨rfl, fun _ member => absurd member List.not_mem_nil, rfl⟩
  | case2 => exact absurd read (Option.some_ne_none _).symm
  | case3 high low rest ih =>
    obtain ⟨upper, upperRead, read⟩ := Option.bind_eq_some_iff.mp read
    obtain ⟨lower, lowerRead, read⟩ := Option.bind_eq_some_iff.mp read
    obtain ⟨others, othersRead, read⟩ := Option.bind_eq_some_iff.mp read
    obtain rfl := Option.some.inj read
    obtain ⟨length, digits, written⟩ := ih othersRead
    obtain ⟨upperSmall, upperWritten⟩ := digit_of_value? upperRead
    obtain ⟨lowerSmall, lowerWritten⟩ := digit_of_value? lowerRead
    have whole : (UInt8.ofNat (16 * upper + lower)).toNat = 16 * upper + lower :=
      Nat.mod_eq_of_lt (by omega)
    refine ⟨by simp only [List.length_cons, length]; omega, ?_, ?_⟩
    · exact List.forall_mem_cons.mpr ⟨isSome_value?_iff.mp (Option.isSome_of_eq_some upperRead),
        List.forall_mem_cons.mpr
          ⟨isSome_value?_iff.mp (Option.isSome_of_eq_some lowerRead), digits⟩⟩
    · have first : pair (UInt8.ofNat (16 * upper + lower)) = [high.toUpper, low.toUpper] := by
        rw [pair, whole, show (16 * upper + lower) / 16 = upper by omega,
          show (16 * upper + lower) % 16 = lower by omega, upperWritten, lowerWritten]
      rw [List.flatMap_cons, first, written]
      rfl

/-- **Digits are read as bytes** if they come in pairs. -/
theorem exists_bytes? {digits : List Char} {count : Nat} (length : digits.length = 2 * count)
    (hexadecimal : ∀ char ∈ digits, IsDigit char) : ∃ bytes, bytes? digits = some bytes := by
  induction count generalizing digits with
  | zero =>
    obtain rfl := List.eq_nil_of_length_eq_zero length
    exact ⟨[], rfl⟩
  | succ count ih =>
    match digits, length with
    | high :: low :: rest, length =>
      obtain ⟨highDigit, others⟩ := List.forall_mem_cons.mp hexadecimal
      obtain ⟨lowDigit, others⟩ := List.forall_mem_cons.mp others
      obtain ⟨upper, upperRead⟩ := Option.isSome_iff_exists.mp (isSome_value?_iff.mpr highDigit)
      obtain ⟨lower, lowerRead⟩ := Option.isSome_iff_exists.mp (isSome_value?_iff.mpr lowDigit)
      have fewer : rest.length = 2 * count := by
        simp only [List.length_cons] at length
        omega
      obtain ⟨bytes, read⟩ := ih fewer others
      exact ⟨_, by rw [bytes?, upperRead, lowerRead, read]; rfl⟩

end Hex

namespace Address

/-! ### Check bytes -/

theorem littleEndian_lt (bytes : List UInt8) : littleEndian bytes < 256 ^ bytes.length := by
  induction bytes with
  | nil => exact Nat.one_pos
  | cons byte rest ih =>
    have small := byte.toNat_lt
    show byte.toNat + 256 * littleEndian rest < 256 ^ (rest.length + 1)
    rw [Nat.pow_succ]
    omega

/-- The base-256 digits of a number are the bytes of which it was made. -/
theorem littleEndian_digit (bytes : List UInt8) (place : Nat) :
    littleEndian bytes / 256 ^ place % 256 = (bytes.getD place 0).toNat := by
  induction bytes generalizing place with
  | nil => exact (congrArg (· % 256) (Nat.zero_div _)).trans (Nat.zero_mod _)
  | cons byte rest ih =>
    have small := byte.toNat_lt
    show (byte.toNat + 256 * littleEndian rest) / 256 ^ place % 256 = _
    cases place with
    | zero =>
      rw [Nat.pow_zero, Nat.div_one, List.getD_cons_zero]
      omega
    | succ place =>
      have first : (byte.toNat + 256 * littleEndian rest) / 256 = littleEndian rest := by omega
      rw [Nat.pow_succ', ← Nat.div_div_eq_div_mul, first, ih, List.getD_cons_succ]

theorem byte_ofBytes {bytes : List UInt8} (few : bytes.length ≤ 8) (place : Nat) :
    (ofBytes bytes).byte place = bytes.getD place 0 := by
  have small : littleEndian bytes < 2 ^ 64 :=
    Nat.lt_of_lt_of_le (littleEndian_lt bytes) (Nat.pow_le_pow_right (by decide) few)
  refine UInt8.toNat_inj.mp ?_
  rw [toNat_byte, ← littleEndian_digit, Nat.pow_mul]
  show (BitVec.ofNat 64 (littleEndian bytes)).toNat / 256 ^ place % 256 = _
  rw [BitVec.toNat_ofNat, Nat.mod_eq_of_lt small]

/-- A code has the bytes of which it was made. -/
theorem bytes_ofBytes {bytes : List UInt8} (length : bytes.length = 8) :
    (ofBytes bytes).bytes = bytes := by
  refine List.ext_getElem? fun place => ?_
  by_cases inside : place < 8
  · have there : place < bytes.length := length ▸ inside
    rw [bytes_getElem? _ inside, byte_ofBytes (Nat.le_of_eq length), List.getD_eq_getElem?_getD,
      List.getElem?_eq_getElem there]
    rfl
  · have outside : 8 ≤ place := Nat.le_of_not_lt inside
    have beyond : bytes.length ≤ place := length ▸ outside
    rw [List.getElem?_eq_none beyond]
    exact List.getElem?_eq_none outside

/-- A code made of seven bytes has these and their check. -/
theorem bytes_ofPayload {payload : List UInt8} (length : payload.length = 7) :
    (ofPayload payload).bytes = payload ++ [Crc.check payload] :=
  bytes_ofBytes (by rw [List.length_append, length]; rfl)

theorem valid_ofPayload {payload : List UInt8} (length : payload.length = 7) :
    (ofPayload payload).valid = true := by
  rw [Address.valid, bytes_ofPayload length, Crc.valid_append]

theorem valid_iff_crc (address : Address) :
    address.valid = true ↔ address.crc = Crc.check (address.bytes.take 7) :=
  Crc.valid_append (address.bytes.take 7) address.crc

/-- **Completing the first seven bytes of a code** gives it back if and only if it is valid. -/
theorem ofPayload_eq_iff (address : Address) :
    ofPayload (address.bytes.take 7) = address ↔ address.valid = true :=
  ⟨fun same => same ▸ valid_ofPayload rfl, ofPayload_bytes⟩

/-- A family and a serial number are the first seven bytes of a code. -/
theorem ofParts_eq (address : Address) :
    ofParts address.family (address.serial.setWidth 64) = ofPayload (address.bytes.take 7) := by
  have same {place : Nat} (inside : place < 7) :
      (⟨(address.serial.setWidth 64 <<< 8) ||| address.family.toBitVec.setWidth 64⟩ :
        Address).byte place = address.byte place := by
    refine byte_eq_iff.mpr fun position below => ?_
    have within : 8 * place + position < 56 := by omega
    generalize 8 * place + position = sent at within
    have bits : address.family.toBitVec = address.raw.extractLsb' 0 8 := rfl
    simp only [Address.bit, bits, Address.serial, BitVec.getLsbD_or, BitVec.getLsbD_shiftLeft,
      BitVec.getLsbD_setWidth, BitVec.getLsbD_extractLsb']
    rcases Nat.lt_or_ge sent 8 with family | serial
    · simp [family, Nat.lt_of_lt_of_le within]
    · have inside : sent - 8 < 48 := by omega
      have above : ¬ sent < 8 := Nat.not_lt.mpr serial
      have word : sent - 8 < 64 := by omega
      simp [above, inside, word, Nat.lt_of_lt_of_le within, Nat.add_sub_cancel' serial]
  have bytes (code : Address) : code.bytes.take 7 = (List.range 7).map code.byte := rfl
  unfold ofParts
  rw [bytes, bytes]
  exact congrArg ofPayload (List.map_congr_left fun place member => same (List.mem_range.mp member))

/-! ### Texts -/

/-- Two digits, a dot and twelve digits. -/
def Dotted (text : String) : Prop :=
  ∃ family serial, text.toList = family ++ '.' :: serial ∧ family.length = 2 ∧
    serial.length = 12 ∧ ∀ char ∈ family ++ serial, Hex.IsDigit char

/-- The third byte of a text is a dot. -/
def Separated (text : String) : Prop := text.toUTF8.data[2]? = some 0x2e

/-- The bytes of a text, each given as the character with its code. -/
def byteChars (text : String) : List Char :=
  text.toUTF8.data.toList.map fun byte => Char.ofNat byte.toNat

theorem length_byteChars (text : String) : (byteChars text).length = text.utf8ByteSize :=
  List.length_map _

theorem char_injective : Function.Injective fun byte : UInt8 => Char.ofNat byte.toNat := by
  intro first second same
  have code (byte : UInt8) : (Char.ofNat byte.toNat).toNat = byte.toNat := by
    have table : ∀ byte : Fin 256, (Char.ofNat byte.val).toNat = byte.val := by decide +kernel
    exact table byte.toFin
  have codes : (Char.ofNat first.toNat).toNat = (Char.ofNat second.toNat).toNat :=
    congrArg Char.toNat same
  rw [code, code] at codes
  exact UInt8.toNat_inj.mp codes

theorem byteChars_injective {first second : String} (same : byteChars first = byteChars second) :
    first = second :=
  String.toByteArray_inj.mp (ByteArray.ext (Array.toList_inj.mp
    (List.map_injective_iff.mpr char_injective same)))

/-- **A text whose bytes are all plain** consists of them. -/
theorem toList_eq_byteChars {text : String}
    (plain : ∀ char ∈ byteChars text, char.toNat ≤ 127) : text.toList = byteChars text := by
  have same : String.ofList (byteChars text) = text := byteChars_injective (utf8_ascii plain)
  rw [← congrArg String.toList same, String.toList_ofList]

theorem byteChars_of_plain {text : String} (plain : ∀ char ∈ text.toList, char.toNat ≤ 127) :
    byteChars text = text.toList := by
  have bytes : byteChars (String.ofList text.toList) = text.toList := utf8_ascii plain
  rwa [String.ofList_toList] at bytes

theorem byteChars_dot {text : String} :
    (byteChars text)[2]? = some '.' ↔ Separated text := by
  rw [byteChars, List.getElem?_map, Array.getElem?_toList]
  exact (Option.map_injective char_injective).eq_iff (b := some 0x2e)

/-- A text with a dot in third place. -/
theorem exists_split {chars : List Char} (length : chars.length = 15)
    (dot : chars[2]? = some '.') :
    chars = chars.take 2 ++ '.' :: chars.drop 3 ∧ (chars.take 2).length = 2 ∧
      (chars.drop 3).length = 12 := by
  obtain ⟨inside, here⟩ := List.getElem?_eq_some_iff.mp dot
  refine ⟨?_, by rw [List.length_take, length]; rfl, by rw [List.length_drop, length]⟩
  rw [← here, ← List.drop_eq_getElem_cons inside, List.take_append_drop]

theorem Dotted.byteChars_eq {text : String} (dotted : Dotted text) :
    byteChars text = text.toList := by
  obtain ⟨family, serial, chars, _, _, digits⟩ := dotted
  refine byteChars_of_plain fun char member => ?_
  rw [chars, List.mem_append, List.mem_cons] at member
  rcases member with first | rfl | last
  · exact (digits char (List.mem_append_left _ first)).toNat_le
  · decide
  · exact (digits char (List.mem_append_right _ last)).toNat_le

/-- A dotted text has fifteen bytes, of which the third is a dot. -/
theorem Dotted.shape {text : String} (dotted : Dotted text) :
    text.utf8ByteSize = 15 ∧ Separated text := by
  have bytes := dotted.byteChars_eq
  obtain ⟨family, serial, chars, two, twelve, _⟩ := dotted
  rw [← length_byteChars, ← byteChars_dot, bytes, chars]
  refine ⟨by rw [List.length_append, List.length_cons, two, twelve], ?_⟩
  rw [List.getElem?_append_right (Nat.le_of_eq two), two]
  rfl

/-- What comes of reading a text: one case for each way out. -/
inductive Reading (text : String) : Except AddressError Address → Prop
  | length (other : text.utf8ByteSize ≠ 15) : Reading text (.error .invalidLength)
  | separator (length : text.utf8ByteSize = 15) (other : ¬ Separated text) :
    Reading text (.error .missingSeparator)
  | digit (length : text.utf8ByteSize = 15) (dot : Separated text)
      (other : ¬ Dotted text) : Reading text (.error .invalidDigit)
  | read {address : Address} (dotted : Dotted text) (valid : address.valid = true)
      (written : address.text = text.toUpper) : Reading text (.ok address)

/-- A code is written with the digits of its first seven bytes. -/
theorem text_eq (address : Address) :
    address.text =
      String.ofList (((address.bytes.take 7).flatMap Hex.pair).take 2 ++ '.' ::
        ((address.bytes.take 7).flatMap Hex.pair).drop 2) := rfl

/-- **What comes of reading a text.** -/
theorem reading (text : String) : Reading text (parse text) := by
  show Reading text (parseBytes (byteChars text))
  unfold parseBytes
  by_cases length : (byteChars text).length = 15
  · by_cases dot : (byteChars text)[2]? = some '.'
    · rw [if_neg (not_not_intro length), if_neg (not_not_intro dot)]
      obtain ⟨split, two, twelve⟩ := exists_split length dot
      have size : text.utf8ByteSize = 15 := length_byteChars text ▸ length
      generalize (byteChars text).take 2 = family at split two
      generalize (byteChars text).drop 3 = serial at split twelve
      have digits : (family ++ serial).length = 2 * 7 := by rw [List.length_append, two, twelve]
      cases read : Hex.bytes? (family ++ serial) with
      | none =>
        refine .digit size (byteChars_dot.mp dot) fun dotted => ?_
        obtain ⟨first, last, chars, firstTwo, _, hexadecimal⟩ := id dotted
        rw [← dotted.byteChars_eq, split] at chars
        obtain ⟨rfl, rest⟩ := List.append_inj chars (two.trans firstTwo.symm)
        obtain rfl := (List.cons.inj rest).2
        obtain ⟨bytes, known⟩ := Hex.exists_bytes? digits hexadecimal
        exact Option.some_ne_none bytes (known.symm.trans read)
      | some payload =>
        obtain ⟨count, hexadecimal, written⟩ := Hex.bytes?_eq_some read
        have seven : payload.length = 7 := by omega
        have chars : text.toList = family ++ '.' :: serial := by
          rw [← split]
          refine toList_eq_byteChars fun char member => ?_
          rw [split, List.mem_append, List.mem_cons] at member
          rcases member with first | rfl | last
          · exact (hexadecimal char (List.mem_append_left _ first)).toNat_le
          · decide
          · exact (hexadecimal char (List.mem_append_right _ last)).toNat_le
        refine .read ⟨family, serial, chars, two, twelve, hexadecimal⟩ (valid_ofPayload seven) ?_
        have capitals : text.toUpper.toList = text.toList.map Char.toUpper := String.toList_map
        rw [← String.ofList_toList (s := text.toUpper), capitals, chars, text_eq,
          bytes_ofPayload seven, List.take_left' seven, written, List.map_append, List.map_append,
          List.take_left' (by rw [List.length_map, two]),
          List.drop_left' (by rw [List.length_map, two])]
        rfl
    · rw [if_neg (not_not_intro length), if_pos dot]
      exact .separator (length_byteChars text ▸ length) (mt byteChars_dot.mpr dot)
  · rw [if_pos length]
    exact .length (length_byteChars text ▸ length)

/-- **The code of a dotted text** is the valid one that is written so in capitals. -/
theorem parse_ok_iff {text : String} {address : Address} :
    parse text = .ok address ↔
      Dotted text ∧ address.valid = true ∧ address.text = text.toUpper := by
  have reading := reading text
  generalize outcome : parse text = read at reading
  constructor
  · rintro rfl
    cases reading with
    | read dotted valid written => exact ⟨dotted, valid, written⟩
  · rintro ⟨dotted, valid, written⟩
    cases reading with
    | length other => exact absurd dotted.shape.1 other
    | separator _ other => exact absurd dotted.shape.2 other
    | digit _ _ other => exact absurd dotted other
    | read _ alsoValid alsoWritten =>
      rw [← parse_text valid, written, ← alsoWritten, parse_text alsoValid]

/-! ### Both ways -/

/-- What the text of a code tells of it: all but its check byte, which is computed anew when the
text is read. -/
structure Written (address : Address) : Prop where
  read : ∃ read, parse address.text = .ok read ∧
    read.bytes = address.bytes.take 7 ++ [Crc.check (address.bytes.take 7)]
  itself : parse address.text = .ok address ↔ address.valid = true
  check : address.valid = true ↔ address.crc = Crc.check (address.bytes.take 7)
  parts : address.valid = true ↔
    ofParts address.family (address.serial.setWidth 64) = address

theorem written (address : Address) : address.Written := by
  have read : parse address.text = .ok (ofPayload (address.bytes.take 7)) := by
    rw [parse, text, utf8_ascii (ascii_textChars address), parseBytes_textChars]
  constructor
  · exact ⟨_, read, bytes_ofPayload rfl⟩
  · rw [read, Except.ok.injEq]
    exact ofPayload_eq_iff address
  · exact valid_iff_crc address
  · rw [ofParts_eq, ofPayload_eq_iff]

/-- Which texts are read, as which codes, and what is wrong with the others: first of all their
length, then the missing dot, then a character that is no digit. -/
structure Understood (text : String) (outcome : Except AddressError Address) : Prop where
  accepted : (∃ address, outcome = .ok address) ↔ text.utf8ByteSize = 15 ∧ Dotted text
  written : ∀ address, outcome = .ok address →
    address.valid = true ∧ address.text = text.toUpper
  length : outcome = .error .invalidLength ↔ text.utf8ByteSize ≠ 15
  separator : outcome = .error .missingSeparator ↔ text.utf8ByteSize = 15 ∧ ¬ Separated text
  digit : outcome = .error .invalidDigit ↔
    text.utf8ByteSize = 15 ∧ Separated text ∧ ¬ Dotted text

theorem Reading.understood {text : String} {outcome : Except AddressError Address}
    (reading : Reading text outcome) : Understood text outcome := by
  cases reading with
  | length other => constructor <;> simp [other]
  | separator length other =>
    have undotted : ¬ Dotted text := fun dotted => other dotted.shape.2
    constructor <;> simp [length, other, undotted]
  | digit length dot other => constructor <;> simp [length, dot, other]
  | read dotted valid written =>
    obtain ⟨length, dot⟩ := dotted.shape
    constructor <;> simp [length, dot, dotted, valid, written]

/-- **The dotted form is exact**: every code is written in a form that tells all but its check byte,
and just the texts of that form are read, as the valid code that is written so in capitals. -/
theorem parse_exact (address : Address) (text : String) :
    address.Written ∧ Understood text (parse text) :=
  ⟨address.written, (reading text).understood⟩

end Address

end WireBridge
