/-
**A pass on the bytes of a code.**

A code is kept in eight bytes, and a pass goes through them with the number of a byte and a mask of
one bit. Here is that loop with every look at a byte checked, so that one outside the code would
show.

* `Search.Cursor`: a byte and a bit of it; `Search.Cursor.advance` moves on to the next bit;
* `Search.Cursor.walk`: the loop, which ends after position 64;
* `Search.Cursor.walk_start`: it does what `Search.walk` does on the bits of a code;
* `Search.Cursor.walk_inside`: so it never looks outside the eight bytes.
-/

import WireBridge.Bus.Search
import WireBridge.Proofs.Rom.Bytes
import WireBridge.Proofs.Rom.Families

namespace WireBridge.Search

/-- A position of a pass, counted from one, with the number of its byte and the mask of its bit. -/
structure Cursor where
  /-- The position. -/
  position : Nat
  /-- The number of the byte. -/
  index : Nat
  /-- The mask of the bit. -/
  mask : UInt8
deriving DecidableEq

namespace Cursor

/-- A byte with one bit replaced. -/
def stamp (byte mask : UInt8) (value : Bool) : UInt8 :=
  if value then byte ||| mask else byte &&& ~~~mask

/-- The first bit of the first byte. -/
def start : Cursor := ⟨1, 0, 1⟩

/-- The next bit: the mask is shifted, and a mask without a bit starts another byte. -/
def advance (cursor : Cursor) : Cursor :=
  let mask := cursor.mask <<< 1
  if mask = 0 then ⟨cursor.position + 1, cursor.index + 1, 1⟩
  else ⟨cursor.position + 1, cursor.index, mask⟩

/-- The bit of some bytes; nothing if the byte is none of them. -/
def read? (cursor : Cursor) (bytes : List UInt8) : Option Bool :=
  bytes[cursor.index]?.map fun byte => decide (0 < byte &&& cursor.mask)

/-- Some bytes with another bit; nothing if the byte is none of them. -/
def write? (cursor : Cursor) (bytes : List UInt8) (value : Bool) : Option (List UInt8) :=
  bytes[cursor.index]?.map fun byte =>
    bytes.set cursor.index (stamp byte cursor.mask value)

/-- The branch to take at a discrepancy. -/
def direction? (cursor : Cursor) (lastDiscrepancy : Nat) (bytes : List UInt8) : Option Bool :=
  if cursor.position < lastDiscrepancy then cursor.read? bytes
  else some (cursor.position == lastDiscrepancy)

variable {σ ε : Type} (master : Master σ ε)

/-- The loop of a pass. It fails without an error of the line if it looks outside the bytes. -/
def walk (lastDiscrepancy : Nat) (cursor : Cursor) (lastZero : Nat) :
    Action (List UInt8 × σ) (Option (BusError ε)) (Option Nat) := do
  let (bytes, _) ← Action.current
  match cursor.direction? lastDiscrepancy bytes with
  | none => Action.fail none
  | some direction => do
    let triplet ← (Action.onSecond (slots master direction)).mapError some
    if triplet.id && triplet.complement then pure none
    else
      match cursor.write? bytes triplet.taken with
      | none => Action.fail none
      | some written => do
        Action.update fun (_, line) => (written, line)
        let lastZero :=
          if triplet.id || triplet.complement || triplet.taken then lastZero else cursor.position
        if _more : cursor.position < 64 then walk lastDiscrepancy cursor.advance lastZero
        else pure (some lastZero)
termination_by 64 - cursor.position
decreasing_by
  have next : cursor.advance.position = cursor.position + 1 := by
    unfold advance
    dsimp only
    split <;> rfl
  omega

/-! ### Cursors in a code -/

/-- The cursor at a position, counted from zero. -/
def place (position : Nat) : Cursor :=
  ⟨position + 1, position / 8, ⟨BitVec.twoPow 8 (position % 8)⟩⟩

theorem advance_place {position : Nat} (inside : position < 64) :
    (place position).advance = place (position + 1) := by
  have table : ∀ position : Fin 64, (place position).advance = place (position + 1) := by
    decide +kernel
  exact table ⟨position, inside⟩

/-- **The cursor at a position is in the code.** -/
theorem index_place {position : Nat} (inside : position < 64) : (place position).index < 8 :=
  Nat.div_lt_of_lt_mul inside

/-- A mask of one bit tells whether a byte has it. -/
theorem and_twoPow (byte : UInt8) {bit : Nat} (inside : bit < 8) :
    decide (0 < byte &&& ⟨BitVec.twoPow 8 bit⟩) = byte.toBitVec.getLsbD bit := by
  have table : ∀ byte : Fin 256, ∀ bit : Fin 8,
      decide (0 < UInt8.ofFin byte &&& ⟨BitVec.twoPow 8 bit⟩) =
        (UInt8.ofFin byte).toBitVec.getLsbD bit := by
    decide +kernel
  exact table byte.toFin ⟨bit, inside⟩

/-- The cursor reads the bit of its position. -/
theorem read_place (code : Address) {position : Nat} (inside : position < 64) :
    (place position).read? code.bytes = some (code.bit position) := by
  unfold read?
  rw [Address.bytes_getElem? code (index_place inside), Option.map_some]
  show some (decide (0 < code.byte (position / 8) &&& ⟨BitVec.twoPow 8 (position % 8)⟩)) = _
  have low : position % 8 < 8 := Nat.mod_lt _ (by decide)
  rw [and_twoPow _ low, Address.getLsbD_byte code _ low, Nat.div_add_mod]

theorem getLsbD_stamp (byte : UInt8) (bit : Nat) (value : Bool) {asked : Nat} (inside : asked < 8) :
    (stamp byte ⟨BitVec.twoPow 8 bit⟩ value).toBitVec.getLsbD asked =
      if asked = bit then value else byte.toBitVec.getLsbD asked := by
  unfold stamp
  by_cases same : asked = bit
  · subst same
    cases value <;> simp [inside]
  · have other : ¬ bit = asked := fun equal => same equal.symm
    cases value <;> simp [inside, same]

/-- The byte of a bit is the only one that changes with it. -/
theorem byte_setBit (code : Address) {position : Nat} (inside : position < 64) (value : Bool)
    (index : Nat) :
    (code.setBit position value).byte index =
      if position / 8 = index then
        stamp (code.byte index) ⟨BitVec.twoPow 8 (position % 8)⟩ value
      else code.byte index := by
  refine UInt8.eq_of_toBitVec_eq (BitVec.eq_of_getLsbD_eq fun asked within => ?_)
  rw [Address.getLsbD_byte _ _ within, Address.bit_setBit _ inside]
  by_cases here : position / 8 = index
  · have same : 8 * index + asked = position ↔ asked = position % 8 := by omega
    rw [if_pos here, getLsbD_stamp _ _ _ within, Address.getLsbD_byte _ _ within]
    simp only [same]
  · have other : ¬ 8 * index + asked = position := by omega
    rw [if_neg here, if_neg other, Address.getLsbD_byte _ _ within]

/-- The cursor writes the bit of its position. -/
theorem write_place (code : Address) {position : Nat} (inside : position < 64) (value : Bool) :
    (place position).write? code.bytes value = some (code.setBit position value).bytes := by
  unfold write?
  rw [Address.bytes_getElem? code (index_place inside), Option.map_some]
  refine congrArg some (List.ext_getElem? fun index => ?_)
  show (code.bytes.set (position / 8) (stamp _ _ value))[index]? = _
  by_cases within : index < 8
  · have length : code.bytes.length = 8 := rfl
    rw [List.getElem?_set, Address.bytes_getElem? code within, Address.bytes_getElem? _ within,
      byte_setBit code inside, length]
    by_cases here : position / 8 = index
    · subst here
      rw [if_pos rfl, if_pos within, if_pos rfl]
      rfl
    · rw [if_neg here, if_neg here]
  · have beyond : 8 ≤ index := Nat.le_of_not_lt within
    rw [List.getElem?_eq_none (by rw [List.length_set]; exact beyond), List.getElem?_eq_none beyond]

/-- The cursor asks for the branch of its position. -/
theorem direction_place (search : Search) {position : Nat} (inside : position < 64) :
    (place position).direction? search.lastDiscrepancy search.rom.bytes =
      some (search.direction (position + 1)) := by
  unfold direction? direction
  show (if position + 1 < search.lastDiscrepancy then _ else _) = _
  by_cases before : position + 1 < search.lastDiscrepancy
  · rw [if_pos before, if_pos before, read_place search.rom inside, Nat.add_sub_cancel]
  · rw [if_neg before, if_neg before]
    rfl

/-! ### The loop -/

/-- What a pass on bits tells and leaves, on bytes: the outcome is never that it looked outside. -/
def onBytes {α : Type} (result : Except (BusError ε) α × Search × σ) :
    Except (Option (BusError ε)) α × List UInt8 × σ :=
  (result.1.mapError some, (result.2.1.rom.bytes, result.2.2))

/-- One position, before what follows it. -/
theorem walk_position {left position lastZero : Nat} (here : left + position = 63)
    {search : Search} {line : σ}
    (rest : ∀ (lastZero : Nat) (taken : Bool) (reached : σ),
      (if _more : (place position).position < 64 then
          walk master search.lastDiscrepancy (place position).advance lastZero
        else pure (some lastZero)).perform
          ((search.rom.setBit position taken).bytes, reached) =
        onBytes ((Search.walk master left lastZero).perform
          (search.follow (position + 1) taken, reached))) :
    (walk master search.lastDiscrepancy (place position) lastZero).perform
        (search.rom.bytes, line) =
      onBytes ((Search.walk master (left + 1) lastZero).perform (search, line)) := by
  have inside : position < 64 := by omega
  have next : 64 - left = position + 1 := by omega
  rw [walk, Search.walk]
  simp only [Action.perform_bind, Action.perform_current, direction_place search inside, next,
    Action.perform_mapError, Action.perform_onSecond]
  generalize (slots master (search.direction (position + 1))).perform line = answered
  obtain ⟨error | triplet, reached⟩ := answered
  · rfl
  · have kept : (Except.ok triplet : Except (BusError ε) Triplet).mapError some = .ok triplet := rfl
    by_cases lost : (triplet.id && triplet.complement) = true
    · simp only [kept, lost, if_true]
      rfl
    · simp only [kept, if_neg lost, write_place search.rom inside]
      exact rest _ triplet.taken reached

/-- **From any position on**, the loop does what the walk does. -/
theorem walk_place (left : Nat) : ∀ {position : Nat}, left + position = 63 →
    ∀ (lastZero : Nat) (search : Search) (line : σ),
      (walk master search.lastDiscrepancy (place position) lastZero).perform
          (search.rom.bytes, line) =
        onBytes ((Search.walk master (left + 1) lastZero).perform (search, line)) := by
  induction left with
  | zero =>
    intro position here lastZero search line
    refine walk_position master here fun lastZero taken reached => ?_
    have last : ¬ (place position).position < 64 := by
      show ¬ position + 1 < 64
      omega
    rw [dif_neg last]
    rfl
  | succ left ih =>
    intro position here lastZero search line
    refine walk_position master here fun lastZero taken reached => ?_
    have more : (place position).position < 64 := by
      show position + 1 < 64
      omega
    rw [dif_pos more, advance_place (by omega)]
    exact ih (by omega) lastZero (search.follow (position + 1) taken) reached

/-- **The loop on bytes is the walk on bits.** -/
theorem walk_start (search : Search) (line : σ) :
    (walk master search.lastDiscrepancy start 0).perform (search.rom.bytes, line) =
      onBytes ((Search.walk master 64 0).perform (search, line)) :=
  walk_place master 63 rfl 0 search line

/-- **The loop never looks outside the bytes.** -/
theorem walk_inside (search : Search) (line : σ) (after : List UInt8 × σ) :
    (walk master search.lastDiscrepancy start 0).perform (search.rom.bytes, line) ≠
      (.error none, after) := by
  rw [walk_start]
  generalize (Search.walk master 64 0).perform (search, line) = walked
  obtain ⟨error | last, reached⟩ := walked
  · intro outside
    have told : (Except.error (some error) : Except (Option (BusError ε)) (Option Nat)) =
      .error none := congrArg Prod.fst outside
    exact nomatch told
  · intro outside
    have told : (Except.ok last : Except (Option (BusError ε)) (Option Nat)) =
      .error none := congrArg Prod.fst outside
    exact nomatch told

end Cursor

end WireBridge.Search
