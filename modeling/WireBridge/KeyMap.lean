/-
**Maps with ordered keys.**

A `KeyMap` is a list of entries whose keys ascend, so each key comes once. Keys are ordered by a
rank that tells them apart, so an enumeration of the map is always in the same order whatever the
history of insertions.

* `KeyMap.find?`, `KeyMap.insert`, `KeyMap.erase`: one key;
* `KeyMap.filter`, `KeyMap.mapValues`: all entries;
* `KeyMap.keys`, `KeyMap.entries`: the enumeration in key order.

The view of a map is `find?`. There is one law for each operation: `find?_insert` (the last write
wins), `find?_erase`, `find?_filter` and `find?_mapValues`; and `mem_entries_iff` ties the
enumeration to the view.
-/

namespace WireBridge

/-- Keys ordered by a number that tells them apart. -/
class Ranked (κ : Type) where
  /-- The place of a key in the order. -/
  rank : κ → Nat
  /-- Different keys have different places. -/
  rank_injective : ∀ first second, rank first = rank second → first = second

open Ranked (rank rank_injective)

/-- Entries in ascending order of their keys. -/
structure KeyMap (κ α : Type) [Ranked κ] where
  /-- The entries. -/
  entries : List (κ × α)
  /-- The keys ascend. -/
  ascending : entries.Pairwise fun first second => rank first.1 < rank second.1

namespace KeyMap

variable {κ α β : Type} [Ranked κ]

/-- The map without entries. -/
def empty : KeyMap κ α := ⟨[], .nil⟩

/-- Whether there is no entry. -/
def isEmpty (map : KeyMap κ α) : Bool := map.entries.isEmpty

/-- The number of entries. -/
def size (map : KeyMap κ α) : Nat := map.entries.length

/-- The keys in order. -/
def keys (map : KeyMap κ α) : List κ := map.entries.map Prod.fst

/-- The entries that satisfy a condition. -/
def filter (keep : κ → α → Bool) (map : KeyMap κ α) : KeyMap κ α where
  entries := map.entries.filter fun entry => keep entry.1 entry.2
  ascending := map.ascending.filter _

/-- The same keys with other values. -/
def mapValues (change : κ → α → β) (map : KeyMap κ α) : KeyMap κ β where
  entries := map.entries.map fun entry => (entry.1, change entry.1 entry.2)
  ascending := List.pairwise_map.mpr map.ascending

/-- The value stored under a key. -/
def find? (map : KeyMap κ α) (key : κ) : Option α :=
  (map.entries.find? fun entry => rank entry.1 == rank key).map Prod.snd

/-- Whether a key is stored. -/
def contains (map : KeyMap κ α) (key : κ) : Bool := (map.find? key).isSome

/-- Insert into ascending entries, in place of an entry with the same key. -/
def insertEntry (key : κ) (value : α) : List (κ × α) → List (κ × α)
  | [] => [(key, value)]
  | entry :: rest =>
    if rank key < rank entry.1 then (key, value) :: entry :: rest
    else if rank key = rank entry.1 then (key, value) :: rest
    else entry :: insertEntry key value rest

/-- What is inserted is the new entry or was there before. -/
theorem mem_of_mem_insertEntry {key : κ} {value : α} {entry : κ × α} {entries : List (κ × α)}
    (member : entry ∈ insertEntry key value entries) : entry = (key, value) ∨ entry ∈ entries := by
  induction entries with
  | nil => simpa [insertEntry] using member
  | cons head rest ih =>
    unfold insertEntry at member
    split at member
    · simpa using member
    · split at member
      · rcases List.mem_cons.mp member with new | old
        · exact .inl new
        · exact .inr (List.mem_cons_of_mem _ old)
      · rcases List.mem_cons.mp member with first | later
        · exact .inr (first ▸ List.mem_cons_self)
        · exact (ih later).imp id (List.mem_cons_of_mem _)

/-- Insertion keeps the order. -/
theorem insertEntry_ascending (key : κ) (value : α) {entries : List (κ × α)}
    (ascending : entries.Pairwise fun first second => rank first.1 < rank second.1) :
    (insertEntry key value entries).Pairwise fun first second =>
      rank first.1 < rank second.1 := by
  induction entries with
  | nil => simp [insertEntry]
  | cons head rest ih =>
    obtain ⟨above, ordered⟩ := List.pairwise_cons.mp ascending
    unfold insertEntry
    split
    · next below =>
      refine List.pairwise_cons.mpr ⟨fun entry member => ?_, ascending⟩
      rcases List.mem_cons.mp member with first | later
      · exact first ▸ below
      · exact Nat.lt_trans below (above entry later)
    · split
      · next same =>
        exact List.pairwise_cons.mpr ⟨fun entry member => same ▸ above entry member, ordered⟩
      · refine List.pairwise_cons.mpr ⟨fun entry member => ?_, ih ordered⟩
        rcases mem_of_mem_insertEntry member with new | old
        · subst new
          show rank head.1 < rank key
          omega
        · exact above entry old

/-- Store a value under a key. -/
def insert (map : KeyMap κ α) (key : κ) (value : α) : KeyMap κ α :=
  ⟨insertEntry key value map.entries, insertEntry_ascending key value map.ascending⟩

/-- Remove a key. -/
def erase (map : KeyMap κ α) (key : κ) : KeyMap κ α :=
  map.filter fun stored _ => rank stored != rank key

/-! ### The view -/

/-- Keys are equal when their ranks are. -/
theorem rank_eq_iff {first second : κ} : rank first = rank second ↔ first = second :=
  ⟨rank_injective first second, fun equal => equal ▸ rfl⟩

/-- A key has at most one entry. -/
theorem entry_unique {map : KeyMap κ α} {key : κ} {first second : α}
    (one : (key, first) ∈ map.entries) (other : (key, second) ∈ map.entries) : first = second := by
  obtain ⟨entries, ascending⟩ := map
  simp only at one other
  induction entries with
  | nil => cases one
  | cons head rest ih =>
    obtain ⟨above, ordered⟩ := List.pairwise_cons.mp ascending
    rcases List.mem_cons.mp one with atHead | inRest <;>
      rcases List.mem_cons.mp other with otherAtHead | otherInRest
    · exact congrArg Prod.snd (atHead.trans otherAtHead.symm)
    · exact absurd (above _ otherInRest) (by simp [← atHead])
    · exact absurd (above _ inRest) (by simp [← otherAtHead])
    · exact ih ordered inRest otherInRest

/-- The enumeration lists exactly the values that are found. -/
theorem mem_entries_iff {map : KeyMap κ α} {key : κ} {value : α} :
    (key, value) ∈ map.entries ↔ map.find? key = some value := by
  constructor
  · intro member
    unfold find?
    cases found : map.entries.find? fun entry => rank entry.1 == rank key with
    | none => exact absurd (List.find?_eq_none.mp found _ member) (by simp)
    | some entry =>
      have same : entry.1 = key := rank_eq_iff.mp (by simpa using List.find?_some found)
      have listed : (key, entry.2) ∈ map.entries := same ▸ List.mem_of_find?_eq_some found
      simp [entry_unique listed member]
  · intro found
    obtain ⟨entry, first, rfl⟩ := Option.map_eq_some_iff.mp found
    have same : entry.1 = key := rank_eq_iff.mp (by simpa using List.find?_some first)
    exact same ▸ List.mem_of_find?_eq_some first

/-- Maps with the same values under every key list the same entries. -/
theorem find?_eq_of_mem_iff {map : KeyMap κ α} {key : κ} {value : Option α}
    (listed : ∀ stored, (key, stored) ∈ map.entries ↔ value = some stored) :
    map.find? key = value := by
  cases found : map.find? key with
  | none =>
    cases value with
    | none => rfl
    | some stored => simp [mem_entries_iff.mp ((listed stored).mpr rfl)] at found
  | some stored => exact ((listed stored).mp (mem_entries_iff.mpr found)).symm

@[simp] theorem find?_empty (key : κ) : (empty : KeyMap κ α).find? key = none := rfl

/-- The last write wins, and no other key is touched. -/
theorem find?_insert [DecidableEq κ] (map : KeyMap κ α) (key other : κ) (value : α) :
    (map.insert key value).find? other = if key = other then some value else map.find? other := by
  obtain ⟨entries, ascending⟩ := map
  simp only [find?, insert]
  clear ascending
  induction entries with
  | nil => by_cases same : key = other <;> simp [insertEntry, same, rank_eq_iff]
  | cons head rest ih =>
    unfold insertEntry
    split
    · by_cases same : key = other <;> simp [same, rank_eq_iff]
    · split
      · next equal =>
        have same := rank_eq_iff.mp equal
        by_cases asked : key = other
        · simp [asked]
        · simp [asked, rank_eq_iff, ← same]
      · next different =>
        by_cases atHead : head.1 = other
        · have : key ≠ other := fun asked => different (by rw [asked, atHead])
          simp [atHead, this]
        · simp only [List.find?_cons, beq_eq_false_iff_ne.mpr (mt rank_eq_iff.mp atHead)]
          exact ih

/-- A condition on the entries is a condition on what is found. -/
theorem find?_filter (map : KeyMap κ α) (keep : κ → α → Bool) (key : κ) :
    (map.filter keep).find? key = (map.find? key).filter (keep key) := by
  refine find?_eq_of_mem_iff fun stored => ?_
  rw [Option.filter_eq_some_iff, ← mem_entries_iff]
  exact List.mem_filter

/-- A removed key is not found, and no other key is touched. -/
theorem find?_erase [DecidableEq κ] (map : KeyMap κ α) (key other : κ) :
    (map.erase key).find? other = if key = other then none else map.find? other := by
  unfold erase
  rw [find?_filter]
  by_cases same : key = other
  · simp [same]
  · have : (rank other != rank key) = true := by
      simpa using fun equal => same (rank_eq_iff.mp equal).symm
    simp only [this, if_neg same]
    cases map.find? other <;> rfl

/-- Changed values are found under the same keys. -/
theorem find?_mapValues (map : KeyMap κ α) (change : κ → α → β) (key : κ) :
    (map.mapValues change).find? key = (map.find? key).map (change key) := by
  refine find?_eq_of_mem_iff fun stored => ?_
  simp only [mapValues, List.mem_map, Prod.mk.injEq, Option.map_eq_some_iff, ← mem_entries_iff]
  constructor
  · rintro ⟨⟨_, value⟩, member, rfl, rfl⟩
    exact ⟨value, member, rfl⟩
  · rintro ⟨value, member, rfl⟩
    exact ⟨(key, value), member, rfl, rfl⟩

end KeyMap

end WireBridge
