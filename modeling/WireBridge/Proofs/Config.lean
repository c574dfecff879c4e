/-
**Configurations survive storage.**

A stored record is read by putting its fields, one after the other, over the defaults. A field that
is stored replaces one setting by its own and touches no other, so the order of the fields does not
matter, and what is not stored keeps its default.

* `Json.Value.fields`: the fields of a record as they are stored;
* `Timing.overlay`, `Config.overlay`: settings of which some are listed, over others;
* `Json.Document.Once`: fields of a record in any order, none of them twice, and other members;
* `Timing.Excerpt`, `Config.Excerpt`: some fields of a record as they are stored;
* `Config.read?_stored`: **a stored configuration is read back**, and of any excerpt the fields that
  are in it.
-/

import Mathlib.Data.List.Nodup
import WireBridge.Config
import WireBridge.Proofs.Json.Reading

namespace WireBridge

open Json (Document NumberLiteral StringLiteral Value)

/-! ### Records -/

/-- The fields of a record as they are stored. -/
def Json.Value.fields : Value → List (String × Document)
  | .object members => members.map fun member => (member.1, member.2.document)
  | _ => []

namespace Json.Document

/-- The members of a written object with their names. -/
theorem named?_memberDocuments (members : List (String × Value)) :
    named? (Value.memberDocuments members) = some (Value.object members).fields := by
  induction members with
  | nil => rfl
  | cons member rest ih =>
    obtain ⟨name, value⟩ := member
    rw [named?] at ih
    simp only [Value.memberDocuments, named?, List.mapM_cons, StringLiteral.string?_literalOf, ih]
    rfl

/-- Fields in any order, those with the given names at most once each, and other members. -/
def Once (names : List String) (fields : List (String × Document)) : Prop :=
  ∀ name ∈ names, (fields.map Prod.fst).count name ≤ 1

instance decidableOnce (names : List String) (fields : List (String × Document)) :
    Decidable (Once names fields) :=
  inferInstanceAs (Decidable (∀ name ∈ names, _))

/-- The fields with the given names. -/
def known (names : List String) (fields : List (String × Document)) : List (String × Document) :=
  fields.filter fun field => names.contains field.1

theorem mem_known {names : List String} {fields : List (String × Document)}
    {field : String × Document} :
    field ∈ known names fields ↔ field ∈ fields ∧ field.1 ∈ names := by
  simp [known]

theorem mem_map_known {names : List String} {fields : List (String × Document)} {name : String}
    (listed : name ∈ names) :
    name ∈ (known names fields).map Prod.fst ↔ name ∈ fields.map Prod.fst := by
  simp [known, listed]

/-- An object has the known fields among its members. -/
theorem fields?_object {names : List String} {members : List (StringLiteral × Document)}
    {fields : List (String × Document)} (read : named? members = some fields)
    (once : Once names fields) : fields? names (.object members) = some (known names fields) := by
  have distinct : ((known names fields).map Prod.fst).Nodup := by
    refine List.nodup_iff_count_le_one.mpr fun name => ?_
    by_cases listed : name ∈ names
    · exact Nat.le_trans ((List.filter_sublist.map Prod.fst).count_le name) (once name listed)
    · rw [List.count_eq_zero.mpr]
      · exact Nat.zero_le 1
      · rintro member
        obtain ⟨field, kept, rfl⟩ := List.mem_map.mp member
        exact listed (mem_known.mp kept).2
  rw [fields?, read]
  exact if_pos distinct

end Json.Document

/-- A setting that is listed, or else another one. -/
def pick {α : Type} (listed : List String) (name : String) (value other : α) : α :=
  if name ∈ listed then value else other

theorem pick_cons {α : Type} (first : String) (rest : List String) (name : String)
    (value other : α) :
    pick (first :: rest) name value other =
      pick rest name value (pick [first] name value other) := by
  by_cases later : name ∈ rest <;> simp [pick, later]

theorem pick_congr {α : Type} {listed others : List String} {name : String}
    (same : name ∈ listed ↔ name ∈ others) (value other : α) :
    pick listed name value other = pick others name value other := by
  simp only [pick, same]

/-! ### Numbers -/

theorem Json.Document.natural?_document {number : Nat} (word : number ≤ NumberLiteral.maxWord) :
    (Value.ofNat number).document.natural? = some number :=
  NumberLiteral.natural?_ofNat word

theorem Json.Document.byte?_document (byte : UInt8) :
    (Value.ofNat byte.toNat).document.byte? = some byte := by
  have small : byte.toNat < 256 := byte.toNat_lt
  rw [byte?, natural?_document (Value.word_byte byte)]
  simp [small]

/-! ### Timings -/

namespace Timing

/-- The codes that are listed, and for the others those of another timing. -/
def overlay (timing : Timing) (listed : List String) (other : Timing) : Timing where
  resetLow := pick listed "reset_low" timing.resetLow other.resetLow
  presenceDetect := pick listed "presence_detect" timing.presenceDetect other.presenceDetect
  writeZeroLow := pick listed "write_zero_low" timing.writeZeroLow other.writeZeroLow
  writeZeroRecovery := pick listed "write_zero_recovery" timing.writeZeroRecovery
    other.writeZeroRecovery
  weakPullup := pick listed "weak_pullup" timing.weakPullup other.weakPullup

theorem overlay_cons (timing other : Timing) (first : String) (rest : List String) :
    timing.overlay (first :: rest) other = timing.overlay rest (timing.overlay [first] other) := by
  simp only [overlay, pick_cons first rest]

/-- Some fields of stored codes, in any order and among other members. -/
structure Excerpt (timing : Timing) (fields : List (String × Document)) : Prop where
  once : Document.Once names fields
  stored : ∀ field ∈ fields, field.1 ∈ names → field ∈ timing.toValue.fields

/-- A stored field replaces its own code. -/
theorem assign?_stored {timing : Timing} {field : String × Document}
    (stored : field ∈ timing.toValue.fields) (other : Timing) :
    other.assign? field = some (timing.overlay [field.1] other) := by
  simp only [toValue, Value.fields, List.map_cons, List.map_nil, List.mem_cons, List.not_mem_nil,
    or_false] at stored
  rcases stored with rfl | rfl | rfl | rfl | rfl <;>
    · rw [assign?, Document.byte?_document]
      rfl

theorem foldlM_assign? {timing : Timing} {fields : List (String × Document)}
    (stored : ∀ field ∈ fields, field ∈ timing.toValue.fields) (other : Timing) :
    fields.foldlM assign? other = some (timing.overlay (fields.map Prod.fst) other) := by
  induction fields generalizing other with
  | nil => rfl
  | cons field rest ih =>
    obtain ⟨here, later⟩ := List.forall_mem_cons.mp stored
    rw [List.foldlM_cons, assign?_stored here]
    exact (ih later _).trans (congrArg some (overlay_cons timing other field.1 _).symm)

theorem overlay_congr {timing : Timing} {listed others : List String}
    (same : ∀ name ∈ names, name ∈ listed ↔ name ∈ others) (other : Timing) :
    timing.overlay listed other = timing.overlay others other := by
  simp only [names, List.forall_mem_cons] at same
  obtain ⟨reset, presence, zero, recovery, pullup, -⟩ := same
  simp only [overlay, pick_congr reset, pick_congr presence, pick_congr zero, pick_congr recovery,
    pick_congr pullup]

/-- Of an excerpt the codes that are in it are read. -/
theorem ofDocument?_excerpt {timing : Timing} {members : List (StringLiteral × Document)}
    {fields : List (String × Document)} (read : Document.named? members = some fields)
    (excerpt : timing.Excerpt fields) :
    ofDocument? (.object members) = some (timing.overlay (fields.map Prod.fst) .powerOn) := by
  have kept : ∀ field ∈ Document.known names fields, field ∈ timing.toValue.fields :=
    fun field member => (Document.mem_known.mp member).elim (excerpt.stored field)
  rw [ofDocument?, Document.fields?_object read excerpt.once]
  exact (foldlM_assign? kept .powerOn).trans
    (congrArg some (overlay_congr (fun _ => Document.mem_map_known) _))

theorem excerpt_stored (timing : Timing) : timing.Excerpt timing.toValue.fields where
  once := by
    intro name listed
    exact List.nodup_iff_count_le_one.mp (by decide : names.Nodup) name
  stored _ member _ := member

theorem within_toValue (timing : Timing) : Value.Within 1 timing.toValue := by
  refine .object ?_
  simp only [List.forall_mem_cons]
  exact ⟨Value.within_ofNat (Value.word_byte _) 0, Value.within_ofNat (Value.word_byte _) 0,
    Value.within_ofNat (Value.word_byte _) 0, Value.within_ofNat (Value.word_byte _) 0,
    Value.within_ofNat (Value.word_byte _) 0, nofun⟩

end Timing

/-! ### Configurations -/

namespace Config

/-- The settings that are listed, and for the others those of another configuration. -/
def overlay (config : Config) (listed : List String) (other : Config) : Config where
  channels := pick listed "channels" config.channels other.channels
  initialScan := pick listed "run_initial_scan" config.initialScan other.initialScan
  activePullup := pick listed "active_pullup" config.activePullup other.activePullup
  strongPullup := pick listed "strong_pullup" config.strongPullup other.strongPullup
  timing := pick listed "timing" config.timing other.timing
  queueCapacity := pick listed "queue_capacity" config.queueCapacity other.queueCapacity

theorem overlay_cons (config other : Config) (first : String) (rest : List String) :
    config.overlay (first :: rest) other = config.overlay rest (config.overlay [first] other) := by
  simp only [overlay, pick_cons first rest]

theorem overlay_congr {config : Config} {listed others : List String}
    (same : ∀ name ∈ names, name ∈ listed ↔ name ∈ others) (other : Config) :
    config.overlay listed other = config.overlay others other := by
  simp only [names, List.forall_mem_cons] at same
  obtain ⟨channels, scan, active, strong, timing, queue, -⟩ := same
  simp only [overlay, pick_congr channels, pick_congr scan, pick_congr active, pick_congr strong,
    pick_congr timing, pick_congr queue]

/-- Some fields of a stored configuration, in any order and among other members; of the codes there
are those of an object with some of their fields. -/
structure Excerpt (config : Config) (codes fields : List (String × Document)) : Prop where
  once : Document.Once names fields
  stored : ∀ field ∈ fields, field.1 ∈ names → field.1 ≠ "timing" →
    field ∈ config.toValue.fields
  timing : ∀ tree, ("timing", tree) ∈ fields →
    ∃ members, tree = .object members ∧ Document.named? members = some codes
  inner : config.timing.Excerpt codes

/-- The configuration with the codes that an excerpt has, and for the others those at power-on. -/
def withCodes (config : Config) (codes : List (String × Document)) : Config :=
  { config with timing := config.timing.overlay (codes.map Prod.fst) .powerOn }

/-- Exactly the four truth values that are stored. -/
theorem channels?_stored (channels : Vector Bool 4) :
    channels? (Value.array (channels.toList.map .bool)).document = some channels := by
  match channels with
  | ⟨⟨[_, _, _, _]⟩, _⟩ => rfl

theorem word_capacity (capacity : UInt64) : capacity.toNat ≤ Json.NumberLiteral.maxWord :=
  Nat.le_pred_of_lt capacity.toNat_lt

/-- A field of an excerpt replaces its own setting. -/
theorem Excerpt.assign? {config : Config} {codes fields : List (String × Document)}
    (excerpt : config.Excerpt codes fields) {field : String × Document} (member : field ∈ fields)
    (listed : field.1 ∈ names) (other : Config) :
    other.assign? field = some ((config.withCodes codes).overlay [field.1] other) := by
  -- The timing is the one field whose value need not be the stored one: it may be an excerpt too.
  by_cases plain : field.1 = "timing"
  · obtain ⟨_, tree⟩ := field
    subst plain
    obtain ⟨members, rfl, read⟩ := excerpt.timing tree member
    rw [Config.assign?, Timing.ofDocument?_excerpt read excerpt.inner]
    rfl
  · have stored := excerpt.stored field member listed plain
    simp only [toValue, Value.fields, List.map_cons, List.map_nil, List.mem_cons,
      List.not_mem_nil, or_false] at stored
    rcases stored with rfl | rfl | rfl | rfl | rfl | rfl
    · rw [Config.assign?, channels?_stored]
      rfl
    · rfl
    · rfl
    · rfl
    · exact absurd rfl plain
    · rw [Config.assign?, Document.natural?_document (word_capacity _), Option.map_some,
        UInt64.ofNat_toNat]
      rfl

theorem Excerpt.foldlM_assign? {config : Config} {codes fields : List (String × Document)}
    (excerpt : config.Excerpt codes fields) {listed : List (String × Document)}
    (inside : ∀ field ∈ listed, field ∈ fields ∧ field.1 ∈ names) (other : Config) :
    listed.foldlM Config.assign? other =
      some ((config.withCodes codes).overlay (listed.map Prod.fst) other) := by
  induction listed generalizing other with
  | nil => rfl
  | cons field rest ih =>
    obtain ⟨⟨member, known⟩, later⟩ := List.forall_mem_cons.mp inside
    rw [List.foldlM_cons, excerpt.assign? member known]
    exact (ih later _).trans
      (congrArg some (overlay_cons (config.withCodes codes) other field.1 _).symm)

/-- Of an excerpt the settings that are in it are read. -/
theorem ofDocument?_excerpt {config : Config} {members : List (StringLiteral × Document)}
    {codes fields : List (String × Document)} (read : Document.named? members = some fields)
    (excerpt : config.Excerpt codes fields) :
    ofDocument? (.object members) =
      some ((config.withCodes codes).overlay (fields.map Prod.fst) .default) := by
  rw [ofDocument?, Document.fields?_object read excerpt.once]
  exact (excerpt.foldlM_assign? (fun _ => Document.mem_known.mp) .default).trans
    (congrArg some (overlay_congr (fun _ => Document.mem_map_known) _))

theorem excerpt_stored (config : Config) :
    config.Excerpt config.timing.toValue.fields config.toValue.fields where
  once := by
    intro name listed
    exact List.nodup_iff_count_le_one.mp (by decide : names.Nodup) name
  stored _ member _ _ := member
  timing := by
    intro tree member
    have found : tree = config.timing.toValue.document := by
      simpa [toValue, Value.fields] using member
    exact ⟨_, found, Document.named?_memberDocuments _⟩
  inner := config.timing.excerpt_stored

/-- All settings are listed among the stored ones. -/
theorem overlay_stored (config : Config) :
    (config.withCodes config.timing.toValue.fields).overlay (config.toValue.fields.map Prod.fst)
      .default = config := rfl

theorem within_toValue (config : Config) : Value.Within 2 config.toValue := by
  refine .object ?_
  simp only [List.forall_mem_cons]
  refine ⟨.array ?_, .bool _, .bool _, .bool _, config.timing.within_toValue,
    Value.within_ofNat (word_capacity _) 1, nofun⟩
  intro item member
  obtain ⟨channel, -, rfl⟩ := List.mem_map.mp member
  exact .bool channel

/-- **Configurations survive storage.** A stored configuration is read back. So is each text of an
object with some of its fields in any order, some fields of its timing in any order and any other
members: the settings that are listed are those of the configuration, the others the defaults. -/
theorem read?_stored (config : Config) :
    read? config.text = some config ∧
      ∀ {text : String} {members : List (StringLiteral × Document)}
        {codes fields : List (String × Document)},
        Document.read? text = some (.object members) → Document.named? members = some fields →
        config.Excerpt codes fields →
        read? text = some ((config.withCodes codes).overlay (fields.map Prod.fst) .default) := by
  have excerpts {text : String} {members : List (StringLiteral × Document)}
      {codes fields : List (String × Document)}
      (written : Document.read? text = some (.object members))
      (named : Document.named? members = some fields) (excerpt : config.Excerpt codes fields) :
      read? text = some ((config.withCodes codes).overlay (fields.map Prod.fst) .default) := by
    rw [read?, written]
    exact ofDocument?_excerpt named excerpt
  refine ⟨?_, excerpts⟩
  exact (excerpts (Value.documentRead?_text config.within_toValue)
    (Document.named?_memberDocuments _) config.excerpt_stored).trans
      (congrArg some config.overlay_stored)

/-- Some settings and one code, out of order and among members that are none. -/
theorem read?_stored_partly :
    let config : Config := ⟨#v[true, false, true, false], true, true, true, ⟨1, 2, 3, 4, 5⟩, 250⟩
    let codes := [("colour", .ofNat 1), ("weak_pullup", .ofNat 5)]
    let fields := [("queue_capacity", .ofNat 250), ("colour", .null), ("timing", .object codes),
      ("colour", .array []), ("strong_pullup", .bool true)]
    let text := "\x7b\"queue_capacity\":250,\"colour\":null," ++
      "\"timing\":\x7b\"colour\":1,\"weak_pullup\":5\x7d,\"colour\":[],\"strong_pullup\":true\x7d"
    (∃ members, Document.read? text = some (.object members) ∧
      Document.named? members = some (Value.object fields).fields) ∧
    config.Excerpt (Value.object codes).fields (Value.object fields).fields ∧
    read? text = some { default with
      strongPullup := true, timing := ⟨6, 6, 6, 6, 5⟩, queueCapacity := 250 } := by
  intro config codes fields text
  have within : Value.Within 2 (.object fields) := by
    have inner : Value.Within 1 (.object codes) := .object <| by
      simp only [codes, List.forall_mem_cons]
      exact ⟨Value.within_ofNat (by decide) 0, Value.within_ofNat (by decide) 0, nofun⟩
    refine .object ?_
    simp only [fields, List.forall_mem_cons]
    exact ⟨Value.within_ofNat (by decide) 1, .null, inner, .array nofun, .bool true, nofun⟩
  have written : text = (Value.object fields).text := by decide +kernel
  have read : Document.read? text = some (Value.object fields).document :=
    written ▸ Value.documentRead?_text within
  have named := Document.named?_memberDocuments fields
  have excerpt : config.Excerpt (Value.object codes).fields (Value.object fields).fields := {
    once := by decide
    stored := by
      simp only [fields, Value.fields, List.map_cons, List.forall_mem_cons]
      refine ⟨fun _ _ => ?_, fun listed => absurd listed (by decide),
        fun _ plain => absurd rfl plain, fun listed => absurd listed (by decide),
        fun _ _ => ?_, nofun⟩
      · exact .tail _ (.tail _ (.tail _ (.tail _ (.tail _ (.head _)))))
      · exact .tail _ (.tail _ (.tail _ (.head _)))
    timing := by
      intro tree member
      have found : tree = (Value.object codes).document := by
        simpa [fields, Value.fields] using member
      exact ⟨_, found, Document.named?_memberDocuments _⟩
    inner := {
      once := by decide
      stored := by
        simp only [codes, Value.fields, List.map_cons, List.forall_mem_cons]
        refine ⟨fun listed => absurd listed (by decide), fun _ => ?_, nofun⟩
        exact .tail _ (.tail _ (.tail _ (.tail _ (.head _))))
    }
  }
  exact ⟨⟨_, read, named⟩, excerpt, (read?_stored config).2 read named excerpt⟩

end Config

end WireBridge
