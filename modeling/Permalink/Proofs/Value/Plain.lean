import Permalink.Proofs.Json.RoundTrip
import Permalink.Proofs.Value.Data

/-!
# Value — reading a serialized record back

Some differences between values are lost where they are written as data: a tuple becomes an array as
a list does, and a model an object as a mapping does.  `plain` is the value without them: a list
stands in the place of each tuple, and in that of each model the mapping of its fields and extra
fields.

Documents (`IsDocument`) are made of null, truth values, integers and texts by lists, tuples,
mappings with texts as keys, and models.  A document is written as the same data inside and outside
of models, and this is the data of its plain form (`WrittenAs`).  So the plain form is read back
from the text of the data (`serialize_reads_back`).  But not every document has such a text: one
with an integer of too many digits has none, wherever the integer stands (`serialize_longNumber`).
-/

namespace Permalink

open Outcome (FailsIff)

namespace Value

/-! ### Plain forms -/

/-- The entries with their names as keys. -/
def keyed (entries : List (Text × Value)) : List (Value × Value) :=
  entries.map fun e => (text e.1, e.2)

mutual

/-- A value with lists in the place of tuples, and in the place of models the mappings of their
fields and extra fields. -/
def plain : Value → Value
  | items .list xs => items .list (plainItems xs)
  | items .tuple xs => items .list (plainItems xs)
  | mapping entries => mapping (plainEntries entries)
  | model _ _ fields extra => mapping (keyed (plainFields fields ++ plainFields extra))
  | v => v

/-- The plain forms of items. -/
def plainItems : List Value → List Value
  | [] => []
  | x :: xs => plain x :: plainItems xs

/-- The plain forms of entries. -/
def plainEntries : List (Value × Value) → List (Value × Value)
  | [] => []
  | (k, v) :: rest => (k, plain v) :: plainEntries rest

/-- The plain forms of fields. -/
def plainFields : List (Text × Value) → List (Text × Value)
  | [] => []
  | (name, v) :: rest => (name, plain v) :: plainFields rest

end

theorem plainEntries_keyed (entries : List (Text × Value)) :
    plainEntries (keyed entries) = keyed (plainFields entries) := by
  induction entries with
  | nil => rfl
  | cons e entries ih =>
      show (text e.1, plain e.2) :: plainEntries (keyed entries) =
        keyed ((e.1, plain e.2) :: plainFields entries)
      rw [ih]
      rfl

theorem holdsLong_keyed_iff {entries : List (Text × Value)} :
    HoldsLong (mapping (keyed entries)) ↔ ∃ e ∈ entries, HoldsLong e.2 := by
  have htext : ∀ t : Text, ¬ HoldsLong (text t) := by rintro t ⟨⟩
  simp only [holdsLong_mapping_iff, keyed, List.mem_map, exists_exists_and_eq_and,
    htext, false_or]

/-! ### Documents -/

/-- The value is made of null, truth values, integers and texts by lists, tuples, mappings with
texts as keys, and models; no name is given twice. -/
inductive IsDocument : Value → Prop where
  | null : IsDocument null
  | bool {b : Bool} : IsDocument (bool b)
  | int {n : Int} : IsDocument (int n)
  | text {t : Text} : IsDocument (text t)
  | items {kind : Collection} {xs : List Value} : kind ≠ .set → (∀ x ∈ xs, IsDocument x) →
      IsDocument (items kind xs)
  | mapping {entries : List (Text × Value)} : (entries.map Prod.fst).Nodup →
      (∀ e ∈ entries, IsDocument e.2) → IsDocument (mapping (keyed entries))
  | model {name : Text} {isOpen : Bool} {fields extra : List (Text × Value)} :
      ((fields ++ extra).map Prod.fst).Nodup → (∀ e ∈ fields ++ extra, IsDocument e.2) →
      IsDocument (model name isOpen fields extra)

/-! ### Data of documents -/

/-- Inside and outside of models `v` is written as `j`, the data of its plain form. -/
structure WrittenAs (v : Value) (j : Json) : Prop where
  outside : ∀ level, v.write level = j.write level
  inside : modelData v = .ok j
  faithful : j.Faithful
  long : j.HoldsLong ↔ v.HoldsLong
  plain : j.toValue = v.plain

/-- Items are written as `js`, the data of their plain forms. -/
structure ItemsWrittenAs (xs : List Value) (js : List Json) : Prop where
  outside : ∀ level, writeItems level xs = Json.writeItems level js
  inside : modelItems xs = .ok js
  faithful : ∀ j ∈ js, j.Faithful
  long : (∃ j ∈ js, j.HoldsLong) ↔ ∃ x ∈ xs, HoldsLong x
  plain : Json.itemValues js = plainItems xs

/-- Entries with texts as keys are written as `js`, the data of their plain forms, and so are fields
of these names. -/
structure EntriesWrittenAs (entries : List (Text × Value)) (js : List (Text × Json)) : Prop where
  names : js.map Prod.fst = entries.map Prod.fst
  outside : ∀ level, writeEntries level (keyed entries) = Json.writeEntries level js
  inside : modelEntries (keyed entries) = .ok js
  fields : modelFields entries = .ok js
  faithful : ∀ e ∈ js, e.2.Faithful
  long : (∃ e ∈ js, e.2.HoldsLong) ↔ ∃ e ∈ entries, HoldsLong e.2
  plain : Json.entryValues js = keyed (plainFields entries)

/-- Items are written as data if each is. -/
theorem exists_itemsWrittenAs {xs : List Value} (h : ∀ x ∈ xs, ∃ j, WrittenAs x j) :
    ∃ js, ItemsWrittenAs xs js := by
  induction xs with
  | nil => exact ⟨[], fun _ => rfl, rfl, List.forall_mem_nil _,
      iff_of_false (by simp) (by simp), rfl⟩
  | cons x xs ih =>
      obtain ⟨⟨j, hj⟩, hxs⟩ := List.forall_mem_cons.1 h
      obtain ⟨js, hjs⟩ := ih hxs
      refine ⟨j :: js, fun level => ?_, ?_, List.forall_mem_cons.2 ⟨hj.faithful, hjs.faithful⟩,
        ?_, ?_⟩
      · rw [writeItems, Json.writeItems, hj.outside, hjs.outside]
      · rw [modelItems, hj.inside, hjs.inside]
        rfl
      · rw [List.exists_mem_cons_iff, List.exists_mem_cons_iff, hj.long, hjs.long]
      · rw [Json.itemValues, plainItems, hj.plain, hjs.plain]

/-- Entries and fields are written as data if what they hold is. -/
theorem exists_entriesWrittenAs {entries : List (Text × Value)}
    (h : ∀ e ∈ entries, ∃ j, WrittenAs e.2 j) : ∃ js, EntriesWrittenAs entries js := by
  induction entries with
  | nil => exact ⟨[], rfl, fun _ => rfl, rfl, rfl, List.forall_mem_nil _,
      iff_of_false (by simp) (by simp), rfl⟩
  | cons e entries ih =>
      obtain ⟨name, v⟩ := e
      obtain ⟨⟨j, hj⟩, hentries⟩ := List.forall_mem_cons.1 h
      obtain ⟨js, hjs⟩ := ih hentries
      have hkeyed : keyed ((name, v) :: entries) = (text name, v) :: keyed entries := rfl
      refine ⟨(name, j) :: js, ?_, fun level => ?_, ?_, ?_,
        List.forall_mem_cons.2 ⟨hj.faithful, hjs.faithful⟩, ?_, ?_⟩
      · rw [List.map_cons, List.map_cons, hjs.names]
      · rw [hkeyed, writeEntries, Json.writeEntries, hj.outside, hjs.outside]
        rfl
      · rw [hkeyed, modelEntries, hj.inside, hjs.inside]
        rfl
      · rw [modelFields, hj.inside, hjs.fields]
        rfl
      · rw [List.exists_mem_cons_iff, List.exists_mem_cons_iff, hj.long, hjs.long]
      · rw [Json.entryValues, plainFields, hj.plain, hjs.plain]
        rfl

theorem ItemsWrittenAs.long_iff {xs : List Value} {js : List Json} (h : ItemsWrittenAs xs js)
    (kind : Collection) : (Json.array js).HoldsLong ↔ HoldsLong (items kind xs) := by
  rw [Json.holdsLong_array_iff, holdsLong_items_iff, h.long]

/-- **A document is written as the data of its plain form**, inside and outside of models. -/
theorem exists_writtenAs {v : Value} (h : v.IsDocument) : ∃ j, WrittenAs v j := by
  induction h with
  | null =>
      have hlong : Json.null.HoldsLong ↔ HoldsLong .null :=
        iff_of_false (by rintro ⟨⟩) (by rintro ⟨⟩)
      exact ⟨.null, fun _ => rfl, rfl, .null, hlong, rfl⟩
  | @bool b =>
      have hlong : (Json.bool b).HoldsLong ↔ HoldsLong (.bool b) :=
        iff_of_false (by rintro ⟨⟩) (by rintro ⟨⟩)
      exact ⟨.bool b, fun _ => rfl, rfl, .bool, hlong, rfl⟩
  | @int n =>
      have hlong : (Json.int n).HoldsLong ↔ HoldsLong (.int n) := by
        rw [Json.holdsLong_int_iff, holdsLong_int_iff]
      exact ⟨.int n, fun _ => rfl, rfl, .int, hlong, rfl⟩
  | @text t =>
      have hlong : (Json.text t).HoldsLong ↔ HoldsLong (.text t) :=
        iff_of_false (by rintro ⟨⟩) (by rintro ⟨⟩)
      exact ⟨.text t, fun _ => rfl, rfl, .text, hlong, rfl⟩
  | @items kind xs hkind _ ih =>
      obtain ⟨js, hjs⟩ := exists_itemsWrittenAs ih
      have hinside : modelData (.items kind xs) = .ok (.array js) := by
        rw [modelData, hjs.inside]
        rfl
      cases kind with
      | list =>
          refine ⟨.array js, fun level => ?_, hinside, .array hjs.faithful, hjs.long_iff _, ?_⟩
          · rw [write, Json.write, hjs.outside]
          · rw [Json.toValue, Value.plain, hjs.plain]
      | tuple =>
          refine ⟨.array js, fun level => ?_, hinside, .array hjs.faithful, hjs.long_iff _, ?_⟩
          · rw [write, Json.write, hjs.outside]
          · rw [Json.toValue, Value.plain, hjs.plain]
      | set => exact absurd rfl hkind
  | @mapping entries hnames _ ih =>
      obtain ⟨js, hjs⟩ := exists_entriesWrittenAs ih
      have hnodup : (js.map Prod.fst).Nodup := by rwa [hjs.names]
      refine ⟨.object js, fun level => ?_, ?_, .object hnodup hjs.faithful, ?_, ?_⟩
      · rw [write, Json.write, hjs.outside]
      · rw [modelData, hjs.inside, Except.map, lastGiven_of_nodup hnodup]
      · rw [Json.holdsLong_object_iff, hjs.long, holdsLong_keyed_iff]
      · rw [Json.toValue, Value.plain, hjs.plain, plainEntries_keyed]
  | @model name isOpen fields extra hnames _ ih =>
      obtain ⟨hfields, hextra⟩ := List.forall_mem_append.1 ih
      obtain ⟨js, hjs⟩ := exists_entriesWrittenAs hfields
      obtain ⟨ks, hks⟩ := exists_entriesWrittenAs hextra
      have hnodup : ((js ++ ks).map Prod.fst).Nodup := by
        rwa [List.map_append, hjs.names, hks.names, ← List.map_append]
      have hdata : modelData (.model name isOpen fields extra) = .ok (.object (js ++ ks)) := by
        rw [modelData, hjs.fields, hks.fields]
        rfl
      refine ⟨.object (js ++ ks), fun level => ?_, hdata, .object hnodup ?_, ?_, ?_⟩
      · rw [write, hdata]
        rfl
      · exact List.forall_mem_append.2 ⟨hjs.faithful, hks.faithful⟩
      · rw [Json.holdsLong_object_iff, exists_mem_append, holdsLong_model_iff, hjs.long, hks.long]
      · rw [Json.toValue, Value.plain, Json.entryValues_append, hjs.plain, hks.plain, keyed, keyed,
          ← List.map_append]
        rfl

/-- A document has no text just if there is an integer of too many digits in it. -/
theorem IsDocument.failsIff_serialize {v : Value} (h : v.IsDocument) :
    FailsIff .integerLength v.HoldsLong v.serialize := by
  obtain ⟨j, hj⟩ := exists_writtenAs h
  rw [serialize, hj.outside]
  exact (Json.failsIff_write 0 j).congr hj.long

/-- **The plain form of a document is read back** from the text of its data. -/
theorem ofData?_of_serialize {v : Value} (h : v.IsDocument) {shown : Text}
    (hshown : v.serialize = .ok shown) : ofData? shown = some v.plain := by
  obtain ⟨j, hj⟩ := exists_writtenAs h
  rw [serialize, hj.outside] at hshown
  rw [ofData?, Json.read?_render hj.faithful hshown, Option.map_some, hj.plain]

/-- **Serialized documents read back.**  A document has a text, from which its plain form is read,
just if there is no integer of too many digits in it; with one it fails on that.  And documents of
the same text have the same plain form. -/
theorem serialize_reads_back {v : Value} (h : v.IsDocument) :
    ((∃ shown, v.serialize = .ok shown ∧ ofData? shown = some v.plain) ↔ ¬ v.HoldsLong) ∧
      (v.HoldsLong → v.serialize = .error .integerLength) ∧
      ∀ (w : Value) (shown : Text), w.IsDocument → v.serialize = .ok shown →
        w.serialize = .ok shown → v.plain = w.plain := by
  have hfails := h.failsIff_serialize
  refine ⟨?_, fun hlong => (hfails _).2 ⟨rfl, hlong⟩, fun w shown hw hv' hw' => ?_⟩
  · rw [← hfails.exists_ok_iff]
    constructor
    · rintro ⟨shown, hshown, -⟩
      exact ⟨shown, hshown⟩
    · rintro ⟨shown, hshown⟩
      exact ⟨shown, hshown, ofData?_of_serialize h hshown⟩
  · have hread := ofData?_of_serialize h hv'
    exact Option.some.inj (hread.symm.trans (ofData?_of_serialize hw hw'))

/-- A model with `n` in its only field, which is an extra one. -/
def numberedPart (n : Int) : Value := model "Part" true [] [("n".toList, int n)]

/-- A mapping with a model in it that has no fields, under the empty text. -/
def unnamedAuthor : Value :=
  mapping (keyed [("known".toList, bool false), ([], model "Name" false [] [])])

/-- A model with others inside, in a tuple and in a mapping, and with a text of characters that are
escaped. -/
def layeredRecord (n : Int) : Value :=
  model "Post" true
    [("title".toList, text "a\"\\\n\x01\u00e9".toList),
      ("parts".toList, items .tuple [numberedPart n, null, items .list []])]
    [("author".toList, unnamedAuthor)]

theorem isDocument_layeredRecord (n : Int) : (layeredRecord n).IsDocument := by
  have hpart : (numberedPart n).IsDocument := .model (by simp) (by simp [IsDocument.int])
  have hempty : (items .list []).IsDocument := .items (by decide) (by simp)
  have hparts : (items .tuple [numberedPart n, null, items .list []]).IsDocument :=
    .items (by decide) (by simp [hpart, IsDocument.null, hempty])
  have hname : (model "Name" false [] []).IsDocument := .model (by simp) (by simp)
  have hauthor : unnamedAuthor.IsDocument :=
    .mapping (by simp) (by simpa [IsDocument.bool] using hname)
  exact .model (by simp) (by simp [IsDocument.text, hparts, hauthor])

/-- The instance of `serialize_reads_back` at two records that differ in a field of the innermost
model. -/
theorem serialize_reads_back_layered :
    (layeredRecord 1).IsDocument ∧
      (∃ shown, (layeredRecord 1).serialize = .ok shown ∧
        ofData? shown = some (layeredRecord 1).plain) ∧
      (layeredRecord 1).serialize ≠ (layeredRecord (-1)).serialize := by
  have hdocument := isDocument_layeredRecord 1
  have hne : (layeredRecord 1).plain ≠ (layeredRecord (-1)).plain := by
    simp [layeredRecord, numberedPart, plain, plainItems, plainFields, keyed]
  obtain ⟨hread, -, hsame⟩ := serialize_reads_back hdocument
  have hshown : ¬ (layeredRecord 1).HoldsLong :=
    hdocument.failsIff_serialize.exists_ok_iff.1 ⟨_, rfl⟩
  obtain ⟨shown, htext, hplain⟩ := hread.2 hshown
  refine ⟨hdocument, ⟨shown, htext, hplain⟩, fun heq => hne ?_⟩
  exact hsame _ shown (isDocument_layeredRecord (-1)) htext (heq.symm.trans htext)

/-- A mapping with an integer of one digit too many. -/
def longNumber : Value := mapping (keyed [("n".toList, int (10 ^ Fault.digitLimit))])

/-- **A document without a text.** -/
theorem serialize_longNumber :
    longNumber.IsDocument ∧ longNumber.serialize = .error .integerLength := by
  have hdocument : longNumber.IsDocument := .mapping (by simp) (by simp [IsDocument.int])
  have hholds : longNumber.HoldsLong := .entry List.mem_cons_self (.int Decimal.isLong_pow)
  exact ⟨hdocument, (hdocument.failsIff_serialize _).2 ⟨rfl, hholds⟩⟩

end Value
end Permalink
