import Permalink.Proofs.Value.LastGiven
import Permalink.Proofs.Value.Literals

/-!
# Value — what has no form as data

Outside of models everything is data or is shown as text instead, but for keys: a mapping with a key
of another kind than text, number, truth value and null has no form as data (`IsSimple`).  Inside a
model a range has none and bytes that encode no text have none, both also as keys and as parts of
keys (`FormlessPart`, `Nameless`).

An integer of too many digits has no form anywhere: not as it is, not in a key, and not in what is
shown as text.  Only inside a model there may be one that does no harm, as long as the entry that it
stands in gives way to another one of the same name (`LongPart`).

`exists_serialize_eq_error_iff`: a value cannot be serialized just if there is such a key, part or
integer in it (`Formless`), at any depth of lists, tuples, mappings and models.
-/

namespace Permalink

open Outcome (FailsIff)

/-! ### Integers in data -/

namespace Json

/-- An integer of too many digits is in the data, at any depth. -/
inductive HoldsLong : Json → Prop where
  | int {n : Int} : Decimal.IsLong n → HoldsLong (int n)
  | item {x : Json} {xs : List Json} : x ∈ xs → HoldsLong x → HoldsLong (array xs)
  | entry {e : Text × Json} {entries : List (Text × Json)} : e ∈ entries → HoldsLong e.2 →
      HoldsLong (object entries)

theorem holdsLong_int_iff {n : Int} : HoldsLong (int n) ↔ Decimal.IsLong n :=
  ⟨fun (.int h) => h, .int⟩

theorem holdsLong_array_iff {xs : List Json} : HoldsLong (array xs) ↔ ∃ x ∈ xs, HoldsLong x :=
  ⟨fun (.item hx h) => ⟨_, hx, h⟩, fun ⟨_, hx, h⟩ => .item hx h⟩

theorem holdsLong_object_iff {entries : List (Text × Json)} :
    HoldsLong (object entries) ↔ ∃ e ∈ entries, HoldsLong e.2 :=
  ⟨fun (.entry he h) => ⟨_, he, h⟩, fun ⟨_, he, h⟩ => .entry he h⟩

mutual

/-- **What data cannot be written**: that with an integer of too many digits. -/
theorem failsIff_write (level : Nat) : ∀ j : Json,
    FailsIff .integerLength (HoldsLong j) (write level j)
  | .null | .bool _ | .real _ | .text _ => .ok nofun
  | .int n => (Decimal.failsIff_write n).congr holdsLong_int_iff.symm
  | .array xs => ((failsIff_writeItems (level + 1) xs).map _).congr holdsLong_array_iff.symm
  | .object entries =>
      ((failsIff_writeEntries (level + 1) entries).map _).congr holdsLong_object_iff.symm

theorem failsIff_writeItems (level : Nat) : ∀ xs : List Json,
    FailsIff .integerLength (∃ x ∈ xs, HoldsLong x) (writeItems level xs)
  | [] => .ok nofun
  | x :: xs => by
      rw [writeItems, List.exists_mem_cons_iff]
      exact (failsIff_write level x).bind fun _ => (failsIff_writeItems level xs).map _

theorem failsIff_writeEntries (level : Nat) : ∀ entries : List (Text × Json),
    FailsIff .integerLength (∃ e ∈ entries, HoldsLong e.2) (writeEntries level entries)
  | [] => .ok nofun
  | (_, v) :: rest => by
      rw [writeEntries, List.exists_mem_cons_iff]
      exact (failsIff_write level v).bind fun _ => (failsIff_writeEntries level rest).map _

end

end Json

namespace Value

/-! ### Keys and bytes -/

/-- A key outside of models is text, a number of not too many digits, a truth value or null. -/
inductive IsSimple : Value → Prop where
  | null : IsSimple null
  | bool {b : Bool} : IsSimple (bool b)
  | int {n : Int} : ¬ Decimal.IsLong n → IsSimple (int n)
  | real {x : Binary64} : IsSimple (real x)
  | text {t : Text} : IsSimple (text t)

theorem exists_entryName_eq_error_iff : ∀ {k : Value},
    (∃ f, entryName k = .error f) ↔ ¬ IsSimple k
  | .null | .bool _ | .real _ | .text _ =>
      Outcome.exists_ok_eq_error_iff fun h => h (by constructor)
  | .int n => (Decimal.failsIff_write n).exists_error_iff.trans
      ⟨fun hlong (.int h) => h hlong, fun h => not_not.1 fun hlong => h (.int hlong)⟩
  | .bytes .. | .date _ | .range _ | .items .. | .mapping _ | .model .. =>
      ⟨fun _ => nofun, fun _ => ⟨_, rfl⟩⟩

/-- The bytes are those of a text. -/
def EncodesText (content : List UInt8) : Prop :=
  ∃ t : Text, content = t.utf8Encode.data.toList

theorem exists_decoded?_iff {content : List UInt8} :
    (∃ t, decoded? content = some t) ↔ EncodesText content := by
  have hvalid : (∃ t, decoded? content = some t) ↔
      ByteArray.IsValidUTF8 ⟨content.toArray⟩ := by
    unfold decoded? String.fromUTF8?
    split
    · next h => simp [h]
    · next h => simp [h]
  rw [hvalid]
  constructor
  · rintro ⟨t, ht⟩
    exact ⟨t, by rw [← ht]⟩
  · rintro ⟨t, rfl⟩
    exact ⟨t, rfl⟩

theorem exists_encodedText_eq_error_iff {content : List UInt8} :
    (∃ f, encodedText content = .error f) ↔ ¬ EncodesText content := by
  rw [← exists_decoded?_iff, encodedText]
  cases decoded? content with
  | none => exact ⟨fun _ => nofun, fun _ => ⟨_, rfl⟩⟩
  | some t => exact ⟨nofun, fun h => absurd ⟨t, rfl⟩ h⟩

/-! ### Inside a model -/

/-- The key has no name inside a model. -/
inductive Nameless : Value → Prop where
  | range {p : Progression} : Nameless (range p)
  | bytes {buffer : Bool} {content : List UInt8} : ¬ EncodesText content →
      Nameless (bytes buffer content)
  | tuple {x : Value} {xs : List Value} : x ∈ xs → Nameless x → Nameless (items .tuple xs)
  | long {k : Value} : HoldsLong k → Nameless k

/-- The part of a model has no form as data. -/
inductive FormlessPart : Value → Prop where
  | range {p : Progression} : FormlessPart (range p)
  | bytes {buffer : Bool} {content : List UInt8} : ¬ EncodesText content →
      FormlessPart (bytes buffer content)
  | item {kind : Collection} {x : Value} {xs : List Value} : x ∈ xs → FormlessPart x →
      FormlessPart (items kind xs)
  | key {e : Value × Value} {entries : List (Value × Value)} : e ∈ entries → Nameless e.1 →
      FormlessPart (mapping entries)
  | entry {e : Value × Value} {entries : List (Value × Value)} : e ∈ entries → FormlessPart e.2 →
      FormlessPart (mapping entries)
  | field {modelName : Text} {isOpen : Bool} {fields extra : List (Text × Value)}
      {e : Text × Value} : e ∈ fields ++ extra → FormlessPart e.2 →
      FormlessPart (model modelName isOpen fields extra)

theorem formlessPart_items_iff {kind : Collection} {xs : List Value} :
    FormlessPart (items kind xs) ↔ ∃ x ∈ xs, FormlessPart x :=
  ⟨fun (.item hx h) => ⟨_, hx, h⟩, fun ⟨_, hx, h⟩ => .item hx h⟩

theorem formlessPart_mapping_iff {entries : List (Value × Value)} :
    FormlessPart (mapping entries) ↔ ∃ e ∈ entries, Nameless e.1 ∨ FormlessPart e.2 := by
  constructor
  · rintro (_ | _ | _ | ⟨he, h⟩ | ⟨he, h⟩ | _)
    · exact ⟨_, he, .inl h⟩
    · exact ⟨_, he, .inr h⟩
  · rintro ⟨e, he, h | h⟩
    · exact .key he h
    · exact .entry he h

theorem formlessPart_model_iff {modelName : Text} {isOpen : Bool}
    {fields extra : List (Text × Value)} :
    FormlessPart (model modelName isOpen fields extra) ↔
      (∃ e ∈ fields, FormlessPart e.2) ∨ ∃ e ∈ extra, FormlessPart e.2 := by
  rw [← exists_mem_append]
  exact ⟨fun (.field he h) => ⟨_, he, h⟩, fun ⟨_, he, h⟩ => .field he h⟩

mutual

theorem exists_modelEntryName_eq_error_iff : ∀ k : Value,
    (∃ f, modelEntryName k = .error f) ↔ Nameless k
  | .bool _ => Outcome.exists_ok_eq_error_iff fun (.long h) => nomatch h
  | .null | .int _ | .real _ | .text _ | .date _ | .items .list _ | .items .set _ | .mapping _
  | .model .. => by
      rw [modelEntryName]
      · exact (failsIff_shown _).exists_error_iff.trans ⟨.long, fun (.long h) => h⟩
      all_goals nofun
  | .range _ => ⟨fun _ => .range, fun _ => ⟨_, rfl⟩⟩
  | .bytes _ _ => exists_encodedText_eq_error_iff.trans ⟨.bytes, fun (.bytes h) => h⟩
  | .items .tuple xs => by
      rw [modelEntryName, Outcome.exists_map_eq_error_iff, exists_modelEntryNames_eq_error_iff xs]
      constructor
      · rintro ⟨x, hx, h⟩
        exact .tuple hx h
      · rintro (_ | _ | ⟨hx, h⟩ | h)
        · exact ⟨_, hx, h⟩
        · obtain ⟨x, hx, h⟩ := holdsLong_items_iff.1 h
          exact ⟨x, hx, .long h⟩

theorem exists_modelEntryNames_eq_error_iff : ∀ xs : List Value,
    (∃ f, modelEntryNames xs = .error f) ↔ ∃ x ∈ xs, Nameless x
  | [] => Outcome.exists_ok_eq_error_iff nofun
  | x :: xs => by
      rw [List.exists_mem_cons_iff, ← exists_modelEntryName_eq_error_iff x,
        ← exists_modelEntryNames_eq_error_iff xs, modelEntryNames]
      exact Outcome.exists_bind_eq_error_iff fun _ => Outcome.exists_map_eq_error_iff

end

-- A container fails just if one of its parts does: by recursion as in `modelData`, with the parts
-- of items, entries and fields taken in a row.
mutual

theorem exists_modelData_eq_error_iff : ∀ v : Value,
    (∃ f, modelData v = .error f) ↔ FormlessPart v
  | .null | .bool _ | .int _ | .real _ | .text _ | .date _ => Outcome.exists_ok_eq_error_iff nofun
  | .range _ => ⟨fun _ => .range, fun _ => ⟨_, rfl⟩⟩
  | .bytes _ _ => by
      rw [modelData, Outcome.exists_map_eq_error_iff, exists_encodedText_eq_error_iff]
      exact ⟨.bytes, fun (.bytes h) => h⟩
  | .items _ xs => by
      rw [modelData, formlessPart_items_iff, ← exists_modelItems_eq_error_iff xs]
      exact Outcome.exists_map_eq_error_iff
  | .mapping entries => by
      rw [modelData, formlessPart_mapping_iff, ← exists_modelEntries_eq_error_iff entries]
      exact Outcome.exists_map_eq_error_iff
  | .model modelName isOpen fields extra => by
      rw [modelData, formlessPart_model_iff, ← exists_modelFields_eq_error_iff fields,
        ← exists_modelFields_eq_error_iff extra]
      exact Outcome.exists_bind_eq_error_iff fun _ => Outcome.exists_map_eq_error_iff

theorem exists_modelItems_eq_error_iff : ∀ xs : List Value,
    (∃ f, modelItems xs = .error f) ↔ ∃ x ∈ xs, FormlessPart x
  | [] => Outcome.exists_ok_eq_error_iff nofun
  | x :: xs => by
      rw [List.exists_mem_cons_iff, ← exists_modelData_eq_error_iff x,
        ← exists_modelItems_eq_error_iff xs, modelItems]
      exact Outcome.exists_bind_eq_error_iff fun _ => Outcome.exists_map_eq_error_iff

theorem exists_modelEntries_eq_error_iff : ∀ entries : List (Value × Value),
    (∃ f, modelEntries entries = .error f) ↔ ∃ e ∈ entries, Nameless e.1 ∨ FormlessPart e.2
  | [] => Outcome.exists_ok_eq_error_iff nofun
  | (k, v) :: rest => by
      rw [List.exists_mem_cons_iff, ← exists_modelEntryName_eq_error_iff k,
        ← exists_modelData_eq_error_iff v, ← exists_modelEntries_eq_error_iff rest, modelEntries,
        or_assoc]
      exact Outcome.exists_bind_eq_error_iff fun _ =>
        Outcome.exists_bind_eq_error_iff fun _ => Outcome.exists_map_eq_error_iff

theorem exists_modelFields_eq_error_iff : ∀ fields : List (Text × Value),
    (∃ f, modelFields fields = .error f) ↔ ∃ e ∈ fields, FormlessPart e.2
  | [] => Outcome.exists_ok_eq_error_iff nofun
  | (_, v) :: rest => by
      rw [List.exists_mem_cons_iff, ← exists_modelData_eq_error_iff v,
        ← exists_modelFields_eq_error_iff rest, modelFields]
      exact Outcome.exists_bind_eq_error_iff fun _ => Outcome.exists_map_eq_error_iff

end

/-! ### Integers in a model -/

/-- An integer of too many digits is in the part of a model, at any depth, and not in an entry
behind which another one has its name. -/
inductive LongPart : Value → Prop where
  | int {n : Int} : Decimal.IsLong n → LongPart (int n)
  | item {kind : Collection} {x : Value} {xs : List Value} : x ∈ xs → LongPart x →
      LongPart (items kind xs)
  | entry {e : Value × Value} {after entries : List (Value × Value)} : e :: after <:+ entries →
      (∀ e' ∈ after, modelEntryName e'.1 ≠ modelEntryName e.1) → LongPart e.2 →
      LongPart (mapping entries)
  | field {modelName : Text} {isOpen : Bool} {fields extra : List (Text × Value)}
      {e : Text × Value} : e ∈ fields ++ extra → LongPart e.2 →
      LongPart (model modelName isOpen fields extra)

theorem longPart_items_iff {kind : Collection} {xs : List Value} :
    LongPart (items kind xs) ↔ ∃ x ∈ xs, LongPart x :=
  ⟨fun (.item hx h) => ⟨_, hx, h⟩, fun ⟨_, hx, h⟩ => .item hx h⟩

theorem longPart_mapping_iff {entries : List (Value × Value)} :
    LongPart (mapping entries) ↔ ∃ e after, e :: after <:+ entries ∧
      (∀ e' ∈ after, modelEntryName e'.1 ≠ modelEntryName e.1) ∧ LongPart e.2 :=
  ⟨fun (.entry hback hlast h) => ⟨_, _, hback, hlast, h⟩,
    fun ⟨_, _, hback, hlast, h⟩ => .entry hback hlast h⟩

theorem longPart_model_iff {modelName : Text} {isOpen : Bool} {fields extra : List (Text × Value)} :
    LongPart (model modelName isOpen fields extra) ↔
      (∃ e ∈ fields, LongPart e.2) ∨ ∃ e ∈ extra, LongPart e.2 := by
  rw [← exists_mem_append]
  exact ⟨fun (.field he h) => ⟨_, he, h⟩, fun ⟨_, he, h⟩ => .field he h⟩

/-- The entry of data is that of a mapping inside a model. -/
def IsEntryOf (e : Value × Value) (entry : Text × Json) : Prop :=
  modelEntryName e.1 = .ok entry.1 ∧ (entry.2.HoldsLong ↔ LongPart e.2)

/-- The names of entries differ as those of the data do. -/
theorem forall_name_ne_iff {entries : List (Value × Value)} {es : List (Text × Json)}
    (h : List.Forall₂ IsEntryOf entries es) {e : Value × Value} {entry : Text × Json}
    (he : IsEntryOf e entry) :
    (∀ e' ∈ es, e'.1 ≠ entry.1) ↔
      ∀ e' ∈ entries, modelEntryName e'.1 ≠ modelEntryName e.1 := by
  induction h with
  | nil => exact iff_of_true nofun nofun
  | cons hfirst _ ih =>
      rw [List.forall_mem_cons, List.forall_mem_cons, ih, hfirst.1, he.1, ne_eq, ne_eq,
        Except.ok.injEq]

/-- The entries that do not give way to another one, and in which there is an integer of too many
digits. -/
theorem holdsLong_lastGiven_iff {entries : List (Value × Value)} {es : List (Text × Json)}
    (h : List.Forall₂ IsEntryOf entries es) :
    (∃ entry ∈ lastGiven es, entry.2.HoldsLong) ↔ LongPart (mapping entries) := by
  simp only [mem_lastGiven, longPart_mapping_iff, ← exists_and_right, and_assoc]
  induction h with
  | nil => simp
  | cons hfirst hrest ih =>
      simp only [exists_cons_suffix_iff, exists_or, exists_eq_left, ih]
      exact or_congr_left (and_congr (forall_name_ne_iff hrest hfirst) hfirst.2)

mutual

theorem holdsLong_modelData_iff : ∀ {v : Value} {j : Json}, modelData v = .ok j →
    (j.HoldsLong ↔ LongPart v)
  | .null, _, h | .bool _, _, h | .real _, _, h | .text _, _, h | .date _, _, h => by
      cases h
      exact iff_of_false nofun nofun
  | .int _, _, h => by
      cases h
      exact ⟨fun (.int h) => .int h, fun (.int h) => .int h⟩
  | .bytes _ _, _, h => by
      obtain ⟨t, -, rfl⟩ := Outcome.map_eq_ok.1 h
      exact iff_of_false nofun nofun
  | .range _, _, h => nomatch h
  | .items _ xs, _, h => by
      obtain ⟨js, hjs, rfl⟩ := Outcome.map_eq_ok.1 h
      rw [Json.holdsLong_array_iff, longPart_items_iff, holdsLong_modelItems_iff hjs]
  | .mapping entries, _, h => by
      obtain ⟨es, hes, rfl⟩ := Outcome.map_eq_ok.1 h
      rw [Json.holdsLong_object_iff, holdsLong_lastGiven_iff (isEntryOf_modelEntries hes)]
  | .model _ _ fields extra, _, h => by
      obtain ⟨fs, hfs, hmore⟩ := Outcome.bind_eq_ok.1 h
      obtain ⟨es, hes, hdone⟩ := Outcome.bind_eq_ok.1 hmore
      cases hdone
      rw [Json.holdsLong_object_iff, exists_mem_append, longPart_model_iff,
        holdsLong_modelFields_iff hfs, holdsLong_modelFields_iff hes]

theorem holdsLong_modelItems_iff : ∀ {xs : List Value} {js : List Json}, modelItems xs = .ok js →
    ((∃ j ∈ js, j.HoldsLong) ↔ ∃ x ∈ xs, LongPart x)
  | [], _, h => by
      cases h
      exact iff_of_false nofun nofun
  | x :: xs, _, h => by
      obtain ⟨j, hj, hmore⟩ := Outcome.bind_eq_ok.1 h
      obtain ⟨js, hjs, hdone⟩ := Outcome.bind_eq_ok.1 hmore
      cases hdone
      rw [List.exists_mem_cons_iff, List.exists_mem_cons_iff, holdsLong_modelData_iff hj,
        holdsLong_modelItems_iff hjs]

theorem isEntryOf_modelEntries : ∀ {entries : List (Value × Value)} {es : List (Text × Json)},
    modelEntries entries = .ok es → List.Forall₂ IsEntryOf entries es
  | [], _, h => by
      cases h
      exact .nil
  | (k, v) :: rest, _, h => by
      obtain ⟨name, hname, hmore⟩ := Outcome.bind_eq_ok.1 h
      obtain ⟨j, hj, hmore⟩ := Outcome.bind_eq_ok.1 hmore
      obtain ⟨es, hes, hdone⟩ := Outcome.bind_eq_ok.1 hmore
      cases hdone
      exact .cons ⟨hname, holdsLong_modelData_iff hj⟩ (isEntryOf_modelEntries hes)

theorem holdsLong_modelFields_iff : ∀ {fields : List (Text × Value)} {es : List (Text × Json)},
    modelFields fields = .ok es → ((∃ e ∈ es, e.2.HoldsLong) ↔ ∃ e ∈ fields, LongPart e.2)
  | [], _, h => by
      cases h
      exact iff_of_false nofun nofun
  | (name, v) :: rest, _, h => by
      obtain ⟨j, hj, hmore⟩ := Outcome.bind_eq_ok.1 h
      obtain ⟨es, hes, hdone⟩ := Outcome.bind_eq_ok.1 hmore
      cases hdone
      rw [List.exists_mem_cons_iff, List.exists_mem_cons_iff, holdsLong_modelData_iff hj,
        holdsLong_modelFields_iff hes]

end

/-! ### Outside of models -/

/-- The value has no form as data. -/
inductive Formless : Value → Prop where
  | scalar {v : Value} : v.shape = .scalar → HoldsLong v → Formless v
  | range {p : Progression} : HoldsLong (range p) → Formless (range p)
  | item {kind : Collection} {x : Value} {xs : List Value} : kind ≠ .set → x ∈ xs → Formless x →
      Formless (items kind xs)
  | key {e : Value × Value} {entries : List (Value × Value)} : e ∈ entries → ¬ IsSimple e.1 →
      Formless (mapping entries)
  | entry {e : Value × Value} {entries : List (Value × Value)} : e ∈ entries → Formless e.2 →
      Formless (mapping entries)
  | part {modelName : Text} {isOpen : Bool} {fields extra : List (Text × Value)} :
      FormlessPart (model modelName isOpen fields extra) →
      Formless (model modelName isOpen fields extra)
  | longPart {modelName : Text} {isOpen : Bool} {fields extra : List (Text × Value)} :
      LongPart (model modelName isOpen fields extra) →
      Formless (model modelName isOpen fields extra)

/-- What is neither a mapping nor a sequence is formless just if it cannot be shown. -/
theorem formless_iff_of_scalar {v : Value} (h : v.shape = .scalar) : Formless v ↔ HoldsLong v := by
  refine ⟨fun hv => ?_, .scalar h⟩
  cases hv with
  | scalar _ hlong => exact hlong
  | range _ => cases h
  | @item kind _ _ hset _ _ =>
      cases kind with
      | list => cases h
      | tuple => cases h
      | set => exact absurd rfl hset
  | key _ _ => cases h
  | entry _ _ => cases h
  | part _ => cases h
  | longPart _ => cases h

theorem formless_items_iff {kind : Collection} {xs : List Value} (h : kind ≠ .set) :
    Formless (items kind xs) ↔ ∃ x ∈ xs, Formless x := by
  constructor
  · intro hformless
    cases hformless with
    | scalar hscalar _ =>
        cases kind with
        | list => cases hscalar
        | tuple => cases hscalar
        | set => exact absurd rfl h
    | item _ hx hitem => exact ⟨_, hx, hitem⟩
  · rintro ⟨x, hx, hitem⟩
    exact .item h hx hitem

theorem formless_mapping_iff {entries : List (Value × Value)} :
    Formless (mapping entries) ↔ ∃ e ∈ entries, ¬ IsSimple e.1 ∨ Formless e.2 := by
  constructor
  · intro hformless
    cases hformless with
    | scalar hscalar _ => cases hscalar
    | key he h => exact ⟨_, he, .inl h⟩
    | entry he h => exact ⟨_, he, .inr h⟩
  · rintro ⟨e, he, h | h⟩
    · exact .key he h
    · exact .entry he h

/-- A scalar is written just if it can be shown. -/
theorem failsIff_write_of_scalar {v : Value} (h : v.shape = .scalar) (level : Nat) :
    FailsIff .integerLength (HoldsLong v) (v.write level) := by
  cases v with
  | bool _ | real _ | text _ =>
      refine .ok fun hlong => ?_
      cases hlong
  | int n => exact (Decimal.failsIff_write n).congr holdsLong_int_iff.symm
  | bytes buffer content => exact (failsIff_shown (bytes buffer content)).map Json.writeText
  | date d => exact (failsIff_shown (date d)).map Json.writeText
  | items kind xs =>
      cases kind with
      | list | tuple => cases h
      | set => exact (failsIff_shown (items .set xs)).map Json.writeText
  | null | range _ | mapping _ | model _ _ _ _ => cases h

mutual

theorem exists_write_eq_error_iff (level : Nat) : ∀ v : Value,
    (∃ f, write level v = .error f) ↔ Formless v
  | .null => Outcome.exists_ok_eq_error_iff fun (.scalar h _) => nomatch h
  | .bool _ | .int _ | .real _ | .text _ | .date _ | .bytes .. | .items .set _ => by
      rw [formless_iff_of_scalar rfl]
      exact (failsIff_write_of_scalar rfl level).exists_error_iff
  | .range p => ((failsIff_shown (range p)).map _).exists_error_iff.trans
      ⟨.range, fun h => by cases h with
        | scalar h _ => cases h
        | range h => exact h⟩
  | .items .list xs | .items .tuple xs => by
      rw [write, formless_items_iff (by decide), ← exists_writeItems_eq_error_iff (level + 1) xs]
      exact Outcome.exists_map_eq_error_iff
  | .mapping entries => by
      rw [write, formless_mapping_iff, ← exists_writeEntries_eq_error_iff (level + 1) entries]
      exact Outcome.exists_map_eq_error_iff
  | .model modelName isOpen fields extra => by
      have hpart := exists_modelData_eq_error_iff (.model modelName isOpen fields extra)
      rw [write]
      cases hdata : modelData (.model modelName isOpen fields extra) with
      | error f => exact iff_of_true ⟨f, rfl⟩ (.part (hpart.1 ⟨f, hdata⟩))
      | ok j =>
          have hform : ¬ FormlessPart (.model modelName isOpen fields extra) := by
            rw [← hpart, hdata]
            nofun
          refine (Json.failsIff_write level j).exists_error_iff.trans ?_
          rw [holdsLong_modelData_iff hdata]
          refine ⟨.longPart, fun h => ?_⟩
          cases h with
          | scalar h _ => cases h
          | part h => exact absurd h hform
          | longPart h => exact h

theorem exists_writeItems_eq_error_iff (level : Nat) : ∀ xs : List Value,
    (∃ f, writeItems level xs = .error f) ↔ ∃ x ∈ xs, Formless x
  | [] => Outcome.exists_ok_eq_error_iff nofun
  | x :: xs => by
      rw [List.exists_mem_cons_iff, ← exists_write_eq_error_iff level x,
        ← exists_writeItems_eq_error_iff level xs, writeItems]
      exact Outcome.exists_bind_eq_error_iff fun _ => Outcome.exists_map_eq_error_iff

theorem exists_writeEntries_eq_error_iff (level : Nat) : ∀ entries : List (Value × Value),
    (∃ f, writeEntries level entries = .error f) ↔ ∃ e ∈ entries, ¬ IsSimple e.1 ∨ Formless e.2
  | [] => Outcome.exists_ok_eq_error_iff nofun
  | (k, v) :: rest => by
      rw [List.exists_mem_cons_iff, ← exists_entryName_eq_error_iff,
        ← exists_write_eq_error_iff level v, ← exists_writeEntries_eq_error_iff level rest,
        writeEntries, or_assoc]
      exact Outcome.exists_bind_eq_error_iff fun _ =>
        Outcome.exists_bind_eq_error_iff fun _ => Outcome.exists_map_eq_error_iff

end

/-- **A value that cannot be serialized** has no form as data. -/
theorem exists_serialize_eq_error_iff {v : Value} :
    (∃ f, v.serialize = .error f) ↔ Formless v :=
  exists_write_eq_error_iff 0 v

theorem exists_serialize_iff {v : Value} : (∃ shown, v.serialize = .ok shown) ↔ ¬ Formless v := by
  rw [← exists_serialize_eq_error_iff]
  cases v.serialize with
  | ok shown => simp
  | error f => simp

end Value
end Permalink
