import Permalink.Proofs.Template.Reading

/-!
# Template — printing segments

A printer beside the reader of segments.  A field reference is printed from its components, which
are names and markers, with two underscores between each two (`Field.print`), and a segment from its
model and components (`Segment.printed`).

* `readComponents_eq_ok_iff`: what is read are components, one from each text (`ReadAs`), and what
  the segment keeps of them are the names, and the markers with the number of names before each.
* `split_print`: printed components are found again where the reference is cut, if no component has
  two underscores in a row and none but the last is a name with an underscore at its end.
* `ofRaw_printed`: **what is printed is read back.**
-/

namespace Permalink

open Segment (IsWord IsName IsMarkerOf IsMarker)

namespace Field

/-! ### Components -/

/-- A component of a field reference: a name, or a marker by the type that it narrows to. -/
inductive Component where
  | name (w : Text)
  | marker (typeName : Text)
  deriving DecidableEq

namespace Component

/-- The name, or the type of the marker. -/
def word : Component → Text
  | name w => w
  | marker w => w

/-- A component as it is written: markers are put in parentheses. -/
def text : Component → Text
  | name w => w
  | marker w => '(' :: (w ++ [')'])

/-- Is the component a marker? -/
def isMarker : Component → Bool
  | name _ => false
  | marker _ => true

end Component

/-- The names among some components. -/
def names : List Component → List Text
  | [] => []
  | .name w :: cs => w :: names cs
  | .marker _ :: cs => names cs

/-- The markers among some components that follow `depth` names, each with the number of names
before it. -/
def markersFrom (depth : Nat) : List Component → List UnionMarker
  | [] => []
  | .name _ :: cs => markersFrom (depth + 1) cs
  | .marker w :: cs => ⟨w, depth⟩ :: markersFrom depth cs

/-- The field reference of some components. -/
def print (cs : List Component) : Text := List.intercalate ['_', '_'] (cs.map Component.text)

theorem print_singleton (c : Component) : print [c] = c.text := by simp [print]

theorem print_cons_cons (c d : Component) (cs : List Component) :
    print (c :: d :: cs) = c.text ++ '_' :: '_' :: print (d :: cs) := by
  rw [print, List.map_cons, List.map_cons, List.intercalate_cons_cons, List.append_assoc]
  rfl

/-- Components that can be told apart when they are printed. -/
structure Printable (cs : List Component) : Prop where
  /-- Names and types are made of word characters, without two underscores in a row. -/
  words : ∀ c ∈ cs, IsWord c.word ∧ ¬ ['_', '_'] <:+: c.word
  /-- No two markers are neighbours. -/
  apart : cs.IsChain fun a b => ¬ (a.isMarker = true ∧ b.isMarker = true)
  /-- The last component is a name. -/
  last : ∃ c ∈ cs.getLast?, c.isMarker = false
  /-- No other name ends in an underscore. -/
  inner : ∀ c ∈ cs.dropLast, c.isMarker = false → c.word.getLast? ≠ some '_'

instance (cs : List Component) : Decidable (Printable cs) :=
  decidable_of_iff
    ((∀ c ∈ cs, IsWord c.word ∧ ¬ ['_', '_'] <:+: c.word) ∧
      cs.IsChain (fun a b => ¬ (a.isMarker = true ∧ b.isMarker = true)) ∧
      (∃ c ∈ cs.getLast?, c.isMarker = false) ∧
      ∀ c ∈ cs.dropLast, c.isMarker = false → c.word.getLast? ≠ some '_')
    ⟨fun ⟨hwords, hapart, hlast, hinner⟩ => ⟨hwords, hapart, hlast, hinner⟩,
      fun ⟨hwords, hapart, hlast, hinner⟩ => ⟨hwords, hapart, hlast, hinner⟩⟩

/-! ### Cutting what is printed -/

/-- One more character behind a text makes a pair only with an underscore at its end. -/
theorem no_pair_append_singleton {t : Text} {x : Char} (ht : ¬ ['_', '_'] <:+: t)
    (hx : x = '_' → t.getLast? ≠ some '_') : ¬ ['_', '_'] <:+: t ++ [x] := by
  intro h
  rcases List.infix_concat_iff.1 h with hsuffix | hinfix
  · have hpair : (['_'] ++ ['_'] : Text) <:+ t ++ [x] := hsuffix
    obtain ⟨u, hu⟩ := hpair
    rw [← List.append_assoc] at hu
    obtain ⟨ht', hx'⟩ := List.append_inj' hu rfl
    exact hx (List.singleton_inj.1 hx').symm (by rw [← ht', List.getLast?_concat])
  · exact ht hinfix

namespace Component

theorem no_pair_text {c : Component} (h : ¬ ['_', '_'] <:+: c.word) : ¬ ['_', '_'] <:+: c.text := by
  cases c with
  | name w => exact h
  | marker w =>
      have hclosed : ¬ ['_', '_'] <:+: w ++ [')'] :=
        no_pair_append_singleton h fun hx => absurd hx (by decide)
      intro hi
      rcases List.infix_cons_iff.1 hi with hp | hi
      · exact absurd (List.cons_prefix_cons.1 hp).1 (by decide)
      · exact hclosed hi

/-- The underscores behind a component make no earlier pair with it. -/
theorem no_pair_text_append {c : Component} (h : ¬ ['_', '_'] <:+: c.word)
    (hname : c.isMarker = false → c.word.getLast? ≠ some '_') :
    ¬ ['_', '_'] <:+: c.text ++ ['_'] := by
  refine no_pair_append_singleton (no_pair_text h) fun _ => ?_
  cases c with
  | name w => exact hname rfl
  | marker w =>
      rw [text, ← List.cons_append, List.getLast?_concat]
      decide

end Component

/-- **Printed components are found again** where the reference is cut. -/
theorem split_print : ∀ {cs : List Component}, cs ≠ [] →
    (∀ c ∈ cs, ¬ ['_', '_'] <:+: c.word) →
    (∀ c ∈ cs.dropLast, c.isMarker = false → c.word.getLast? ≠ some '_') →
    Split (print cs) (cs.map Component.text)
  | [], hne, _, _ => absurd rfl hne
  | [c], _, hpair, _ => by
      rw [print_singleton]
      exact .last (Component.no_pair_text (hpair c List.mem_cons_self))
  | c :: d :: cs, _, hpair, hinner => by
      obtain ⟨hc, hpair⟩ := List.forall_mem_cons.1 hpair
      rw [List.dropLast_cons_cons, List.forall_mem_cons] at hinner
      rw [print_cons_cons]
      exact .cons (Component.no_pair_text_append hc hinner.1)
        (split_print (List.cons_ne_nil d cs) hpair hinner.2)

end Field

namespace Segment

open Permalink.Field (Component Printable names markersFrom)

/-! ### What is read -/

/-- The components that are read from some texts, after a marker or not. -/
inductive ReadAs : (afterMarker : Bool) → List Text → List Component → Prop where
  | nil : ReadAs false [] []
  | name {afterMarker : Bool} {c : Text} {cs : List Text} {components : List Component} :
      IsName c → ReadAs false cs components → ReadAs afterMarker (c :: cs) (.name c :: components)
  | marker {w c : Text} {cs : List Text} {components : List Component} :
      IsMarkerOf w c → ReadAs true cs components → ReadAs false (c :: cs) (.marker w :: components)

/-- **What is read** are the names and the markers among the components. -/
theorem readComponents_eq_ok_iff {raw : Text} {depth : Nat} {afterMarker : Bool} {cs : List Text}
    {r : List Text × List UnionMarker} :
    readComponents raw depth afterMarker cs = .ok r ↔
      ∃ components, ReadAs afterMarker cs components ∧
        r = (names components, markersFrom depth components) := by
  constructor
  · intro h
    induction cs generalizing depth afterMarker r with
    | nil =>
        cases afterMarker with
        | true => cases h
        | false => exact ⟨[], .nil, (Except.ok.inj h).symm⟩
    | cons c cs ih =>
        rcases readComponents_cons_eq_ok.1 h with ⟨hc, r', hr', rfl⟩ | ⟨rfl, w, hw, r', hr', rfl⟩
        · obtain ⟨components, hread, rfl⟩ := ih hr'
          exact ⟨.name c :: components, .name hc hread, rfl⟩
        · obtain ⟨components, hread, rfl⟩ := ih hr'
          exact ⟨.marker w :: components, .marker hw hread, rfl⟩
  · rintro ⟨components, hread, rfl⟩
    induction hread generalizing depth with
    | nil => rfl
    | name hc _ ih => exact readComponents_cons_eq_ok.2 (.inl ⟨hc, _, ih, rfl⟩)
    | marker hw _ ih => exact readComponents_cons_eq_ok.2 (.inr ⟨rfl, _, hw, _, ih, rfl⟩)

/-- Components are read from their own texts if no two markers are neighbours, a name is the last
and, behind a marker, a name is the first. -/
theorem readAs_text : ∀ {afterMarker : Bool} {cs : List Component}, (∀ c ∈ cs, IsWord c.word) →
    cs.IsChain (fun a b => ¬ (a.isMarker = true ∧ b.isMarker = true)) →
    (∀ c ∈ cs.getLast?, c.isMarker = false) →
    (afterMarker = true → ∃ c ∈ cs.head?, c.isMarker = false) →
    ReadAs afterMarker (cs.map Component.text) cs
  | false, [], _, _, _, _ => .nil
  | true, [], _, _, _, hhead => by simpa using hhead rfl
  | _, .name w :: cs, hwords, hapart, hlast, _ => by
      obtain ⟨hw, hwords⟩ := List.forall_mem_cons.1 hwords
      have hlast' : ∀ c ∈ cs.getLast?, c.isMarker = false := fun c hc =>
        hlast c (List.mem_getLast?_cons hc)
      exact .name hw.isName
        (readAs_text hwords hapart.of_cons hlast' fun h => absurd h Bool.false_ne_true)
  | true, .marker w :: cs, _, _, _, hhead => by simp [Component.isMarker] at hhead
  | false, [.marker w], _, _, hlast, _ => by simp [Component.isMarker] at hlast
  | false, .marker w :: d :: cs, hwords, hapart, hlast, _ => by
      obtain ⟨hw, hwords⟩ := List.forall_mem_cons.1 hwords
      obtain ⟨hd, hapart⟩ := List.isChain_cons_cons.1 hapart
      have hd : d.isMarker = false := by simpa [Component.isMarker] using hd
      exact .marker ⟨hw, .inl rfl⟩
        (readAs_text hwords hapart (fun c hc => hlast c (by rwa [List.getLast?_cons_cons]))
          fun _ => ⟨d, rfl, hd⟩)

/-! ### Printing a segment -/

/-- The text of a segment of `model` with the components `cs`. -/
def textOf (model : Text) (cs : List Component) : Text :=
  (Template.Part.region (model ++ '.' :: Field.print cs)).text

/-- The segment of `model` with the components `cs`, printed at the offset `start`. -/
def printed (model : Text) (start : Nat) (cs : List Component) : Segment where
  raw := textOf model cs
  start := start
  stop := (start + (textOf model cs).length : Nat)
  model := model
  field := Field.print cs
  path := names cs
  markers := markersFrom 0 cs

/-- A printed reference has no period, since no component has one. -/
theorem period_not_mem_print {cs : List Component} (hne : cs ≠ []) (h : Printable cs) :
    '.' ∉ Field.print cs := by
  intro hmem
  rcases (Field.split_print hne (fun c hc => (h.words c hc).2) h.inner).mem_or_mem hmem with
    heq | ⟨t, ht, htmem⟩
  · exact absurd heq (by decide)
  · obtain ⟨c, hc, rfl⟩ := List.mem_map.1 ht
    have hword : '.' ∉ c.word := fun hm => absurd ((h.words c hc).1.2 _ hm) (by decide)
    cases c with
    | name w => exact hword htmem
    | marker w => simp [Component.text, show '.' ∉ w from hword] at htmem

/-- **What is printed is read back**, at the offsets where it is printed. -/
theorem ofRaw_printed {model : Text} (hmodel : IsWord model) {cs : List Component}
    (h : Printable cs) (start : Nat) :
    ofRaw (textOf model cs) start (start + (textOf model cs).length : Nat) =
      .ok (printed model start cs) := by
  obtain ⟨c, hc, hname⟩ := h.last
  have hne : cs ≠ [] := List.ne_nil_of_mem (List.mem_of_mem_getLast? hc)
  have hsplit := Field.split_print hne (fun c hc => (h.words c hc).2) h.inner
  have hlast : ∀ d ∈ cs.getLast?, d.isMarker = false := fun d hd =>
    Option.mem_unique hd hc ▸ hname
  have hread : ReadAs false (cs.map Component.text) cs :=
    readAs_text (fun c hc => (h.words c hc).1) h.apart hlast fun h => absurd h Bool.false_ne_true
  have hcomponents : readComponents (textOf model cs) 0 false (Field.pieces (Field.print cs)) =
      .ok (names cs, markersFrom 0 cs) := by
    rw [Field.pieces_eq_iff.2 hsplit]
    exact readComponents_eq_ok_iff.2 ⟨cs, hread, rfl⟩
  have hfield : Field.print cs ≠ [] :=
    (reference_iff.1 (readComponents_ok_iff.1 ⟨_, hcomponents⟩)).field_ne_nil (Field.split_pieces _)
  exact ofRaw_eq_ok_iff.2 ⟨⟨rfl, rfl, rfl⟩, body_of_text _, hmodel.isName, hfield,
    period_not_mem_print hne h, hcomponents⟩

end Segment
end Permalink
