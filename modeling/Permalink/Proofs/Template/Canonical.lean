import Permalink.Proofs.Template.Printing

/-!
# Template — canonical segments

A segment is *canonical* when it is what its model, names and markers are printed as: these are
words, each marker stands before a name and no two before the same one, and the text is the model
and the names with the markers inserted (`Segment.Canonical`).  A segment that is read is canonical
just if there is no line break in it (`canonical_iff_no_break`).

Reading allows one line break behind a name or a marker.  Behind a name it becomes part of the name,
which is then no word; behind a marker it is dropped, so that two texts are read as the same names
and markers (`two_texts_of_one_segment`).
-/

namespace Permalink

namespace Field

/-! ### Inserting markers -/

/-- The components of `names`, of which the first stands at `depth`, each with the markers of its
depth before it. -/
def componentsFrom (markers : List UnionMarker) (depth : Nat) : List Text → List Component
  | [] => []
  | name :: names =>
    (markers.filter fun m => m.depth = (depth : Int)).map (fun m => .marker m.typeName) ++
      .name name :: componentsFrom markers (depth + 1) names

theorem mem_componentsFrom {markers : List UnionMarker} {c : Component} :
    ∀ {depth : Nat} {names : List Text}, c ∈ componentsFrom markers depth names →
      c.word ∈ names ∨ ∃ m ∈ markers, c.word = m.typeName
  | _, [], h => absurd h List.not_mem_nil
  | depth, name :: names, h => by
      rcases List.mem_append.1 h with h | h
      · obtain ⟨m, hm, rfl⟩ := List.mem_map.1 h
        exact .inr ⟨m, (List.mem_filter.1 hm).1, rfl⟩
      · rcases List.mem_cons.1 h with rfl | h
        · exact .inl List.mem_cons_self
        · exact (mem_componentsFrom h).imp_left (List.mem_cons_of_mem name)

/-- Markers of a smaller depth are not inserted. -/
theorem componentsFrom_append {before : List UnionMarker} (markers : List UnionMarker) :
    ∀ {depth : Nat} (names : List Text), (∀ m ∈ before, m.depth < depth) →
      componentsFrom (before ++ markers) depth names = componentsFrom markers depth names
  | _, [], _ => rfl
  | depth, name :: names, h => by
      have hnone : before.filter (fun m => m.depth = (depth : Int)) = [] :=
        List.filter_eq_nil_iff.2 fun m hm => by simpa using Int.ne_of_lt (h m hm)
      rw [componentsFrom, componentsFrom, List.filter_append, hnone, List.nil_append,
        componentsFrom_append markers names fun m hm => Int.lt_trans (h m hm) (by omega)]

/-- A character of a printed reference is an underscore or one of a component. -/
theorem mem_print {x : Char} : ∀ {cs : List Component}, x ∈ print cs →
    x = '_' ∨ ∃ c ∈ cs, x ∈ c.text
  | [], h => absurd h List.not_mem_nil
  | [c], h => .inr ⟨c, List.mem_singleton_self c, print_singleton c ▸ h⟩
  | c :: d :: cs, h => by
      rw [print_cons_cons, List.mem_append, List.mem_cons, List.mem_cons] at h
      rcases h with h | rfl | rfl | h
      · exact .inr ⟨c, List.mem_cons_self, h⟩
      · exact .inl rfl
      · exact .inl rfl
      · exact (mem_print h).imp_right fun ⟨e, he, hx⟩ => ⟨e, List.mem_cons_of_mem c he, hx⟩

theorem le_of_mem_markersFrom {m : UnionMarker} : ∀ {depth : Nat} {cs : List Component},
    m ∈ markersFrom depth cs → (depth : Int) ≤ m.depth
  | _, [], h => absurd h List.not_mem_nil
  | depth, .name _ :: cs, h => by
      have hmem : m ∈ markersFrom (depth + 1) cs := h
      have hle := le_of_mem_markersFrom hmem
      omega
  | _, .marker _ :: _, h => by
      rcases List.mem_cons.1 h with rfl | h
      · exact Int.le_refl _
      · exact le_of_mem_markersFrom h

end Field

namespace Segment

open Permalink.Field (Component names markersFrom componentsFrom)

/-! ### Components that are read -/

/-- A name without a line break is a word. -/
theorem IsName.isWord {t : Text} (h : IsName t) (hbreak : '\n' ∉ t) : IsWord t := by
  obtain ⟨w, hw, rfl | rfl⟩ := h
  · exact hw
  · simp at hbreak

namespace ReadAs

variable {afterMarker : Bool} {cs : List Text} {components : List Component}

/-- Behind a marker a name is read. -/
theorem exists_name (h : ReadAs true cs components) :
    ∃ w rest, components = .name w :: rest := by
  cases h with
  | name _ _ => exact ⟨_, _, rfl⟩

/-- Texts without line breaks are those of the components that are read from them. -/
theorem eq_map_text (h : ReadAs afterMarker cs components) (hbreak : ∀ c ∈ cs, '\n' ∉ c) :
    cs = components.map Component.text := by
  induction h with
  | nil => rfl
  | name _ _ ih =>
      rw [List.map_cons, ← ih (List.forall_mem_cons.1 hbreak).2]
      rfl
  | @marker w c cs components hw _ ih =>
      obtain ⟨hc, hbreak⟩ := List.forall_mem_cons.1 hbreak
      rw [List.map_cons, ← ih hbreak]
      rcases hw.2 with rfl | rfl
      · rfl
      · simp at hc

theorem mem_names (h : ReadAs afterMarker cs components) {name : Text}
    (hn : name ∈ names components) : name ∈ cs ∧ IsName name := by
  induction h with
  | nil => cases hn
  | name hc _ ih =>
      rcases List.mem_cons.1 hn with rfl | hn
      · exact ⟨List.mem_cons_self, hc⟩
      · exact ⟨List.mem_cons_of_mem _ (ih hn).1, (ih hn).2⟩
  | marker _ _ ih => exact ⟨List.mem_cons_of_mem _ (ih hn).1, (ih hn).2⟩

/-- What is read has a name: a marker does not stand last. -/
theorem names_ne_nil (h : ReadAs afterMarker cs components) (hcs : cs ≠ []) :
    names components ≠ [] := by
  cases h with
  | nil => exact absurd rfl hcs
  | name _ _ => exact List.cons_ne_nil _ _
  | marker _ h =>
      obtain ⟨w, rest, rfl⟩ := h.exists_name
      exact List.cons_ne_nil _ _

theorem isWord_typeName (h : ReadAs afterMarker cs components) {depth : Nat} {m : UnionMarker}
    (hm : m ∈ markersFrom depth components) : IsWord m.typeName := by
  induction h generalizing depth with
  | nil => cases hm
  | name _ _ ih => exact ih hm
  | marker hw _ ih =>
      rcases List.mem_cons.1 hm with rfl | hm
      · exact hw.1
      · exact ih hm

/-- The markers have increasing depths, since a name follows each. -/
theorem pairwise_depth (h : ReadAs afterMarker cs components) (depth : Nat) :
    (markersFrom depth components).Pairwise fun a b => a.depth < b.depth := by
  induction h generalizing depth with
  | nil => exact .nil
  | name _ _ ih => exact ih (depth + 1)
  | marker _ hrest ih =>
      obtain ⟨c, rest, rfl⟩ := hrest.exists_name
      refine .cons (fun m hm => ?_) (ih depth)
      have hle : ((depth + 1 : Nat) : Int) ≤ m.depth := Field.le_of_mem_markersFrom hm
      dsimp only
      omega

/-- Each marker stands before one of the names. -/
theorem depth_lt (h : ReadAs afterMarker cs components) {depth : Nat} {m : UnionMarker}
    (hm : m ∈ markersFrom depth components) : m.depth < depth + (names components).length := by
  induction h generalizing depth with
  | nil => cases hm
  | name _ _ ih =>
      have hlt := ih hm
      rw [names, List.length_cons]
      omega
  | marker _ hrest ih =>
      rcases List.mem_cons.1 hm with rfl | hm
      · obtain ⟨c, rest, rfl⟩ := hrest.exists_name
        rw [names, names, List.length_cons]
        dsimp only
        omega
      · exact ih hm

/-- **The markers inserted into the names** are the components that were read.  Of the markers,
`before` are those behind which the first component was read. -/
theorem componentsFrom_eq (h : ReadAs afterMarker cs components) (depth : Nat)
    (before : List UnionMarker) (hbefore : ∀ m ∈ before, m.depth = depth)
    (hafter : afterMarker = false → before = []) :
    componentsFrom (before ++ markersFrom depth components) depth (names components) =
      before.map (fun m => .marker m.typeName) ++ components := by
  induction h generalizing depth before with
  | nil =>
      rw [hafter rfl]
      rfl
  | @name _ c cs components _ _ ih =>
      -- The markers read before the name stand at its depth, those read behind it deeper.
      have hall : before.filter (fun m => m.depth = (depth : Int)) = before :=
        List.filter_eq_self.2 fun m hm => by simpa using hbefore m hm
      have hnone : (markersFrom (depth + 1) components).filter
          (fun m => m.depth = (depth : Int)) = [] :=
        List.filter_eq_nil_iff.2 fun m hm => by
          have hle : ((depth + 1 : Nat) : Int) ≤ m.depth := Field.le_of_mem_markersFrom hm
          simp only [decide_eq_true_eq]
          omega
      have hlt : ∀ m ∈ before, m.depth < (depth + 1 : Nat) := fun m hm => by
        rw [hbefore m hm]
        omega
      have ih : componentsFrom (markersFrom (depth + 1) components) (depth + 1) (names components) =
          components := ih (depth + 1) [] (by simp) fun _ => rfl
      rw [names, markersFrom, componentsFrom, List.filter_append, hall, hnone, List.append_nil,
        Field.componentsFrom_append _ _ hlt, ih]
  | @marker w c cs components _ _ ih =>
      rw [hafter rfl]
      exact ih depth [⟨w, depth⟩] (by simp) fun e => absurd e.symm Bool.false_ne_true

end ReadAs

/-! ### Canonical segments -/

/-- The segment is what its model, names and markers are printed as. -/
structure Canonical (s : Segment) : Prop where
  model : IsWord s.model
  names : ∀ name ∈ s.path, IsWord name
  types : ∀ m ∈ s.markers, IsWord m.typeName
  /-- The markers are in order, no two before the same name. -/
  increasing : s.markers.Pairwise fun a b => a.depth < b.depth
  /-- Each marker stands before a name. -/
  before : ∀ m ∈ s.markers, 0 ≤ m.depth ∧ m.depth < s.path.length
  raw : s.raw = textOf s.model (componentsFrom s.markers 0 s.path)

/-- A canonical segment has no line break. -/
theorem Canonical.no_break {s : Segment} (h : s.Canonical) : '\n' ∉ s.raw := by
  have hword : ∀ {t : Text}, IsWord t → '\n' ∉ t := fun ht hm =>
    Bool.false_ne_true (not_isWord_break.symm.trans (ht.2 _ hm))
  have hprint : '\n' ∉ Field.print (componentsFrom s.markers 0 s.path) := fun hm => by
    rcases Field.mem_print hm with heq | ⟨c, hc, hm⟩
    · exact absurd heq (by decide)
    · have hc' : '\n' ∉ c.word := by
        rcases Field.mem_componentsFrom hc with hname | ⟨m, hm, heq⟩
        · exact hword (h.names _ hname)
        · exact heq ▸ hword (h.types m hm)
      cases c with
      | name w => exact hc' hm
      | marker w => simp [Component.text, show '\n' ∉ w from hc'] at hm
  rw [h.raw]
  simp [textOf, Template.Part.text, hword h.model, hprint]

/-- The components that are read from the texts into which the field is cut. -/
theorem Written.exists_readAs {s : Segment} (h : s.Written) : ∃ components,
    ReadAs false (Field.pieces s.field) components ∧ s.path = names components ∧
      s.markers = markersFrom 0 components := by
  obtain ⟨components, hread, hr⟩ := readComponents_eq_ok_iff.1 h.components
  exact ⟨components, hread, Prod.mk.inj hr⟩

/-- The markers inserted into the names are read from the texts into which the field is cut. -/
theorem Written.readAs_componentsFrom {s : Segment} (h : s.Written) :
    ReadAs false (Field.pieces s.field) (componentsFrom s.markers 0 s.path) := by
  obtain ⟨components, hread, hpath, hmarkers⟩ := h.exists_readAs
  have hinserted := hread.componentsFrom_eq 0 [] (by simp) fun _ => rfl
  rw [List.nil_append, ← hmarkers, ← hpath] at hinserted
  exact hinserted ▸ hread

/-- The types of markers are words, and the markers stand before names, in order. -/
theorem Written.markers_ordered {s : Segment} (h : s.Written) :
    (∀ m ∈ s.markers, Segment.IsWord m.typeName ∧ 0 ≤ m.depth ∧ m.depth < s.path.length) ∧
      s.markers.Pairwise fun a b => a.depth < b.depth := by
  obtain ⟨components, hread, hpath, hmarkers⟩ := h.exists_readAs
  rw [hpath, hmarkers]
  refine ⟨fun m hm => ⟨hread.isWord_typeName hm, ?_, ?_⟩, hread.pairwise_depth 0⟩
  · exact Field.le_of_mem_markersFrom hm
  · have hlt := hread.depth_lt hm
    omega

theorem Written.isName_of_mem_path {s : Segment} (h : s.Written) {name : Text}
    (hn : name ∈ s.path) : IsName name := by
  obtain ⟨components, hread, hpath, -⟩ := h.exists_readAs
  exact (hread.mem_names (hpath ▸ hn)).2

/-- The path of a segment has a name. -/
theorem Written.path_ne_nil {s : Segment} (h : s.Written) : s.path ≠ [] := by
  obtain ⟨components, hread, hpath, -⟩ := h.exists_readAs
  exact hpath ▸ hread.names_ne_nil (Field.pieces_ne_nil s.field)

/-- **A segment without line breaks is canonical.** -/
theorem Written.canonical {s : Segment} (h : s.Written)
    (hraw : s.raw = (Template.Part.region (s.model ++ '.' :: s.field)).text)
    (hbreak : '\n' ∉ s.raw) : s.Canonical := by
  obtain ⟨hmarker, hincreasing⟩ := h.markers_ordered
  obtain ⟨components, hread, hpath, -⟩ := h.exists_readAs
  have hsplit := Field.split_pieces s.field
  have hbreak' : '\n' ∉ s.model ∧ '\n' ∉ s.field := by
    rw [hraw] at hbreak
    simpa [Template.Part.text] using hbreak
  have hpieces : ∀ c ∈ Field.pieces s.field, '\n' ∉ c := fun c hc hm =>
    hbreak'.2 (hsplit.mem_of_mem hc hm)
  have hnames : ∀ name ∈ s.path, IsWord name := fun name hname => by
    obtain ⟨hmem, hname⟩ := hread.mem_names (hpath ▸ hname)
    exact hname.isWord (hpieces name hmem)
  have hfield : s.field = Field.print (componentsFrom s.markers 0 s.path) := by
    rw [Field.print, ← h.readAs_componentsFrom.eq_map_text hpieces, hsplit.intercalate_eq]
  exact {
    model := h.model.isWord hbreak'.1
    names := hnames
    types := fun m hm => (hmarker m hm).1
    increasing := hincreasing
    before := fun m hm => (hmarker m hm).2
    raw := by rw [textOf, ← hfield, ← hraw] }

end Segment

namespace Template

/-- A segment that is read has the text that its model and field make. -/
theorem Reads.written_of_mem {i : Nat} {parts : List Part} {segments : List Segment}
    (h : Reads i parts segments) {s : Segment} (hs : s ∈ segments) :
    s.Written ∧ s.raw = (Part.region (s.model ++ '.' :: s.field)).text := by
  obtain ⟨body, -, start, stop, hread⟩ := h.exists_region hs
  obtain ⟨⟨hraw, -, -⟩, hwritten⟩ := Segment.ofRaw_eq_ok_iff.1 hread
  have hbody := hwritten.body
  rw [hraw, Segment.body_of_text] at hbody
  exact ⟨hwritten, hbody ▸ hraw⟩

theorem written_of_analyze {given : Text} {t : Template} (ht : analyze given = .ok t) {s : Segment}
    (hs : s ∈ t.segments) : s.Written ∧ s.raw = (Part.region (s.model ++ '.' :: s.field)).text := by
  obtain ⟨parts, hlayout⟩ := exists_layout_of_analyze ht
  exact hlayout.reads.written_of_mem hs

/-- **Which segments are canonical.**  In every segment of an analyzed template the types of markers
are words and the markers stand before names, in order.  The segment is canonical just if it has no
line break; and of two such segments, in one template or in two, the model, names and markers say
which text they have. -/
theorem canonical_iff_no_break {given : Text} {t : Template} (ht : analyze given = .ok t)
    {s : Segment} (hs : s ∈ t.segments) :
    ((∀ m ∈ s.markers, Segment.IsWord m.typeName ∧ 0 ≤ m.depth ∧ m.depth < s.path.length) ∧
      s.markers.Pairwise fun a b => a.depth < b.depth) ∧
    (s.Canonical ↔ '\n' ∉ s.raw) ∧
    ('\n' ∉ s.raw → ∀ (given' : Text) (t' : Template) (s' : Segment), analyze given' = .ok t' →
      s' ∈ t'.segments → '\n' ∉ s'.raw → s'.model = s.model → s'.path = s.path →
      s'.markers = s.markers → s'.raw = s.raw) := by
  obtain ⟨hs', hraw⟩ := written_of_analyze ht hs
  refine ⟨hs'.markers_ordered, ⟨Segment.Canonical.no_break, hs'.canonical hraw⟩, ?_⟩
  intro hbreak given' t' u ht' hu hbreak' hmodel hpath hmarkers
  obtain ⟨hu', huraw⟩ := written_of_analyze ht' hu
  rw [(hu'.canonical huraw hbreak').raw, (hs'.canonical hraw hbreak).raw, hmodel, hpath, hmarkers]

/-- The template `{Post.parent__(File)__name}`, as one region of `given` from offset `start` on. -/
def fileTemplate (given stripped : Text) (start : Nat) : Template :=
  { given, stripped
    segments := [Segment.printed "Post".toList start
      [.name "parent".toList, .marker "File".toList, .name "name".toList]]
    model := some "Post".toList }

/-- The segment in two templates. -/
theorem canonical_iff_no_break_file :
    analyze "\x7bPost.parent__(File)__name\x7d".toList =
      .ok (fileTemplate "\x7bPost.parent__(File)__name\x7d".toList
        "\x7bPost.parent__(File)__name\x7d".toList 0) ∧
    analyze "blog/\x7bPost.parent__(File)__name\x7d.js".toList =
      .ok (fileTemplate "blog/\x7bPost.parent__(File)__name\x7d.js".toList
        "blog/\x7bPost.parent__(File)__name\x7d".toList 5) ∧
    ∃ s s' : Segment, s.start = 0 ∧ s'.start = 5 ∧ s.markers = [⟨"File".toList, 1⟩] ∧
      s.Canonical ∧ s'.Canonical ∧ s'.raw = s.raw := by
  have ht : analyze "\x7bPost.parent__(File)__name\x7d".toList =
      .ok (fileTemplate "\x7bPost.parent__(File)__name\x7d".toList
        "\x7bPost.parent__(File)__name\x7d".toList 0) := by decide
  have ht' : analyze "blog/\x7bPost.parent__(File)__name\x7d.js".toList =
      .ok (fileTemplate "blog/\x7bPost.parent__(File)__name\x7d.js".toList
        "blog/\x7bPost.parent__(File)__name\x7d".toList 5) := by decide
  obtain ⟨-, hiff, hsame⟩ := canonical_iff_no_break ht List.mem_cons_self
  obtain ⟨-, hiff', -⟩ := canonical_iff_no_break ht' List.mem_cons_self
  exact ⟨ht, ht', _, _, rfl, rfl, rfl, hiff.2 (by decide), hiff'.2 (by decide),
    hsame (by decide) _ _ _ ht' List.mem_cons_self (by decide) rfl rfl rfl⟩

/-- The segment of model `P⏎`, where `⏎` is a line break, with the field `field` that is read as a
marker `T` and a name `n`. -/
def brokenSegment (field : Text) : Segment :=
  let raw := (Part.region (['P', '\n'] ++ '.' :: field)).text
  { raw, start := 0, stop := raw.length, model := ['P', '\n'], field, path := [['n']]
    markers := [⟨['T'], 0⟩] }

/-- The template of that segment alone. -/
def brokenTemplate (field : Text) : Template :=
  { given := (brokenSegment field).raw, stripped := (brokenSegment field).raw
    segments := [brokenSegment field], model := some ['P', '\n'] }

/-- **Line breaks are kept in names and dropped from markers.**  The model of `{P⏎.(T)⏎__n}` is no
word; and what its one segment is read as is also read from the text without the second line break,
which is what it is printed as. -/
theorem two_texts_of_one_segment :
    ∃ (t t' : Template) (s s' : Segment),
      analyze "\x7bP\n.(T)\n__n\x7d".toList = .ok t ∧ t.segments = [s] ∧
      analyze "\x7bP\n.(T)__n\x7d".toList = .ok t' ∧ t'.segments = [s'] ∧
      s'.model = s.model ∧ s'.path = s.path ∧ s'.markers = s.markers ∧ s'.raw ≠ s.raw ∧
      ¬ Segment.IsWord s.model ∧ s.raw ≠ Segment.textOf s.model
        (Field.componentsFrom s.markers 0 s.path) ∧ ¬ s.Canonical := by
  have ht : analyze "\x7bP\n.(T)\n__n\x7d".toList = .ok (brokenTemplate "(T)\n__n".toList) := by
    decide
  have ht' : analyze "\x7bP\n.(T)__n\x7d".toList = .ok (brokenTemplate "(T)__n".toList) := by
    decide
  have hmodel : ¬ Segment.IsWord ['P', '\n'] := by decide
  exact ⟨_, _, _, _, ht, rfl, ht', rfl, rfl, rfl, rfl, by decide, hmodel, by decide,
    fun h => hmodel h.model⟩

end Template
end Permalink
