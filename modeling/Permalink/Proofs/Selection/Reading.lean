import Permalink.Proofs.Selection.KeyPaths
import Permalink.Proofs.Template.Canonical
import Permalink.Selection.Query

/-!
# Selection — reading a query back

Nothing in the text of a selection is quoted: blanks separate the keys of a level and stand in the
keys that open a type, and braces say what is below a key.  Yet the text says which selection it is
of.  Cut at its blanks it is a list of *words*, and reading them takes no more than the levels that
are open (`readWords`): a brace opens or closes a level, `...` and the two words behind it are a key
that opens a type, and any other word is a name.

This reads every selection back whose keys are names and fragments of names and in which something
is selected (`read_render`).  The selections of analyzed templates are such, and so are their
queries: the text of a query says which model and which selection it is of (`query_eq_iff`).
-/

namespace Permalink

/-! ### Keys -/

namespace Segment

/-- A key of a selection: a name, or what opens a type of that name. -/
def IsKey (key : Text) : Prop := IsName key ∨ ∃ typeName, IsName typeName ∧ key = fragment typeName

/-- A name behind a word is a name. -/
theorem IsName.word_append {w t : Text} (hw : IsWord w) (ht : IsName t) : IsName (w ++ t) := by
  have hword : ∀ {u : Text}, IsWord u → IsWord (w ++ u) := fun hu =>
    ⟨List.append_ne_nil_of_left_ne_nil hw.1 _, List.forall_mem_append.2 ⟨hw.2, hu.2⟩⟩
  obtain ⟨u, hu, rfl | rfl⟩ := ht
  · exact ⟨_, hword hu, .inl rfl⟩
  · exact ⟨_, hword hu, .inr (List.append_assoc ..).symm⟩

/-- A key of a segment is one of its names, or opens the type of one of its markers. -/
theorem mem_keyPathFrom {markers : List UnionMarker} {key : Text} :
    ∀ {depth : Nat} {names : List Text}, key ∈ keyPathFrom markers depth names →
      key ∈ names ∨ ∃ m ∈ markers, key = fragment m.typeName
  | _, [], h => absurd h List.not_mem_nil
  | depth, name :: names, h => by
      rcases List.mem_append.1 h with h | h
      · obtain ⟨typeName, htype, rfl⟩ := Option.map_eq_some_iff.1 (Option.mem_toList.1 h)
        obtain ⟨m, hm, rfl⟩ := Option.map_eq_some_iff.1 htype
        exact .inr ⟨m, (List.mem_filter.1 (List.mem_of_getLast? hm)).1, rfl⟩
      · rcases List.mem_cons.1 h with rfl | h
        · exact .inl List.mem_cons_self
        · exact (mem_keyPathFrom h).imp_left (List.mem_cons_of_mem name)

theorem Written.isKey_of_mem_keyPath {s : Segment} (h : s.Written) {key : Text}
    (hkey : key ∈ s.keyPath) : IsKey key := by
  rcases mem_keyPathFrom hkey with hname | ⟨m, hm, rfl⟩
  · exact .inl (h.isName_of_mem_path hname)
  · exact .inr ⟨m.typeName, (h.markers_ordered.1 m hm).1.isName, rfl⟩

end Segment

namespace Selection

open Segment (IsName IsKey fragment)

theorem node_children : ∀ s : Selection, node s.children = s
  | node _ => rfl

/-- The keys of a selection are names and fragments of names. -/
def Keyed (s : Selection) : Prop := ∀ p ∈ s.keyPaths, ∀ key ∈ p, IsKey key

theorem keyed_nil : Keyed (node []) := fun _ hp => absurd hp List.not_mem_nil

theorem keyed_cons {key : Text} {below : Selection} {rest : List (Text × Selection)} :
    Keyed (node ((key, below) :: rest)) ↔ IsKey key ∧ Keyed below ∧ Keyed (node rest) := by
  constructor
  · intro h
    refine ⟨?_, fun p hp k hk => ?_, fun p hp => h p (mem_entryKeyPaths_cons.2 (.inr hp))⟩
    · exact h [key] (mem_entryKeyPaths_cons.2 (.inl (.inl rfl))) key (List.mem_singleton_self key)
    · exact h (key :: p) (mem_entryKeyPaths_cons.2 (.inl (.inr ⟨p, hp, rfl⟩))) k
        (List.mem_cons_of_mem key hk)
  · rintro ⟨hkey, hbelow, hrest⟩ p hp k hk
    rcases mem_entryKeyPaths_cons.1 hp with (rfl | ⟨q, hq, rfl⟩) | hp
    · exact List.mem_singleton.1 hk ▸ hkey
    · rcases List.mem_cons.1 hk with rfl | hk
      · exact hkey
      · exact hbelow q hq k hk
    · exact hrest p hp k hk

/-! ### The words of a selection -/

/-- The words of the entries of a level. -/
def entryWords (cs : List (Text × Selection)) : List Text :=
  (renderEntries cs).flatMap (·.splitOn ' ')

theorem entryWords_cons_empty (key : Text) (rest : List (Text × Selection)) :
    entryWords ((key, node []) :: rest) = key.splitOn ' ' ++ entryWords rest := rfl

theorem splitOn_intercalate_blank : ∀ {ts : List Text}, ts ≠ [] →
    (List.intercalate [' '] ts).splitOn ' ' = ts.flatMap (·.splitOn ' ')
  | [], h => absurd rfl h
  | [t], _ => by simp
  | t :: u :: ts, _ => by
      rw [List.intercalate_cons_cons, List.append_assoc, List.singleton_append,
        List.splitOn_append_cons_self, splitOn_intercalate_blank (List.cons_ne_nil u ts)]
      rfl

theorem renderEntries_ne_nil {cs : List (Text × Selection)} (h : cs ≠ []) :
    renderEntries cs ≠ [] := by
  match cs with
  | [] => exact absurd rfl h
  | (_, node []) :: _ => exact List.cons_ne_nil _ _
  | (_, node (_ :: _)) :: _ => exact List.cons_ne_nil _ _

/-- **The words of a selection** are those of its entries, between braces. -/
theorem splitOn_render {cs : List (Text × Selection)} (h : cs ≠ []) :
    (render (node cs)).splitOn ' ' = ['{'] :: (entryWords cs ++ [['}']]) := by
  have htext : render (node cs) =
      ['{'] ++ ' ' :: (List.intercalate [' '] (renderEntries cs) ++ ' ' :: ['}']) := by
    simp [render]
  rw [htext, List.splitOn_append_cons_self, List.splitOn_append_cons_self,
    splitOn_intercalate_blank (renderEntries_ne_nil h)]
  rfl

theorem entryWords_cons {key : Text} {cs rest : List (Text × Selection)} (h : cs ≠ []) :
    entryWords ((key, node cs) :: rest) =
      key.splitOn ' ' ++ (render (node cs)).splitOn ' ' ++ entryWords rest := by
  have hentries : renderEntries ((key, node cs) :: rest) =
      (key ++ ' ' :: render (node cs)) :: renderEntries rest := by
    rw [renderEntries]
    exact fun hnil => h (Selection.node.inj hnil)
  rw [entryWords, hentries, List.flatMap_cons, List.splitOn_append_cons_self]
  rfl

/-! ### Reading words -/

/-- The entries that some words say, behind those of `level`.  The entries of a level are kept in
reverse, and so are the levels around it, of which the last entry is the one that is opened. -/
def readWords (around : List (List (Text × Selection))) (level : List (Text × Selection)) :
    List Text → Option (List (Text × Selection))
  | [] => if around.isEmpty then some level.reverse else none
  | word :: words =>
    if word = ['{'] then readWords (level :: around) [] words
    else if word = ['}'] then
      match around with
      | ((key, _) :: before) :: around =>
        readWords around ((key, node level.reverse) :: before) words
      | _ => none
    else if word = ['.', '.', '.'] then
      match words with
      | _ :: typeName :: words => readWords around ((fragment typeName, empty) :: level) words
      | _ => none
    else readWords around ((word, empty) :: level) words

/-- The selection that a text says. -/
def read (t : Text) : Option Selection :=
  match readWords [] [([], empty)] (t.splitOn ' ') with
  | some [(_, s)] => some s
  | _ => none

/-- A name is one word. -/
theorem splitOn_name {name : Text} (h : IsName name) : name.splitOn ' ' = [name] :=
  List.splitOn_eq_singleton (h.not_mem (by decide) (by decide))

/-- It is no text that starts with a character of another kind. -/
theorem name_ne {name : Text} (h : IsName name) {c : Char} (rest : Text)
    (hc : Text.isWord c = false) (hbreak : c ≠ '\n') : name ≠ c :: rest := fun heq =>
  h.not_mem hc hbreak (heq ▸ List.mem_cons_self)

/-- **A key is read** from its words. -/
theorem readWords_key (around : List (List (Text × Selection))) (level : List (Text × Selection))
    {key : Text} (h : IsKey key) (words : List Text) :
    readWords around level (key.splitOn ' ' ++ words) =
      readWords around ((key, empty) :: level) words := by
  rcases h with hname | ⟨typeName, htype, rfl⟩
  · rw [splitOn_name hname, List.singleton_append]
    conv_lhs => unfold readWords
    rw [if_neg (name_ne hname _ (by decide) (by decide)),
      if_neg (name_ne hname _ (by decide) (by decide)),
      if_neg (name_ne hname _ (by decide) (by decide))]
  · have hwords : (fragment typeName).splitOn ' ' = [['.', '.', '.'], ['o', 'n'], typeName] := by
      have htext : fragment typeName = ['.', '.', '.'] ++ ' ' :: (['o', 'n'] ++ ' ' :: typeName) :=
        rfl
      rw [htext, List.splitOn_append_cons_self, List.splitOn_append_cons_self, splitOn_name htype]
      rfl
    rw [hwords]
    rfl

/-- A brace opens a level below the last key. -/
theorem readWords_open (around : List (List (Text × Selection))) (level : List (Text × Selection))
    (words : List Text) :
    readWords around level (['{'] :: words) = readWords (level :: around) [] words := by
  conv_lhs => unfold readWords
  rw [if_pos rfl]

/-- A brace closes a level, which is then below the last key of the level around it. -/
theorem readWords_close (around : List (List (Text × Selection)))
    (level before : List (Text × Selection)) (key : Text) (below : Selection) (words : List Text) :
    readWords (((key, below) :: before) :: around) level (['}'] :: words) =
      readWords around ((key, node level.reverse) :: before) words := by
  conv_lhs => unfold readWords
  rw [if_neg (by decide), if_pos rfl]

mutual

/-- **What is below a key is read** from its words, behind the key. -/
theorem readWords_below (around : List (List (Text × Selection))) (key : Text)
    (before : List (Text × Selection)) (words : List Text) :
    ∀ s : Selection, Keyed s → s.children ≠ [] →
      readWords around ((key, empty) :: before) (s.render.splitOn ' ' ++ words) =
        readWords around ((key, s) :: before) words
  | node cs, hkeyed, hne => by
      have hne : cs ≠ [] := hne
      rw [splitOn_render hne, List.cons_append, List.append_assoc, readWords_open,
        readWords_entries (((key, empty) :: before) :: around) [] _ cs hkeyed,
        List.singleton_append, readWords_close, List.append_nil, List.reverse_reverse]

/-- **A level is read** from the words of its entries. -/
theorem readWords_entries (around : List (List (Text × Selection)))
    (level : List (Text × Selection)) (words : List Text) :
    ∀ cs : List (Text × Selection), Keyed (node cs) →
      readWords around level (entryWords cs ++ words) =
        readWords around (cs.reverse ++ level) words
  | [], _ => rfl
  | (key, node []) :: rest, hkeyed => by
      obtain ⟨hkey, -, hrest⟩ := keyed_cons.1 hkeyed
      rw [entryWords_cons_empty, List.append_assoc, readWords_key around level hkey,
        readWords_entries around _ words rest hrest, List.reverse_cons, List.append_assoc]
      rfl
  | (key, node (c :: cs)) :: rest, hkeyed => by
      obtain ⟨hkey, hbelow, hrest⟩ := keyed_cons.1 hkeyed
      rw [entryWords_cons (List.cons_ne_nil c cs), List.append_assoc, List.append_assoc,
        readWords_key around level hkey,
        readWords_below around key level _ (node (c :: cs)) hbelow (List.cons_ne_nil c cs),
        readWords_entries around _ words rest hrest, List.reverse_cons, List.append_assoc]
      rfl

end

/-- **A selection is read back** from its text. -/
theorem read_render {s : Selection} (hkeyed : Keyed s) (hne : s.children ≠ []) :
    read s.render = some s := by
  have hread := readWords_below [] [] [] [] s hkeyed hne
  rw [List.append_nil] at hread
  rw [read, hread]
  rfl

/-! ### The selections of analyzed templates -/

/-- The keys of segments that are read. -/
theorem keyed_ofSegments {segments : List Segment} (h : ∀ g ∈ segments, g.Written) :
    Keyed (ofSegments segments) := by
  intro p hp key hkey
  rcases mem_keyPaths_ofSegments.1 hp with rfl | ⟨g, hg, -, hstart⟩
  · rw [List.mem_singleton.1 hkey]
    exact .inl (Segment.IsWord.isName (by decide))
  · exact (h g hg).isKey_of_mem_keyPath (hstart.subset hkey)

/-- The identifier is always selected. -/
theorem children_ofSegments_ne_nil (segments : List Segment) :
    (ofSegments segments).children ≠ [] := by
  intro hnil
  have hmem : [['i', 'd']] ∈ (ofSegments segments).keyPaths :=
    mem_keyPaths_ofSegments.2 (.inl rfl)
  rw [← node_children (ofSegments segments), hnil] at hmem
  cases hmem

theorem read_render_ofSegments {segments : List Segment} (h : ∀ g ∈ segments, g.Written) :
    read (ofSegments segments).render = some (ofSegments segments) :=
  read_render (keyed_ofSegments h) (children_ofSegments_ne_nil segments)

end Selection

/-! ### Queries -/

namespace Template

open Selection (node ofSegments)

/-- The query of a template as a selection: under `all` and the model's name the field `nodes`, and
below it what the segments name. -/
def querySelection (t : Template) : Selection :=
  node [(['a', 'l', 'l'] ++ t.model.getD [],
    node [(['n', 'o', 'd', 'e', 's'], ofSegments t.segments)])]

/-- The model and the selection that a query says. -/
def readQuery (q : Text) : Option (Text × Selection) :=
  match Selection.read q with
  | some (.node [(key, .node [(_, s)])]) => some (key.drop 3, s)
  | _ => none

section Analyzed

variable {given : Text} {t : Template}

/-- The query is the text of its selection. -/
theorem query_eq_render (h : t.isCollection = true) : t.query = .ok t.querySelection.render := by
  obtain ⟨c, cs, hcs⟩ := List.exists_cons_of_ne_nil
    (Selection.children_ofSegments_ne_nil t.segments)
  have hnode : ofSegments t.segments = node (c :: cs) := by rw [← hcs, Selection.node_children]
  rw [query, if_pos h, querySelection, hnode]
  simp [Text.concat, Selection.render, Selection.renderEntries]

/-- The model of a template with segments is a name. -/
theorem exists_model_of_analyze (ht : analyze given = .ok t) (h : t.isCollection = true) :
    ∃ model, t.model = some model ∧ Segment.IsName model := by
  obtain ⟨-, -, -, -, hmodel⟩ := analyze_eq_ok_iff.1 ht
  obtain ⟨hmodel, -⟩ := sharedModel_eq_ok_iff.1 hmodel
  have hne : t.segments ≠ [] := fun hnil => by simp [isCollection, hnil] at h
  obtain ⟨s, rest, hs⟩ := List.exists_cons_of_ne_nil hne
  refine ⟨s.model, by rw [hmodel, hs]; rfl, ?_⟩
  exact (written_of_analyze ht (hs ▸ List.mem_cons_self)).1.model

theorem written_segments (ht : analyze given = .ok t) : ∀ s ∈ t.segments, s.Written :=
  fun _ hs => (written_of_analyze ht hs).1

/-- **The query of an analyzed template is read back.** -/
theorem exists_readQuery (ht : analyze given = .ok t) (h : t.isCollection = true) :
    ∃ q model, t.query = .ok q ∧ t.model = some model ∧
      readQuery q = some (model, ofSegments t.segments) := by
  obtain ⟨model, hmodel, hname⟩ := exists_model_of_analyze ht h
  have hall : Segment.IsName (['a', 'l', 'l'] ++ model) :=
    Segment.IsName.word_append (by decide) hname
  have hnodes : Segment.IsName ['n', 'o', 'd', 'e', 's'] := Segment.IsWord.isName (by decide)
  have hkeyed : Selection.Keyed t.querySelection := by
    rw [querySelection, hmodel]
    exact Selection.keyed_cons.2 ⟨.inl hall, Selection.keyed_cons.2 ⟨.inl hnodes,
      Selection.keyed_ofSegments (written_segments ht), Selection.keyed_nil⟩, Selection.keyed_nil⟩
  have hread : Selection.read t.querySelection.render = some t.querySelection :=
    Selection.read_render hkeyed (List.cons_ne_nil _ _)
  refine ⟨_, model, query_eq_render h, hmodel, ?_⟩
  rw [readQuery, hread, querySelection, hmodel]
  rfl

end Analyzed

/-- **Queries are unambiguous.**  The text of the selection of an analyzed template is read back, so
that two templates with the same text have the same selection; and that of its query is read back as
its model and its selection, so that the queries of two templates are the same just if their models
and their selections are. -/
theorem query_eq_iff {given given' : Text} {t t' : Template} (ht : analyze given = .ok t)
    (ht' : analyze given' = .ok t') :
    (Selection.read (ofSegments t.segments).render = some (ofSegments t.segments) ∧
      ((ofSegments t.segments).render = (ofSegments t'.segments).render →
        ofSegments t.segments = ofSegments t'.segments)) ∧
    (t.isCollection = true → t'.isCollection = true →
      (∃ q model, t.query = .ok q ∧ t.model = some model ∧
        readQuery q = some (model, ofSegments t.segments)) ∧
      (t.query = t'.query ↔
        t.model = t'.model ∧ ofSegments t.segments = ofSegments t'.segments)) := by
  have hread := Selection.read_render_ofSegments (written_segments ht)
  have hread' := Selection.read_render_ofSegments (written_segments ht')
  refine ⟨⟨hread, fun heq => ?_⟩, fun h h' => ?_⟩
  · rw [heq] at hread
    exact Option.some.inj (hread.symm.trans hread')
  · obtain ⟨q, model, hq, hmodel, hreads⟩ := exists_readQuery ht h
    obtain ⟨q', model', hq', hmodel', hreads'⟩ := exists_readQuery ht' h'
    refine ⟨⟨q, model, hq, hmodel, hreads⟩, fun heq => ?_, fun ⟨hm, hs⟩ => ?_⟩
    · obtain rfl : q = q' := Except.ok.inj (hq.symm.trans (heq.trans hq'))
      obtain ⟨hm, hs⟩ := Prod.mk.inj (Option.some.inj (hreads.symm.trans hreads'))
      exact ⟨by rw [hmodel, hmodel', hm], hs⟩
    · rw [query, query, if_pos h, if_pos h', hm, hs]

/-- A template of two segments of the model `P`: one of the field `on`, which opens the type `on`,
and the field `on` in it, the other of the field `id`. -/
def onFields (given : Text) (first second : Nat) : Template :=
  { given, stripped := given
    segments := [Segment.printed ['P'] first
        [.name ['o', 'n'], .marker ['o', 'n'], .name ['o', 'n']],
      Segment.printed ['P'] second [.name ['i', 'd']]]
    model := some ['P'] }

/-- Two templates of these segments, and the query of both. -/
theorem query_eq_iff_onFields :
    analyze "\x7bP.on__(on)__on\x7d/\x7bP.id\x7d".toList =
      .ok (onFields "\x7bP.on__(on)__on\x7d/\x7bP.id\x7d".toList 0 17) ∧
    analyze "a-\x7bP.on__(on)__on\x7d\x7bP.id\x7d".toList =
      .ok (onFields "a-\x7bP.on__(on)__on\x7d\x7bP.id\x7d".toList 2 18) ∧
    (onFields "\x7bP.on__(on)__on\x7d/\x7bP.id\x7d".toList 0 17).query =
      .ok "\x7b allP \x7b nodes \x7b id on \x7b ... on on \x7b on \x7d \x7d \x7d \x7d \x7d".toList ∧
    (onFields "\x7bP.on__(on)__on\x7d/\x7bP.id\x7d".toList 0 17).query =
      (onFields "a-\x7bP.on__(on)__on\x7d\x7bP.id\x7d".toList 2 18).query := by
  have ht : analyze "\x7bP.on__(on)__on\x7d/\x7bP.id\x7d".toList =
      .ok (onFields "\x7bP.on__(on)__on\x7d/\x7bP.id\x7d".toList 0 17) := by decide
  have ht' : analyze "a-\x7bP.on__(on)__on\x7d\x7bP.id\x7d".toList =
      .ok (onFields "a-\x7bP.on__(on)__on\x7d\x7bP.id\x7d".toList 2 18) := by decide
  obtain ⟨-, hqueries⟩ := query_eq_iff ht ht'
  obtain ⟨-, hiff⟩ := hqueries (by decide) (by decide)
  exact ⟨ht, ht', by cbv, hiff.2 ⟨by decide, by cbv⟩⟩

end Template
end Permalink
