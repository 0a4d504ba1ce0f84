import Mathlib.Data.List.Infix
import Mathlib.Data.List.TakeWhile
import Permalink.Proofs.Outcome
import Permalink.Template.Segment

/-!
# Template — components

What the components of a field reference are, without the functions that read them.

* `Field.Split t cs`: the text `t` is cut at its pairs of underscores, the leftmost pair first.
  `Field.pieces` finds just this cut (`pieces_eq_iff`).
* `Segment.IsName` and `Segment.IsMarker`: word characters, and word characters in parentheses, in
  both cases perhaps with a line break behind.
* `Segment.Reference afterMarker cs`: after a marker or not, the components `cs` are names and
  markers, and a name follows each marker.  Reading succeeds for these and no others
  (`readComponents_ok_iff`); they are the lists of names and markers in which no two markers are
  neighbours and the last component is a name (`reference_iff`).
-/

namespace Permalink

/-! ### Cutting at pairs of underscores -/

namespace Field

/-- `cs` are the pieces of `t` between its pairs of underscores.  A piece that a pair follows makes
no earlier pair, neither in itself nor with the first underscore of that pair. -/
inductive Split : Text → List Text → Prop where
  | last {c : Text} : ¬ ['_', '_'] <:+: c → Split c [c]
  | cons {c rest : Text} {cs : List Text} : ¬ ['_', '_'] <:+: c ++ ['_'] → Split rest cs →
      Split (c ++ '_' :: '_' :: rest) (c :: cs)

theorem no_pair_at_start {c : Char} {t : Text} (h : ∀ u, c = '_' → t = '_' :: u → False) :
    ¬ ['_', '_'] <+: c :: t := by
  rintro ⟨u, hu⟩
  obtain ⟨rfl, rfl⟩ := List.cons.inj hu
  exact h u rfl rfl

theorem pieces_cons_of_no_pair {c : Char} {t : Text} (h : ¬ ['_', '_'] <+: c :: t) :
    pieces (c :: t) = (pieces t).modifyHead (c :: ·) := by
  rw [pieces]
  rintro u rfl rfl
  exact h ⟨u, rfl⟩

/-- One more character that makes no pair goes to the first piece. -/
theorem Split.prepend {c : Char} {t : Text} {cs : List Text} (hc : ¬ ['_', '_'] <+: c :: t)
    (h : Split t cs) : Split (c :: t) (cs.modifyHead (c :: ·)) := by
  cases h with
  | last hd =>
      refine .last fun hi => ?_
      rcases List.infix_cons_iff.1 hi with hp | hi
      · exact hc hp
      · exact hd hi
  | @cons d rest cs hd hrest =>
      refine .cons (c := c :: d) (fun hi => ?_) hrest
      rcases List.infix_cons_iff.1 hi with hp | hi
      · have hle : c :: (d ++ ['_']) <+: c :: (d ++ '_' :: '_' :: rest) := ⟨'_' :: rest, by simp⟩
        exact hc (hp.trans hle)
      · exact hd hi

theorem split_pieces (t : Text) : Split t (pieces t) := by
  fun_induction pieces t with
  | case1 t ih => exact .cons (c := []) (by decide) ih
  | case2 c t hc ih => exact ih.prepend (no_pair_at_start hc)
  | case3 => exact .last (by decide)

theorem pieces_of_not_infix : ∀ {c : Text}, ¬ ['_', '_'] <:+: c → pieces c = [c]
  | [], _ => rfl
  | a :: c, h => by
      have hprefix : ¬ ['_', '_'] <+: a :: c := fun hp => h hp.isInfix
      have hrest : ¬ ['_', '_'] <:+: c := fun hi => h (List.infix_cons hi)
      rw [pieces_cons_of_no_pair hprefix, pieces_of_not_infix hrest]
      rfl

theorem pieces_append_pair (rest : Text) : ∀ {c : Text}, ¬ ['_', '_'] <:+: c ++ ['_'] →
    pieces (c ++ '_' :: '_' :: rest) = c :: pieces rest
  | [], _ => rfl
  | a :: c, h => by
      have hrest : ¬ ['_', '_'] <:+: c ++ ['_'] := fun hi => h (List.infix_cons hi)
      have hprefix : ¬ ['_', '_'] <+: a :: (c ++ '_' :: '_' :: rest) := by
        -- The first two characters are those of `a :: c ++ ['_']`, which has at least two.
        intro hp
        refine h (List.IsPrefix.isInfix ?_)
        cases c with
        | nil => simpa using hp
        | cons b c => simpa using hp
      rw [List.cons_append, pieces_cons_of_no_pair hprefix, pieces_append_pair rest hrest]
      rfl

/-- **The cut is the one that `pieces` finds.** -/
theorem pieces_eq_iff {t : Text} {cs : List Text} : pieces t = cs ↔ Split t cs := by
  refine ⟨fun h => h ▸ split_pieces t, fun h => ?_⟩
  induction h with
  | last hc => exact pieces_of_not_infix hc
  | cons hc _ ih => rw [pieces_append_pair _ hc, ih]

/-- A character of a text that is cut is an underscore or one of a piece. -/
theorem Split.mem_or_mem {t : Text} {cs : List Text} (h : Split t cs) {x : Char} (hx : x ∈ t) :
    x = '_' ∨ ∃ c ∈ cs, x ∈ c := by
  induction h with
  | last _ => exact .inr ⟨_, List.mem_singleton_self _, hx⟩
  | @cons c rest cs _ _ ih =>
      rcases List.mem_append.1 hx with hc | hp
      · exact .inr ⟨c, List.mem_cons_self, hc⟩
      · simp only [List.mem_cons] at hp
        rcases hp with rfl | rfl | hr
        · exact .inl rfl
        · exact .inl rfl
        · rcases ih hr with rfl | ⟨d, hd, hxd⟩
          · exact .inl rfl
          · exact .inr ⟨d, List.mem_cons_of_mem _ hd, hxd⟩

/-- The pieces with the pairs between them are the text. -/
theorem Split.intercalate_eq {t : Text} {cs : List Text} (h : Split t cs) :
    List.intercalate ['_', '_'] cs = t := by
  induction h with
  | last _ => simp
  | @cons c rest cs _ hrest ih =>
      cases hrest with
      | last _ => simp [List.intercalate_cons_cons]
      | cons _ _ =>
          rw [List.intercalate_cons_cons, ih, List.append_assoc]
          rfl

/-- The characters of a piece are those of the text. -/
theorem Split.mem_of_mem {t c : Text} {cs : List Text} (h : Split t cs) (hc : c ∈ cs) {x : Char}
    (hx : x ∈ c) : x ∈ t := by
  induction h with
  | last _ => exact List.mem_singleton.1 hc ▸ hx
  | cons _ _ ih =>
      rcases List.mem_cons.1 hc with rfl | hc
      · exact List.mem_append_left _ hx
      · exact List.mem_append_right _ (List.mem_cons_of_mem _ (List.mem_cons_of_mem _ (ih hc)))

end Field

namespace Segment

/-! ### Names and markers -/

/-- Word characters, at least one. -/
def IsWord (w : Text) : Prop := w ≠ [] ∧ ∀ c ∈ w, Text.isWord c = true

instance (w : Text) : Decidable (IsWord w) :=
  have : Decidable (∀ c ∈ w, Text.isWord c = true) := List.decidableBAll _ w
  inferInstanceAs (Decidable (w ≠ [] ∧ ∀ c ∈ w, Text.isWord c = true))

/-- A name: a word, perhaps with a line break behind. -/
def IsName (t : Text) : Prop := ∃ w, IsWord w ∧ (t = w ∨ t = w ++ ['\n'])

theorem IsWord.isName {w : Text} (h : IsWord w) : IsName w := ⟨w, h, .inl rfl⟩

/-- A marker of the type `w`: a word in parentheses, perhaps with a line break behind. -/
def IsMarkerOf (w t : Text) : Prop :=
  IsWord w ∧ (t = '(' :: (w ++ [')']) ∨ t = '(' :: (w ++ [')', '\n']))

/-- A marker of some type. -/
def IsMarker (t : Text) : Prop := ∃ w, IsMarkerOf w t

/-- The longest run of a class at the start of a text, and the rest. -/
theorem span_append {p : Char → Bool} {t : Text} (rest : Text) (ht : ∀ c ∈ t, p c = true)
    (hrest : ∀ c ∈ rest.head?, p c = false) :
    (t ++ rest).takeWhile p = t ∧ (t ++ rest).dropWhile p = rest := by
  rw [List.takeWhile_append_of_pos ht, List.dropWhile_append_of_pos ht]
  cases rest with
  | nil => simp
  | cons c rest =>
      have hc : p c = false := hrest c rfl
      simp [hc]

theorem isWord_takeWhile {t : Text} (h : t.takeWhile Text.isWord ≠ []) :
    IsWord (t.takeWhile Text.isWord) :=
  ⟨h, fun _ hc => List.mem_takeWhile_imp hc⟩

theorem not_isWord_paren {c : Char} (h : c = '(' ∨ c = ')') : Text.isWord c = false := by
  rcases h with rfl | rfl <;> decide

theorem not_isWord_break : Text.isWord '\n' = false := by decide

theorem isName_iff {t : Text} : isName t = true ↔ IsName t := by
  simp only [isName, Bool.and_eq_true, bne_iff_ne, Text.atEnd_iff]
  constructor
  · rintro ⟨hne, hend⟩
    have ht := List.takeWhile_append_dropWhile (p := Text.isWord) (l := t)
    refine ⟨t.takeWhile Text.isWord, isWord_takeWhile hne, ?_⟩
    rcases hend with hnil | hbreak
    · exact .inl (by rw [hnil, List.append_nil] at ht; exact ht.symm)
    · exact .inr (by rw [hbreak] at ht; exact ht.symm)
  · rintro ⟨w, ⟨hne, hw⟩, rfl | rfl⟩
    · obtain ⟨htake, hdrop⟩ := span_append [] hw (by simp)
      rw [List.append_nil] at htake hdrop
      exact ⟨by rwa [htake], .inl hdrop⟩
    · obtain ⟨htake, hdrop⟩ := span_append ['\n'] hw (by simp [not_isWord_break])
      exact ⟨by rwa [htake], .inr hdrop⟩

theorem markerType?_eq_some_iff {w t : Text} : markerType? t = some w ↔ IsMarkerOf w t := by
  constructor
  · intro h
    unfold markerType? at h
    split at h
    · next t =>
      split at h
      · cases h
      · next rest hdrop hne =>
        have ht := List.takeWhile_append_dropWhile (p := Text.isWord) (l := t)
        split at h
        · next hend =>
          obtain rfl := Option.some.inj h
          rw [hdrop] at ht
          refine ⟨isWord_takeWhile hne, ?_⟩
          rcases Text.atEnd_iff.1 hend with rfl | rfl
          · exact .inl (by rw [ht])
          · exact .inr (by rw [ht])
        · cases h
      · cases h
    · cases h
  · rintro ⟨⟨hne, hw⟩, rfl | rfl⟩
    · obtain ⟨htake, hdrop⟩ := span_append [')'] hw (by simp [not_isWord_paren])
      simp only [markerType?, htake, hdrop]
      cases w with
      | nil => exact absurd rfl hne
      | cons a w => rfl
    · obtain ⟨htake, hdrop⟩ := span_append [')', '\n'] hw (by simp [not_isWord_paren])
      simp only [markerType?, htake, hdrop]
      cases w with
      | nil => exact absurd rfl hne
      | cons a w => rfl

theorem IsName.not_isMarkerLike {t : Text} (h : IsName t) : isMarkerLike t = false := by
  obtain ⟨w, ⟨hne, hw⟩, ht⟩ := h
  have hhead : w.head? ≠ some '(' := fun e =>
    absurd (hw _ (List.mem_of_head? e)) (by simp [not_isWord_paren])
  have hlast : w.getLast? ≠ some ')' := fun e =>
    absurd (hw _ (List.mem_of_getLast? e)) (by simp [not_isWord_paren])
  rcases ht with rfl | rfl
  · simp [isMarkerLike, hhead, hlast]
  · have hhead' : (w ++ ['\n']).head? = w.head? := List.head?_append_of_ne_nil w hne
    simp [isMarkerLike, hhead', hhead]

theorem IsMarker.isMarkerLike {t : Text} (h : IsMarker t) : isMarkerLike t = true := by
  obtain ⟨w, -, rfl | rfl⟩ := h <;> simp [Segment.isMarkerLike]

theorem IsName.not_isMarker {t : Text} (h : IsName t) : ¬ IsMarker t := fun hm =>
  Bool.false_ne_true (h.not_isMarkerLike.symm.trans hm.isMarkerLike)

/-! ### Lists of components -/

/-- Components that may follow a marker, or a name or nothing: a marker is followed by a name. -/
inductive Reference : (afterMarker : Bool) → List Text → Prop where
  | nil : Reference false []
  | name {afterMarker : Bool} {c : Text} {cs : List Text} : IsName c → Reference false cs →
      Reference afterMarker (c :: cs)
  | marker {c : Text} {cs : List Text} : IsMarker c → Reference true cs → Reference false (c :: cs)

/-- **A step of reading.**  The first component is a name, or a marker that follows no marker. -/
theorem readComponents_cons_eq_ok {raw : Text} {depth : Nat} {afterMarker : Bool} {c : Text}
    {cs : List Text} {r : List Text × List UnionMarker} :
    readComponents raw depth afterMarker (c :: cs) = .ok r ↔
      (IsName c ∧ ∃ r', readComponents raw (depth + 1) false cs = .ok r' ∧ r = (c :: r'.1, r'.2)) ∨
      (afterMarker = false ∧ ∃ w, IsMarkerOf w c ∧
        ∃ r', readComponents raw depth true cs = .ok r' ∧ r = (r'.1, ⟨w, depth⟩ :: r'.2)) := by
  rw [readComponents]
  constructor
  · intro h
    split at h
    · split at h
      · cases h
      · next w hw =>
        cases afterMarker with
        | true => cases h
        | false =>
            obtain ⟨r', hr', rfl⟩ := Outcome.map_eq_ok.1 h
            exact .inr ⟨rfl, w, markerType?_eq_some_iff.1 hw, r', hr', rfl⟩
    · split at h
      · next hc =>
        obtain ⟨r', hr', rfl⟩ := Outcome.map_eq_ok.1 h
        exact .inl ⟨isName_iff.1 hc, r', hr', rfl⟩
      · cases h
  · rintro (⟨hc, r', hr', rfl⟩ | ⟨rfl, w, hw, r', hr', rfl⟩)
    · simp only [hc.not_isMarkerLike, isName_iff.2 hc, hr', Bool.false_eq_true, if_false, if_true]
      rfl
    · have hc : IsMarker c := ⟨w, hw⟩
      simp only [hc.isMarkerLike, markerType?_eq_some_iff.2 hw, hr', Bool.false_eq_true, if_false,
        if_true]
      rfl

theorem Reference.of_ok {raw : Text} {depth : Nat} {afterMarker : Bool} {cs : List Text}
    {r : List Text × List UnionMarker}
    (h : readComponents raw depth afterMarker cs = .ok r) : Reference afterMarker cs := by
  induction cs generalizing depth afterMarker r with
  | nil =>
      cases afterMarker with
      | false => exact .nil
      | true => cases h
  | cons c cs ih =>
      rcases readComponents_cons_eq_ok.1 h with ⟨hc, r', hr', -⟩ | ⟨rfl, w, hw, r', hr', -⟩
      · exact .name hc (ih hr')
      · exact .marker ⟨w, hw⟩ (ih hr')

theorem Reference.exists_ok {afterMarker : Bool} {cs : List Text} (h : Reference afterMarker cs)
    (raw : Text) (depth : Nat) : ∃ r, readComponents raw depth afterMarker cs = .ok r := by
  induction h generalizing depth with
  | nil => exact ⟨_, rfl⟩
  | name hc _ ih =>
      obtain ⟨r, hr⟩ := ih (depth + 1)
      exact ⟨_, readComponents_cons_eq_ok.2 (.inl ⟨hc, r, hr, rfl⟩)⟩
  | marker hc _ ih =>
      obtain ⟨r, hr⟩ := ih depth
      obtain ⟨w, hw⟩ := hc
      exact ⟨_, readComponents_cons_eq_ok.2 (.inr ⟨rfl, w, hw, r, hr, rfl⟩)⟩

/-- **Reading succeeds for references and no other components.** -/
theorem readComponents_ok_iff {raw : Text} {depth : Nat} {afterMarker : Bool} {cs : List Text} :
    (∃ r, readComponents raw depth afterMarker cs = .ok r) ↔ Reference afterMarker cs :=
  ⟨fun ⟨_, h⟩ => .of_ok h, fun h => h.exists_ok raw depth⟩

/-- What a reference is, in terms of its components and their neighbours. -/
structure IsReference (cs : List Text) : Prop where
  mem : ∀ c ∈ cs, IsName c ∨ IsMarker c
  apart : cs.IsChain fun a b => ¬ (IsMarker a ∧ IsMarker b)
  last : ∀ c ∈ cs.getLast?, IsName c

theorem isReference_nil : IsReference [] := ⟨by simp, .nil, by simp⟩

/-- The first component is a name, or a marker with a name behind it. -/
theorem isReference_cons {c : Text} {cs : List Text} :
    IsReference (c :: cs) ↔
      (IsName c ∨ IsMarker c ∧ ∃ d ∈ cs.head?, IsName d) ∧ IsReference cs := by
  cases cs with
  | nil =>
      constructor
      · intro h
        exact ⟨.inl (h.last c rfl), isReference_nil⟩
      · rintro ⟨hc | ⟨-, d, hd, -⟩, -⟩
        · exact ⟨by simpa using .inl hc, .singleton c, by simpa using hc⟩
        · cases hd
  | cons d ds =>
      have hlast : (c :: d :: ds).getLast? = (d :: ds).getLast? := List.getLast?_cons_cons
      constructor
      · rintro ⟨hmem, hapart, hl⟩
        obtain ⟨hc, hmem⟩ := List.forall_mem_cons.1 hmem
        obtain ⟨hcd, hapart⟩ := List.isChain_cons_cons.1 hapart
        refine ⟨?_, hmem, hapart, hlast ▸ hl⟩
        rcases hc with hc | hc
        · exact .inl hc
        · have hd : IsName d := (hmem d List.mem_cons_self).resolve_right fun hd => hcd ⟨hc, hd⟩
          exact .inr ⟨hc, d, rfl, hd⟩
      · rintro ⟨hc, hmem, hapart, hl⟩
        refine ⟨List.forall_mem_cons.2 ⟨hc.imp_right And.left, hmem⟩,
          List.isChain_cons_cons.2 ⟨?_, hapart⟩, hlast.symm ▸ hl⟩
        rintro ⟨hcm, hdm⟩
        rcases hc with hc | ⟨-, e, he, hen⟩
        · exact hc.not_isMarker hcm
        · obtain rfl := Option.some.inj he
          exact hen.not_isMarker hdm

/-- Behind a marker the first component must be a name. -/
theorem reference_iff_of_afterMarker {afterMarker : Bool} {cs : List Text} :
    Reference afterMarker cs ↔
      IsReference cs ∧ (afterMarker = true → ∃ c ∈ cs.head?, IsName c) := by
  constructor
  · intro h
    induction h with
    | nil => exact ⟨isReference_nil, fun e => absurd e Bool.false_ne_true⟩
    | @name _ c _ hc _ ih => exact ⟨isReference_cons.2 ⟨.inl hc, ih.1⟩, fun _ => ⟨c, rfl, hc⟩⟩
    | marker hc _ ih =>
        exact ⟨isReference_cons.2 ⟨.inr ⟨hc, ih.2 rfl⟩, ih.1⟩, fun e => absurd e Bool.false_ne_true⟩
  · rintro ⟨h, hhead⟩
    induction cs generalizing afterMarker with
    | nil =>
        cases afterMarker with
        | false => exact .nil
        | true => simpa using hhead rfl
    | cons c cs ih =>
        obtain ⟨hc, hcs⟩ := isReference_cons.1 h
        rcases hc with hc | ⟨hc, hnext⟩
        · exact .name hc (ih hcs fun e => absurd e Bool.false_ne_true)
        · cases afterMarker with
          | false => exact .marker hc (ih hcs fun _ => hnext)
          | true =>
              obtain ⟨d, hd, hdn⟩ := hhead rfl
              obtain rfl := Option.some.inj hd
              exact absurd hc hdn.not_isMarker

theorem reference_iff {cs : List Text} : Reference false cs ↔ IsReference cs :=
  reference_iff_of_afterMarker.trans (and_iff_left fun e => absurd e Bool.false_ne_true)

end Segment
end Permalink
