import Permalink.Proofs.Slug.Accents
import Permalink.Proofs.Slug.Seams

/-!
# Slug — texts of the same words in every context

Two texts are *alike* if either can stand for the other in any text without changing its words
(`Alike`).  It is not enough that they have the same words themselves, since camel case is taken
apart by what stands around them.

* Blanks side by side are like one (`alike_blanks`).
* Hangul syllables and their parts are like each other (`alike_hangul`): they are in no camel-case
  word and are folded to nothing.
* So what becomes of a character of composed text, with a blank put behind the plain form of an
  accented letter, is like what becomes of the characters that it is made of (`alike_opened`).

Hence **the words of decomposed text are the words of the composed text with its accented letters
opened** (`textWords_decomposed`): their plain forms put for them, and a blank behind each.
-/

namespace Permalink

namespace Slug

/-- The words of a text without punctuation, by default. -/
def textWords (t : Text) : List Text := foldedWords true (Fold.toAscii (Camel.split t))

/-- **A blank** keeps apart what stands before it and what stands behind it. -/
theorem textWords_append_cons (p q : Text) :
    textWords (p ++ ' ' :: q) = textWords p ++ textWords q := by
  have hblank : Fold.toAscii [' '] = [' '] := Fold.toAscii_of_ascii (by simp)
  rw [textWords, Camel.split_append_cons (by decide) (by decide), ← List.singleton_append,
    Fold.toAscii_append, Fold.toAscii_append, hblank, List.singleton_append,
    foldedWords_append_blank]
  rfl

theorem dropPunctuation_flatMap (f : Char → Text) (t : Text) :
    dropPunctuation (t.flatMap f) = t.flatMap fun c => dropPunctuation (f c) := by
  induction t with
  | nil => rfl
  | cons c t ih => rw [List.flatMap_cons, dropPunctuation_append, ih, List.flatMap_cons]

theorem slugWords_ampersandSpelled (t : Text) :
    ({} : SlugOptions).slugWords (t.flatMap SlugOptions.ampersandSpelled) =
      textWords (t.flatMap dropped) := by
  rw [SlugOptions.slugWords_eq_foldedWords rfl]
  show foldedWords true (Fold.toAscii (Camel.split (dropPunctuation _))) = _
  rw [dropPunctuation_flatMap]
  rfl

/-! ### Standing for each other -/

/-- Either text can be put for the other in any text. -/
def Alike (u v : Text) : Prop := ∀ p q, textWords (p ++ u ++ q) = textWords (p ++ v ++ q)

namespace Alike

variable {u u' v v' w : Text}

theorem refl (u : Text) : Alike u u := fun _ _ => rfl

theorem symm (h : Alike u v) : Alike v u := fun p q => (h p q).symm

theorem trans (h : Alike u v) (h' : Alike v w) : Alike u w := fun p q => (h p q).trans (h' p q)

theorem append (h : Alike u v) (h' : Alike u' v') : Alike (u ++ u') (v ++ v') := by
  intro p q
  calc textWords (p ++ (u ++ u') ++ q)
      = textWords (p ++ u ++ (u' ++ q)) := by simp only [List.append_assoc]
    _ = textWords (p ++ v ++ (u' ++ q)) := h p (u' ++ q)
    _ = textWords (p ++ v ++ u' ++ q) := by simp only [List.append_assoc]
    _ = textWords (p ++ v ++ v' ++ q) := h' (p ++ v) q
    _ = textWords (p ++ (v ++ v') ++ q) := by simp only [List.append_assoc]

/-- What is put for each character may be replaced by what is like it. -/
theorem flatMap {f g : Char → Text} {t : Text} (h : ∀ c ∈ t, Alike (f c) (g c)) :
    Alike (t.flatMap f) (t.flatMap g) := by
  induction t with
  | nil => exact refl []
  | cons c t ih =>
      obtain ⟨hc, ht⟩ := List.forall_mem_cons.1 h
      exact hc.append (ih ht)

theorem textWords_eq (h : Alike u v) : textWords u = textWords v := by
  simpa using h [] []

end Alike

/-- **Blanks** side by side are like one. -/
theorem alike_blanks : Alike [' ', ' '] [' '] := by
  intro p q
  have hone : textWords (' ' :: q) = textWords q := textWords_append_cons [] q
  rw [List.append_assoc, List.append_assoc]
  show textWords (p ++ ' ' :: ' ' :: q) = textWords (p ++ ' ' :: q)
  rw [textWords_append_cons, textWords_append_cons, hone]

/-- So are the blanks that marks become. -/
theorem alike_marks {marks : Text} (hne : marks ≠ []) (h : ∀ m ∈ marks, Text.Attached m) :
    Alike (marks.flatMap dropped) [' '] := by
  induction marks with
  | nil => exact absurd rfl hne
  | cons m marks ih =>
      obtain ⟨hm, hrest⟩ := List.forall_mem_cons.1 h
      rw [List.flatMap_cons, dropped_of_attached hm]
      by_cases hnil : marks = []
      · subst hnil
        exact Alike.refl [' ']
      · exact ((Alike.refl [' ']).append (ih hnil hrest)).trans alike_blanks

section Hangul

variable {s s' : Text}

/-- Hangul parts the text, and nothing is left of it. -/
theorem toAscii_split_hangul (hne : s ≠ []) (h : ∀ c ∈ s, Text.hangulRanges.Has c.toNat)
    (p q : Text) : Fold.toAscii (Camel.split (p ++ s ++ q)) =
      Fold.toAscii (Camel.split p) ++ Fold.toAscii (Camel.split q) := by
  induction s generalizing p with
  | nil => exact absurd rfl hne
  | cons c s ih =>
      obtain ⟨hc, hs⟩ := List.forall_mem_cons.1 h
      obtain ⟨hupper, hsmall⟩ := not_camel_of_hangul hc
      have hrest : Fold.toAscii (Camel.split (s ++ q)) = Fold.toAscii (Camel.split q) := by
        by_cases hnil : s = []
        · rw [hnil]
          rfl
        · exact ih hnil hs []
      rw [List.append_assoc, List.cons_append, Camel.split_append_cons hupper hsmall,
        ← List.singleton_append, Fold.toAscii_append, Fold.toAscii_append, toAscii_hangul hc, hrest]
      rfl

/-- **Hangul** is like Hangul. -/
theorem alike_hangul (hne : s ≠ []) (h : ∀ c ∈ s, Text.hangulRanges.Has c.toNat) (hne' : s' ≠ [])
    (h' : ∀ c ∈ s', Text.hangulRanges.Has c.toNat) : Alike s s' := by
  intro p q
  rw [textWords, textWords, toAscii_split_hangul hne h, toAscii_split_hangul hne' h']

end Hangul

/-! ### Composed and decomposed -/

/-- The plain form of an accented letter with a blank behind it, and any other character. -/
def opened (c : Char) : Text := if isAccented c then [plain c, ' '] else [c]

theorem opened_of_ascii {c : Char} (h : c.toNat < 0x80) : opened c = [c] := by
  rw [opened, isAccented, Text.canonical_of_lt (by omega)]
  simp

theorem mem_dropPunctuation {t : Text} {a : Char} (h : a ∈ dropPunctuation t) :
    a ∈ t ∨ a = ' ' := by
  obtain ⟨c, hc, rfl⟩ := List.mem_map.1 (List.mem_filter.1 h).1
  split
  · exact .inl hc
  · exact .inr rfl

theorem mem_dropped {a c : Char} (h : a ∈ dropped c) : a = c ∨ a.toNat < 0x80 := by
  rw [dropped, SlugOptions.ampersandSpelled] at h
  have hspelled : ∀ a ∈ [' ', 'a', 'n', 'd', ' '], a.toNat < 0x80 := by simp
  rcases mem_dropPunctuation h with h | rfl
  · split at h
    · exact .inr (hspelled a h)
    · exact .inl (List.mem_singleton.1 h)
  · exact .inr (by decide)

/-- Nothing is opened in what becomes of a character that is no accented letter. -/
theorem flatMap_opened_dropped {c : Char} (h : isAccented c = false) :
    (dropped c).flatMap opened = dropped c := by
  have hself : ∀ a ∈ dropped c, opened a = [a] := by
    intro a ha
    rcases mem_dropped ha with rfl | hascii
    · rw [opened, h]
      rfl
    · exact opened_of_ascii hascii
  rw [List.flatMap_congr hself, List.flatMap_singleton']

/-- **Opened, a character is like what it is made of.** -/
theorem alike_opened {c : Char} (h : Text.IsWhole c) :
    Alike ((dropped c).flatMap opened) ((Text.canonical c).flatMap dropped) := by
  rcases Text.canonical_of_isWhole h with hself | ⟨hne, hhangul⟩ | ⟨base, marks, hcombined⟩
  · have haccented : isAccented c = false := by
      rw [isAccented, hself]
      simp
    rw [flatMap_opened_dropped haccented, hself, List.flatMap_singleton]
    exact Alike.refl _
  · obtain ⟨hc, hparts⟩ := List.forall_mem_cons.1 hhangul
    have haccented : isAccented c = false := by
      rw [isAccented, Bool.and_eq_false_iff, List.any_eq_false]
      exact .inr fun a ha => by simp [Text.isWord_of_hangul (hparts a ha)]
    rw [flatMap_opened_dropped haccented, dropped_eq_self_of_hangul hc,
      List.flatMap_congr fun a ha => dropped_eq_self_of_hangul (hparts a ha),
      List.flatMap_singleton']
    exact alike_hangul (by simp) (by simpa using hc) hne hparts
  · have hmarks := alike_marks hcombined.marks_ne_nil hcombined.attached
    rw [hcombined.canonical_eq, List.flatMap_cons, dropped_of_clear hcombined.clear,
      dropped_of_clear hcombined.clear_base, hcombined.isWord_base]
    cases hword : Text.isWord c with
    | true =>
        have haccented : isAccented c = true := by rw [isAccented_of_combined hcombined, hword]
        rw [if_pos rfl, if_pos rfl, List.flatMap_singleton, opened, haccented, if_pos rfl,
          plain_of_combined hcombined]
        exact (Alike.refl [base]).append hmarks.symm
    | false =>
        rw [if_neg Bool.false_ne_true, if_neg Bool.false_ne_true, List.flatMap_singleton,
          opened_of_ascii (by decide)]
        exact (((Alike.refl [' ']).append hmarks).trans alike_blanks).symm

/-- **The words of decomposed text** are those of the composed text, opened. -/
theorem textWords_decomposed (t : Text) : textWords ((Text.decomposed t).flatMap dropped) =
    textWords (((Text.composed t).flatMap dropped).flatMap opened) := by
  have hmarks : ∀ a, Text.combiningClass a ≠ 0 → dropped a = [' '] := fun a ha =>
    dropped_of_attached (Text.attached_of_combiningClass ha)
  rw [← Text.flatMap_composed hmarks, List.flatMap_assoc]
  exact (Alike.flatMap fun c hc => alike_opened (Text.isWhole_of_mem_composed hc)).symm.textWords_eq

end Slug
end Permalink
