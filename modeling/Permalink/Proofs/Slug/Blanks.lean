import Permalink.Proofs.Slug.Replacing
import Permalink.Proofs.Slug.Seams

/-!
# Slug — blanks that separate nothing

White space is left alone until breaks are squeezed, and by then text is folded.  Four of the
blanks are not folded to blanks of ASCII: the next-line control, the Ogham space mark, and the line
and paragraph separators are dropped (`droppedBlanks`).  The words beside one run together, so
**a blank separates words as the space does unless it is one of the four and has a letter or digit
on both sides** (`slug_blank_iff`).

Up to the fold a blank of any kind is a break to every pass (`parted_append_blank`).
-/

namespace Permalink

namespace Slug

/-- The blanks that are folded to nothing. -/
def droppedBlanks : List Char := ['\u0085', '\u1680', '\u2028', '\u2029']

/-- A blank is no character that the passes before the fold look for. -/
theorem blanks_passed_over : ∀ p ∈ Text.blankRanges, ∀ n ∈ List.range' p.1 (p.2 + 1 - p.1),
    (Char.ofNat n).isUpper = false ∧ Camel.isSmall (Char.ofNat n) = false ∧
      isApostrophe (Char.ofNat n) = false ∧ Char.ofNat n ≠ '&' := by
  decide

theorem blanks_folded : ∀ p ∈ Text.blankRanges, ∀ n ∈ List.range' p.1 (p.2 + 1 - p.1),
    (Fold.toAscii [Char.ofNat n]).length = if Char.ofNat n ∈ droppedBlanks then 0 else 1 := by
  decide +kernel

section Blank

variable {c : Char}

theorem passed_over_of_isBlank (hc : Text.isBlank c = true) : c.isUpper = false ∧
    Camel.isSmall c = false ∧ isApostrophe c = false ∧ c ≠ '&' :=
  Text.Ranges.forall_of_holds (P := fun c => c.isUpper = false ∧ Camel.isSmall c = false ∧
    isApostrophe c = false ∧ c ≠ '&') blanks_passed_over hc

theorem length_toAscii_blank (hc : Text.isBlank c = true) :
    (Fold.toAscii [c]).length = if c ∈ droppedBlanks then 0 else 1 :=
  Text.Ranges.forall_of_holds (P := fun c => (Fold.toAscii [c]).length =
    if c ∈ droppedBlanks then 0 else 1) blanks_folded hc

theorem toAscii_droppedBlank (hc : Text.isBlank c = true) (hdropped : c ∈ droppedBlanks) :
    Fold.toAscii [c] = [] := by
  have hlength := length_toAscii_blank hc
  rw [if_pos hdropped] at hlength
  exact List.length_eq_zero_iff.1 hlength

/-- **Every other blank** is folded to one break. -/
theorem toAscii_blank (hc : Text.isBlank c = true) (hkept : c ∉ droppedBlanks) :
    ∃ b, Fold.toAscii [c] = [b] ∧ isWordBreak b = true := by
  have hlength := length_toAscii_blank hc
  rw [if_neg hkept] at hlength
  obtain ⟨b, hb⟩ := List.length_eq_one_iff.1 hlength
  exact ⟨b, hb, isWordBreak_of_isBlank (Fold.isBlank_of_mem_toAscii hc (by simp [hb]))⟩

end Blank

end Slug

namespace SlugOptions

open Slug

variable {o : SlugOptions} {c : Char}

theorem parted_append_blank (hc : Text.isBlank c = true) (a b : Text) :
    o.parted (a ++ c :: b) = o.parted a ++ c :: o.parted b := by
  obtain ⟨hupper, hsmall, hapostrophe, -⟩ := passed_over_of_isBlank hc
  have hsingle : dropPunctuation [c] = [c] := by
    simp [dropPunctuation_singleton, hapostrophe, hc]
  have hdropped : dropPunctuation (a ++ c :: b) = dropPunctuation a ++ c :: dropPunctuation b := by
    rw [← List.singleton_append, dropPunctuation_append, dropPunctuation_append, hsingle,
      List.singleton_append]
  rw [parted, parted, parted, hdropped]
  split
  · rw [Camel.split_append_cons hupper hsmall]
  · rfl

theorem folded_append_blank (hc : Text.isBlank c = true) (a b : Text) :
    o.folded (a ++ c :: b) = o.folded a ++ Fold.toAscii [c] ++ o.folded b := by
  rw [folded, parted_append_blank hc, ← List.singleton_append, Fold.toAscii_append,
    Fold.toAscii_append, ← List.append_assoc]
  rfl

/-- **A blank that is not dropped** separates words. -/
theorem slugWords_append_blank (hfold : o.stripDiacritics.truthy = true)
    (hc : Text.isBlank c = true) (hkept : c ∉ droppedBlanks) (a b : Text) :
    o.slugWords (a ++ c :: b) = o.slugWords a ++ o.slugWords b := by
  obtain ⟨d, hd, hbreak⟩ := toAscii_blank hc hkept
  rw [slugWords_eq_foldedWords hfold, folded_append_blank hc, hd, List.append_assoc,
    List.singleton_append, foldedWords_append_cons hbreak, slugWords_eq_foldedWords hfold,
    slugWords_eq_foldedWords hfold]

theorem slugWords_blank_iff (hfold : o.stripDiacritics.truthy = true) (hc : Text.isBlank c = true)
    (a b : Text) : o.slugWords (a ++ c :: b) = o.slugWords (a ++ ' ' :: b) ↔
      (c ∈ droppedBlanks → wordEnd (o.folded a) = [] ∨ wordStart (o.folded b) = []) := by
  rw [slugWords_append_blank (c := ' ') hfold (by decide) (by decide)]
  by_cases hdropped : c ∈ droppedBlanks
  · rw [slugWords_eq_foldedWords hfold, folded_append_blank hc, toAscii_droppedBlank hc hdropped,
      List.append_nil, slugWords_eq_foldedWords hfold, slugWords_eq_foldedWords hfold,
      foldedWords_append_iff]
    simp [hdropped]
  · rw [slugWords_append_blank hfold hc hdropped]
    simp [hdropped]

/-- **When a blank is as good as a space.**  Take any white-space character of a text and put a
space in its place.  By default the slug stays the same just if the character is not one of the four
blanks that the fold drops, or what the text before it is folded to has no letter or digit behind
its last break, or what the text behind it is folded to has none before its first. -/
theorem slug_blank_iff (hc : Text.isBlank c = true) (a b : Text) :
    ∃ u v s s', ({} : SlugOptions).replace a = .ok u ∧ ({} : SlugOptions).replace b = .ok v ∧
      ({} : SlugOptions).slug (a ++ c :: b) = .ok s ∧
      ({} : SlugOptions).slug (a ++ ' ' :: b) = .ok s' ∧
      (s = s' ↔ (c ∈ droppedBlanks → wordEnd (({} : SlugOptions).folded u) = [] ∨
        wordStart (({} : SlugOptions).folded v) = [])) := by
  have hreplaced : ∀ d, Text.isBlank d = true → ({} : SlugOptions).replace (a ++ d :: b) =
      .ok (a.flatMap ampersandSpelled ++ d :: b.flatMap ampersandSpelled) := by
    intro d hd
    rw [replace_default, List.flatMap_append, List.flatMap_cons, ampersandSpelled,
      if_neg (passed_over_of_isBlank hd).2.2.2, List.singleton_append]
  exact ⟨_, _, _, _, replace_default a, replace_default b,
    slug_of_replace (by decide) (hreplaced c hc),
    slug_of_replace (by decide) (hreplaced ' ' (by decide)),
    replacedSlug_inj.trans (slugWords_blank_iff rfl hc _ _)⟩

/-- A line separator behind a letter and before half of a camel-case word. -/
theorem slug_blank_iff_lineSeparator : Text.isBlank '\u2028' = true ∧
    ∃ u v s s', ({} : SlugOptions).replace "R&D".toList = .ok u ∧
      ({} : SlugOptions).replace "fooBar".toList = .ok v ∧
      ({} : SlugOptions).slug ("R&D".toList ++ '\u2028' :: "fooBar".toList) = .ok s ∧
      ({} : SlugOptions).slug ("R&D".toList ++ ' ' :: "fooBar".toList) = .ok s' ∧
      (s = s' ↔ ('\u2028' ∈ droppedBlanks → wordEnd (({} : SlugOptions).folded u) = [] ∨
        wordStart (({} : SlugOptions).folded v) = [])) :=
  ⟨by decide, slug_blank_iff (by decide) _ _⟩

/-- **Two words made one**: a line separator between letters is white space and is dropped. -/
theorem merged_at_lineSeparator : Text.isBlank '\u2028' = true ∧
    ({} : SlugOptions).slug ['a', '\u2028', 'b'] = .ok ['a', 'b'] ∧
    ({} : SlugOptions).slug ['a', ' ', 'b'] = .ok ['a', '-', 'b'] ∧ ['a', 'b'] ≠ ['a', '-', 'b'] := by
  have hslugs :
      ({} : SlugOptions).replacedSlug (['a', '\u2028', 'b'].flatMap ampersandSpelled) =
        ['a', 'b'] ∧
      ({} : SlugOptions).replacedSlug (['a', ' ', 'b'].flatMap ampersandSpelled) =
        ['a', '-', 'b'] := by
    decide +kernel
  have hslug : ∀ t, ({} : SlugOptions).slug t = _ := fun t =>
    slug_of_replace (by decide) (replace_default t)
  exact ⟨by decide, (hslug _).trans (congrArg Except.ok hslugs.1),
    (hslug _).trans (congrArg Except.ok hslugs.2), by decide⟩

end SlugOptions
end Permalink
