import Permalink.Proofs.Slug.Alike

/-!
# Slug — when the normal form of a text shows in its slug

Composed and decomposed text are the same text, but their slugs can differ.  A mark that stands by
itself is taken for punctuation, so in decomposed text every accented letter ends its word, and
what takes camel case apart sees the plain letter, which it does not in composed text.  And plain
forms that are spelled out are spelled only where they stand by themselves.

The slugs are the same just if none of this happens at any accented letter: `Agrees before c behind`
says so for one letter `c`, where `before` is the text back to the last accented letter and `behind`
is all text after, and `AgreesFrom` says it for all of a text.

**`slug_composed_eq_iff`**: the slugs of the composed and of the decomposed form of a text are the
same just if every accented letter of the composed form agrees.

The proof reads the text letter by letter.  Where a letter agrees, the words are the same up to it
(`textWords_of_agrees`).  Where one does not, composed text has fewer characters and words together
(`size_textWords_lt`), and no letter further on can make up for that (`size_textWords_opened`).
-/

namespace Permalink

namespace Slug

/-- Between `before` and `behind`, the accented letter `c` makes the same words as its plain form
with a blank behind it. -/
structure Agrees (before : Text) (c : Char) (behind : Text) : Prop where
  /-- It is folded to what its plain form is folded to. -/
  folded : Fold.toAscii [c] = Fold.toAscii [plain c]
  /-- Its plain form is no capital that is split off a small letter or digit of its word. -/
  no_hump : (plain c).isUpper = true → before.getLast?.any Camel.isSmall = true →
    wordEnd (Fold.toAscii (Camel.split before)) = []
  /-- Nor is it a small letter behind capitals, of which it splits off the last. -/
  no_acronym : (plain c).isLower = true → (before.rtakeWhile Char.isUpper).length < 2
  /-- The word ends with it, or has no letter or digit up to it. -/
  ends_word : wordEnd (Fold.toAscii (Camel.split before) ++ Fold.toAscii [c]) = [] ∨
    wordStart (Fold.toAscii (Camel.split behind)) = []

/-- Every accented letter of a text agrees, where `before` has been read since the last. -/
def AgreesFrom : (before : Text) → Text → Prop
  | _, [] => True
  | before, c :: t =>
    if isAccented c then Agrees before c t ∧ AgreesFrom [] t else AgreesFrom (before ++ [c]) t

instance (before : Text) (c : Char) (behind : Text) : Decidable (Agrees before c behind) :=
  decidable_of_iff (Fold.toAscii [c] = Fold.toAscii [plain c] ∧
    ((plain c).isUpper = true → before.getLast?.any Camel.isSmall = true →
      wordEnd (Fold.toAscii (Camel.split before)) = []) ∧
    ((plain c).isLower = true → (before.rtakeWhile Char.isUpper).length < 2) ∧
    (wordEnd (Fold.toAscii (Camel.split before) ++ Fold.toAscii [c]) = [] ∨
      wordStart (Fold.toAscii (Camel.split behind)) = []))
    ⟨fun ⟨h₁, h₂, h₃, h₄⟩ => ⟨h₁, h₂, h₃, h₄⟩, fun ⟨h₁, h₂, h₃, h₄⟩ => ⟨h₁, h₂, h₃, h₄⟩⟩

instance decidableAgreesFrom : (before t : Text) → Decidable (AgreesFrom before t)
  | _, [] => isTrue trivial
  | before, c :: t =>
    have := decidableAgreesFrom [] t
    have := decidableAgreesFrom (before ++ [c]) t
    inferInstanceAs (Decidable (if isAccented c then _ else _))

variable {before behind t w : Text} {c : Char}

/-! ### Words and letters -/

theorem wordEnd_concat_ne_nil {x : Char} (hx : x.isAlphanum = true) (t : Text) :
    wordEnd (t ++ [x]) ≠ [] := by
  rw [wordEnd, List.rtakeWhile_concat, if_pos (by simp [not_isWordBreak_of_isAlphanum hx]),
    List.filter_append, List.filter_cons_of_pos hx]
  simp

theorem wordStart_cons_ne_nil {x : Char} (hx : x.isAlphanum = true) (t : Text) :
    wordStart (x :: t) ≠ [] := by
  rw [wordStart, List.takeWhile_cons_of_pos (by simp [not_isWordBreak_of_isAlphanum hx]),
    List.filter_cons_of_pos hx]
  simp

/-- Letters added at the end make a word longer, or one more. -/
theorem size_foldedWords_append_letters (lowercase : Bool) (t : Text) (hw : w ≠ [])
    (h : ∀ a ∈ w, a.isAlphanum = true) :
    size (foldedWords lowercase t) < size (foldedWords lowercase (t ++ w)) := by
  obtain ⟨x, v, rfl, hx, hv, -⟩ := exists_last t
  have hvw : ∀ a ∈ v ++ w, isWordBreak a = false :=
    List.forall_mem_append.2 ⟨hv, fun a ha => not_isWordBreak_of_isAlphanum (h a ha)⟩
  have hletters : word lowercase w ≠ [] := by
    rw [ne_eq, word_eq_nil, List.filter_eq_self.2 h]
    exact hw
  have hlength := List.length_pos_iff.2 hletters
  rw [List.append_assoc, foldedWords_append_of_endsInBreak hx, foldedWords_append_of_endsInBreak hx,
    foldedWords_of_forall hv, foldedWords_of_forall hvw, word_append, size_append, size_append]
  by_cases hempty : word lowercase v = []
  · simp [hempty, hletters, size]
  · simp [hempty, size]
    omega

theorem toAscii_letter (h : c.isAlphanum = true) : Fold.toAscii [c] = [c] :=
  Fold.toAscii_of_ascii (by simpa using Text.toNat_lt_of_isAlphanum h)

/-! ### One accented letter -/

/-- In composed text the letter is a part of its word. -/
theorem textWords_accented (hc : isAccented c = true) (before behind : Text) :
    textWords (before ++ c :: behind) = foldedWords true (Fold.toAscii (Camel.split before) ++
      Fold.toAscii [c] ++ Fold.toAscii (Camel.split behind)) := by
  obtain ⟨hupper, hsmall⟩ := not_camel_of_isAccented hc
  rw [textWords, Camel.split_append_cons hupper hsmall, ← List.singleton_append,
    Fold.toAscii_append, Fold.toAscii_append, List.append_assoc]

/-- A capital behind a small letter is a word of its own. -/
theorem textWords_capital {d : Char} (hupper : d.isUpper = true)
    (hsmall : before.getLast?.any Camel.isSmall = true) :
    textWords (before ++ [d]) = textWords before ++ foldedWords true [d] := by
  have hfolded : Fold.toAscii [' ', d] = ' ' :: [d] :=
    Fold.toAscii_of_ascii (by
      simpa using Text.toNat_lt_of_isAlphanum (Text.isAlphanum_of_isUpper hupper))
  rw [textWords, Camel.split_concat_upper hupper, if_pos hsmall, Fold.toAscii_append, hfolded,
    foldedWords_append_blank]
  rfl

/-- Where camel case is not taken apart at the plain form, it ends the words of the text before. -/
theorem textWords_plain (hc : isAccented c = true)
    (hfolded : Fold.toAscii [c] = Fold.toAscii [plain c])
    (hhump : (plain c).isUpper = true → before.getLast?.any Camel.isSmall = true →
      wordEnd (Fold.toAscii (Camel.split before)) = [])
    (hacronym : (plain c).isLower = true → (before.rtakeWhile Char.isUpper).length < 2) :
    textWords (before ++ [plain c]) =
      foldedWords true (Fold.toAscii (Camel.split before) ++ Fold.toAscii [c]) := by
  have hsmall := isSmall_plain hc
  rw [hfolded]
  cases hupper : (plain c).isUpper with
  | true =>
      by_cases hhumped : before.getLast?.any Camel.isSmall = true
      · rw [textWords_capital hupper hhumped, toAscii_letter (Text.isAlphanum_of_isUpper hupper),
          foldedWords_append true (.inl (hhump hupper hhumped))]
        rfl
      · rw [textWords, Camel.split_concat_upper hupper, if_neg hhumped, Fold.toAscii_append]
  | false =>
      cases hlower : (plain c).isLower with
      | true =>
          rw [textWords, Camel.split_concat_small (hsmall.trans hlower) (hacronym hlower),
            Fold.toAscii_append]
      | false =>
          rw [textWords, Camel.split_append_cons hupper (hsmall.trans hlower), Camel.split_nil,
            Fold.toAscii_append]

/-- **Where the letter agrees** the words are the same. -/
theorem textWords_of_agrees (hc : isAccented c = true) (h : Agrees before c behind) :
    textWords (before ++ c :: behind) = textWords (before ++ [plain c]) ++ textWords behind := by
  rw [textWords_accented hc, foldedWords_append true h.ends_word,
    textWords_plain hc h.folded h.no_hump h.no_acronym]
  rfl

/-- The letter is dropped and its plain form is spelled out. -/
theorem size_textWords_spelled (hc : isAccented c = true)
    (h : Fold.toAscii [c] ≠ Fold.toAscii [plain c]) :
    size (foldedWords true (Fold.toAscii (Camel.split before) ++ Fold.toAscii [c])) <
      size (textWords (before ++ [plain c])) := by
  obtain ⟨hnil, hascii, hne, hletters⟩ := (toAscii_accented hc).resolve_left h
  have hletter : (plain c).isAlphanum = false := by
    rw [Bool.eq_false_iff]
    intro hletter
    rw [Fold.isAscii_iff.2 (Text.toNat_lt_of_isAlphanum hletter)] at hascii
    cases hascii
  rw [Text.isAlphanum_eq, Bool.or_eq_false_iff, Bool.or_eq_false_iff] at hletter
  rw [hnil, List.append_nil, textWords, Camel.split_append_cons hletter.1.1
    ((isSmall_plain hc).trans hletter.1.2), Camel.split_nil, Fold.toAscii_append]
  exact size_foldedWords_append_letters true _ hne fun a ha => by
    simp [Char.isAlphanum, hletters a ha]

/-- The plain form is a capital that is split off. -/
theorem size_textWords_hump (hfolded : Fold.toAscii [c] = Fold.toAscii [plain c])
    (hupper : (plain c).isUpper = true) (hsmall : before.getLast?.any Camel.isSmall = true)
    (hend : wordEnd (Fold.toAscii (Camel.split before)) ≠ []) :
    size (foldedWords true (Fold.toAscii (Camel.split before) ++ Fold.toAscii [c])) <
      size (textWords (before ++ [plain c])) := by
  have hletter := Text.isAlphanum_of_isUpper hupper
  rw [hfolded, toAscii_letter hletter, textWords_capital hupper hsmall, size_append]
  exact size_foldedWords_append_lt true hend (wordStart_cons_ne_nil hletter [])

/-- The plain form is a small letter, and splits off the last of the capitals before it. -/
theorem size_textWords_acronym (hc : isAccented c = true)
    (hfolded : Fold.toAscii [c] = Fold.toAscii [plain c]) (hlower : (plain c).isLower = true)
    (hrun : 2 ≤ (before.rtakeWhile Char.isUpper).length) :
    size (foldedWords true (Fold.toAscii (Camel.split before) ++ Fold.toAscii [c])) <
      size (textWords (before ++ [plain c])) := by
  obtain ⟨p, x, y, hx, hy, hsplit, hsplit'⟩ :=
    Camel.split_concat_acronym ((isSmall_plain hc).trans hlower) hrun
  have hxl := Text.isAlphanum_of_isUpper hx
  have hyl := Text.isAlphanum_of_isUpper hy
  have hcl := Text.isAlphanum_of_isLower hlower
  have hword : Fold.toAscii [x, ' ', y, plain c] = [x] ++ ' ' :: [y, plain c] :=
    Fold.toAscii_of_ascii (by simpa using ⟨Text.toNat_lt_of_isAlphanum hxl,
      Text.toNat_lt_of_isAlphanum hyl, Text.toNat_lt_of_isAlphanum hcl⟩)
  have hrun : Fold.toAscii [x, y] = [x, y] :=
    Fold.toAscii_of_ascii (by simpa using ⟨Text.toNat_lt_of_isAlphanum hxl,
      Text.toNat_lt_of_isAlphanum hyl⟩)
  have hjoined : Fold.toAscii p ++ [x, y] ++ [plain c] =
      (Fold.toAscii p ++ [x]) ++ [y, plain c] := by
    simp
  rw [hfolded, toAscii_letter hcl, textWords, hsplit, hsplit', Fold.toAscii_append,
    Fold.toAscii_append, hword, hrun, hjoined, ← List.append_assoc, foldedWords_append_blank,
    size_append]
  exact size_foldedWords_append_lt true (wordEnd_concat_ne_nil hxl _) (wordStart_cons_ne_nil hyl _)

/-- **Where the letter does not agree** there is less in composed text. -/
theorem size_textWords_lt (hc : isAccented c = true) (h : ¬ Agrees before c behind) :
    size (textWords (before ++ c :: behind)) <
      size (textWords (before ++ [plain c])) + size (textWords behind) := by
  rw [textWords_accented hc]
  have hle := size_foldedWords_append_le true
    (Fold.toAscii (Camel.split before) ++ Fold.toAscii [c]) (Fold.toAscii (Camel.split behind))
  rw [← textWords] at hle
  by_cases hfolded : Fold.toAscii [c] = Fold.toAscii [plain c]
  swap
  · exact hle.trans_lt (Nat.add_lt_add_right (size_textWords_spelled hc hfolded) _)
  by_cases hhump : (plain c).isUpper = true → before.getLast?.any Camel.isSmall = true →
      wordEnd (Fold.toAscii (Camel.split before)) = []
  swap
  · simp only [Classical.not_imp] at hhump
    obtain ⟨hupper, hsmall, hend⟩ := hhump
    exact hle.trans_lt (Nat.add_lt_add_right (size_textWords_hump hfolded hupper hsmall hend) _)
  by_cases hacronym : (plain c).isLower = true → (before.rtakeWhile Char.isUpper).length < 2
  swap
  · simp only [Classical.not_imp, Nat.not_lt] at hacronym
    obtain ⟨hlower, hrun⟩ := hacronym
    exact hle.trans_lt
      (Nat.add_lt_add_right (size_textWords_acronym hc hfolded hlower hrun) _)
  · -- Only the end of the word is left.
    have hends : ¬ (wordEnd (Fold.toAscii (Camel.split before) ++ Fold.toAscii [c]) = [] ∨
        wordStart (Fold.toAscii (Camel.split behind)) = []) := fun hends =>
      h ⟨hfolded, hhump, hacronym, hends⟩
    rw [not_or] at hends
    rw [textWords_plain hc hfolded hhump hacronym]
    exact size_foldedWords_append_lt true hends.1 hends.2

/-! ### A whole text -/

/-- **Opened, a text has the same words** if its accented letters agree, and more otherwise. -/
theorem size_textWords_opened (before t : Text) :
    (AgreesFrom before t → textWords (before ++ t) = textWords (before ++ t.flatMap opened)) ∧
    (¬ AgreesFrom before t →
      size (textWords (before ++ t)) < size (textWords (before ++ t.flatMap opened))) := by
  induction t generalizing before with
  | nil => exact ⟨fun _ => rfl, fun h => absurd trivial h⟩
  | cons c t ih =>
      rw [AgreesFrom, List.flatMap_cons, opened]
      cases hc : isAccented c with
      | false =>
          rw [if_neg Bool.false_ne_true, if_neg Bool.false_ne_true]
          simpa using ih (before ++ [c])
      | true =>
          rw [if_pos rfl, if_pos rfl]
          obtain ⟨heq, hlt⟩ := ih []
          have hopened : textWords (before ++ ([plain c, ' '] ++ t.flatMap opened)) =
              textWords (before ++ [plain c]) ++ textWords (t.flatMap opened) := by
            rw [← textWords_append_cons]
            simp
          rw [hopened, size_append]
          constructor
          · rintro ⟨hagrees, hrest⟩
            rw [textWords_of_agrees hc hagrees]
            exact congrArg _ (heq hrest)
          · intro hnot
            by_cases hagrees : Agrees before c t
            · rw [textWords_of_agrees hc hagrees, size_append]
              exact Nat.add_lt_add_left (hlt fun hrest => hnot ⟨hagrees, hrest⟩) _
            · refine (size_textWords_lt hc hagrees).trans_le (Nat.add_le_add_left ?_ _)
              by_cases hrest : AgreesFrom [] t
              · exact (congrArg size (heq hrest)).le
              · exact (hlt hrest).le

theorem textWords_opened_iff (t : Text) :
    textWords t = textWords (t.flatMap opened) ↔ AgreesFrom [] t := by
  obtain ⟨heq, hlt⟩ := size_textWords_opened [] t
  refine ⟨fun h => ?_, heq⟩
  by_contra hnot
  have hlt := hlt hnot
  rw [List.nil_append, List.nil_append, h] at hlt
  exact lt_irrefl _ hlt

end Slug

namespace SlugOptions

open Slug

/-- **When the normal form shows.**  By default there is a slug of the composed form of a text and
one of the decomposed form.  They are the same just if in the composed form, with the ampersands
spelled out and without punctuation, every accented letter agrees: it is folded as its plain form
is, camel case would not be taken apart at that, and it is the last letter of its word or the word
has no letter up to it. -/
theorem slug_composed_eq_iff (t : Text) : ∃ u s s',
    ({} : SlugOptions).replace (Text.composed t) = .ok u ∧
    ({} : SlugOptions).slug (Text.composed t) = .ok s ∧
    ({} : SlugOptions).slug (Text.decomposed t) = .ok s' ∧
    (s = s' ↔ AgreesFrom [] (dropPunctuation u)) := by
  refine ⟨_, _, _, replace_default _, slug_of_replace (by decide) (replace_default _),
    slug_of_replace (by decide) (replace_default _), ?_⟩
  rw [replacedSlug_inj, slugWords_ampersandSpelled, slugWords_ampersandSpelled,
    textWords_decomposed, dropPunctuation_flatMap]
  exact textWords_opened_iff _

example : AgreesFrom [] "Café".toList ∧ ¬ AgreesFrom [] "Nîmes".toList := by decide +kernel

/-- **A word split at its accent**: the first accented letter of this word has letters on both
sides. -/
theorem split_at_accent :
    Text.composed "résumé".toList = "résumé".toList ∧
    Text.decomposed "résumé".toList = "re\u0301sume\u0301".toList ∧
    ({} : SlugOptions).slug "résumé".toList = .ok "resume".toList ∧
    ({} : SlugOptions).slug "re\u0301sume\u0301".toList = .ok "re-sume".toList ∧
    "resume".toList ≠ "re-sume".toList := by
  have hforms : Text.composed "résumé".toList = "résumé".toList ∧
      Text.decomposed "résumé".toList = "re\u0301sume\u0301".toList ∧
      ({} : SlugOptions).replacedSlug ("résumé".toList.flatMap ampersandSpelled) =
        "resume".toList ∧
      ({} : SlugOptions).replacedSlug ("re\u0301sume\u0301".toList.flatMap ampersandSpelled) =
        "re-sume".toList := by
    decide +kernel
  obtain ⟨hcomposed, hdecomposed, hjoined, hsplit⟩ := hforms
  have hslug : ∀ t, ({} : SlugOptions).slug t = _ := fun t =>
    slug_of_replace (by decide) (replace_default t)
  exact ⟨hcomposed, hdecomposed, (hslug _).trans (congrArg Except.ok hjoined),
    (hslug _).trans (congrArg Except.ok hsplit), by decide⟩

end SlugOptions
end Permalink
