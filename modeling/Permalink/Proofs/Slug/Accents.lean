import Permalink.Proofs.Slug.Replacing
import Permalink.Proofs.Slug.Words
import Permalink.Proofs.Text.Marks

/-!
# Slug — letters with accents and their plain forms

An accented letter is a word character that is taken apart into a plain one and marks that are none
(`isAccented`, `plain`).  Before words are looked at, the letter is kept, its plain form is kept,
and every mark becomes a blank (`dropped_of_clear`, `dropped_of_attached`).

The letter is folded to what its plain form is folded to, with one exception (`toAscii_accented`):
where the plain form is one of the Latin letters that are spelled out, the spelling is looked up
before anything is taken apart, so the accented letter is not spelled but dropped.

To the passes that take camel case apart an accented letter is neither capital nor small
(`not_camel_of_isAccented`), whatever its plain form is.  The same holds of Hangul syllables and
their parts, which are folded to nothing (`toAscii_hangul`).
-/

namespace Permalink

namespace Slug

/-- What is put for a character before words are looked at, with the replacements by default. -/
def dropped (c : Char) : Text := dropPunctuation (SlugOptions.ampersandSpelled c)

/-- Is `c` a word character made of another one and marks? -/
def isAccented (c : Char) : Bool :=
  Text.isWord c && (Text.canonical c).any fun a => !Text.isWord a

/-- The first of the characters that `c` is made of. -/
def plain (c : Char) : Char := (Text.canonical c).headD c

variable {a c base : Char} {marks : Text}

/-! ### What becomes of letters and marks -/

theorem dropped_of_clear (h : Text.Clear c) :
    dropped c = if Text.isWord c then [c] else [' '] := by
  obtain ⟨hamp, hstraight, hcurved⟩ := h.ne
  have hapostrophe : isApostrophe c = false := by
    simp [isApostrophe, hstraight, hcurved]
  rw [dropped, SlugOptions.ampersandSpelled, if_neg hamp, dropPunctuation_singleton, hapostrophe,
    h.not_isBlank, Bool.or_false, if_neg Bool.false_ne_true]

/-- **A mark** becomes a blank. -/
theorem dropped_of_attached (h : Text.Attached c) : dropped c = [' '] := by
  have hne : ∀ d : Char, d.toNat < 0x300 → c ≠ d := by
    rintro d hd rfl
    have := h.beyond
    omega
  have hapostrophe : isApostrophe c = false := by
    simp [isApostrophe, hne '\'' (by decide), h.ne_quote]
  rw [dropped, SlugOptions.ampersandSpelled, if_neg (hne '&' (by decide)),
    dropPunctuation_singleton, hapostrophe, h.not_isWord, h.not_isBlank]
  rfl

theorem dropped_eq_self_of_hangul (h : Text.hangulRanges.Has c.toNat) : dropped c = [c] := by
  have hword := Text.isWord_of_hangul h
  have hamp : c ≠ '&' := by
    rintro rfl
    exact absurd hword (by decide)
  rw [dropped, SlugOptions.ampersandSpelled, if_neg hamp, dropPunctuation_singleton,
    not_isApostrophe_of_isWord hword, hword]
  rfl

theorem plain_of_combined (h : Text.Combined c base marks) : plain c = base := by
  rw [plain, h.canonical_eq]
  rfl

theorem isAccented_of_combined (h : Text.Combined c base marks) : isAccented c = Text.isWord c := by
  obtain ⟨m, marks', rfl⟩ := List.exists_cons_of_ne_nil h.marks_ne_nil
  rw [isAccented, h.canonical_eq, List.any_cons, List.any_cons,
    (h.attached m List.mem_cons_self).not_isWord]
  simp

/-- **An accented letter** is made of its plain form and marks. -/
theorem exists_combined (h : isAccented c = true) :
    Text.isWord c = true ∧ ∃ marks, Text.Combined c (plain c) marks := by
  obtain ⟨hword, hany⟩ := Bool.and_eq_true_iff.1 h
  obtain ⟨a, ha, hnot⟩ := List.any_eq_true.1 hany
  rw [Bool.not_eq_true'] at hnot
  refine ⟨hword, ?_⟩
  rcases Text.canonical_cases c with hself | hhangul | ⟨d, hd, hcode, hparts⟩
  · rw [hself, List.mem_singleton] at ha
    rw [← ha, hnot] at hword
    cases hword
  · rw [Text.isWord_of_hangul (Text.hangul_of_decompose? hhangul a (List.mem_cons_of_mem _ ha))]
      at hnot
    cases hnot
  · match hd2 : d.2 with
    | [] =>
      rw [hparts, hd2] at ha
      exact absurd ha List.not_mem_nil
    | [b] =>
      -- Another letter alone is as much a word character as this one.
      have hfirst := Text.isWord_first hd hd2
      rw [hparts, hd2, List.map_singleton, List.mem_singleton] at ha
      rw [hcode, Char.ofNat_toNat, hword, ← ha, hnot] at hfirst
      cases hfirst
    | b :: m :: ms =>
      have hcombined := Text.combined_of_mem hd hd2
      rw [hcode, Char.ofNat_toNat] at hcombined
      rw [plain_of_combined hcombined]
      exact ⟨_, hcombined⟩

/-! ### What they are folded to -/

/-- The accented letters of which the whole or the plain form has a style besides. -/
def styled : List Nat := [0x3D3, 0x3D4, 0x1E9B]

/-- What is spelled out is not decomposed, and is spelled with letters.  Of accented letters and
their plain forms only those in `styled` have a style, and those are folded alike.  And Hangul has
no style and no decimal digits. -/
theorem folding_checked :
    Text.Ranges.Apart (.points Text.sources) (.points (Fold.spellings.map (·.1.toNat))) ∧
    (∀ p ∈ Fold.spellings, Fold.toAscii [p.1] = p.2 ∧ p.2 ≠ []) ∧
    Text.Ranges.Apart
      (.points ((Text.separable.filter fun d =>
        Text.wordRanges.bits.testBit d.1 && !styled.contains d.1).flatMap fun d =>
          [d.1, d.2.headD 0]))
      (.points (Text.compatibilityTable.map (·.1))) ∧
    (∀ n ∈ styled, Fold.toAscii [Char.ofNat n] = Fold.toAscii [plain (Char.ofNat n)]) ∧
    Text.Ranges.Apart Text.hangulRanges
      (.points (Text.compatibilityTable.map (·.1)) ++ Text.decimalRanges) := by
  -- One check, so that the tables are gone through in one place.
  decide +kernel

theorem sources_not_spelled :
    Text.Ranges.Apart (.points Text.sources) (.points (Fold.spellings.map (·.1.toNat))) :=
  folding_checked.1

theorem toAscii_spellings : ∀ p ∈ Fold.spellings, Fold.toAscii [p.1] = p.2 ∧ p.2 ≠ [] :=
  folding_checked.2.1

theorem separable_not_styled : Text.Ranges.Apart
    (.points ((Text.separable.filter fun d =>
      Text.wordRanges.bits.testBit d.1 && !styled.contains d.1).flatMap fun d =>
        [d.1, d.2.headD 0]))
    (.points (Text.compatibilityTable.map (·.1))) :=
  folding_checked.2.2.1

theorem toAscii_styled : ∀ n ∈ styled, Fold.toAscii [Char.ofNat n] =
    Fold.toAscii [plain (Char.ofNat n)] :=
  folding_checked.2.2.2.1

theorem hangul_not_styled : Text.Ranges.Apart Text.hangulRanges
    (.points (Text.compatibilityTable.map (·.1)) ++ Text.decimalRanges) :=
  folding_checked.2.2.2.2

theorem spell_eq_self (h : c.toNat ∉ Fold.spellings.map (·.1.toNat)) : Fold.spell c = [c] := by
  have hnone : Fold.spellings.lookup c = none := List.lookup_eq_none_iff.2 fun p hp => by
    refine bne_iff_ne.2 ?_
    rintro rfl
    exact h (List.mem_map_of_mem hp)
  rw [Fold.spell, hnone]
  rfl

/-- A character that is spelled out is not ASCII, and is folded to letters. -/
theorem toAscii_spelled (h : Fold.spell c ≠ [c]) : Fold.isAscii c = false ∧
    Fold.toAscii [c] ≠ [] ∧ ∀ a ∈ Fold.toAscii [c], a.isAlpha = true := by
  rw [Fold.spell] at h
  cases hlookup : Fold.spellings.lookup c with
  | none =>
      rw [hlookup] at h
      exact absurd rfl h
  | some s =>
      obtain ⟨l₁, l₂, hl, -⟩ := List.lookup_eq_some_iff.1 hlookup
      have hmem : (c, s) ∈ Fold.spellings := by simp [hl]
      obtain ⟨hascii, hletters⟩ := Fold.spellings_ascii _ hmem
      obtain ⟨hfold, hne⟩ := toAscii_spellings _ hmem
      rw [hfold]
      exact ⟨hascii, hne, List.all_eq_true.1 hletters⟩

theorem compatible_eq_canonical (h : c.toNat ∉ Text.compatibilityTable.map (·.1)) :
    Text.compatible c = Text.canonical c := by
  rw [Text.compatible, Text.findDecomposition_eq_none h]
  split
  · next hlt => rw [Text.canonical_of_lt hlt]
  · rfl

/-- A character without style that is not spelled out is folded to the ASCII characters it is made
of. -/
theorem toAscii_eq_filter (hspell : Fold.spell c = [c])
    (hstyle : c.toNat ∉ Text.compatibilityTable.map (·.1)) :
    Fold.toAscii [c] = (Text.canonical c).filter Fold.isAscii := by
  rw [Fold.toAscii_eq, List.flatMap_singleton, hspell, List.flatMap_singleton,
    compatible_eq_canonical hstyle]

theorem le_of_hangul (h : Text.hangulRanges.Has c.toNat) : 0x1100 ≤ c.toNat := by
  obtain ⟨p, hp, hle, -⟩ := h
  have hfirst : ∀ p ∈ Text.hangulRanges, 0x1100 ≤ p.1 := by decide
  exact (hfirst p hp).trans hle

theorem toAscii_hangul (h : Text.hangulRanges.Has c.toNat) : Fold.toAscii [c] = [] := by
  have hspell : c.toNat ∉ Fold.spellings.map (·.1.toNat) := fun hmem => by
    have hlt : ∀ n ∈ Fold.spellings.map (·.1.toNat), n < 0x300 := by decide
    have := hlt _ hmem
    have := le_of_hangul h
    omega
  have hstyle : c.toNat ∉ Text.compatibilityTable.map (·.1) := fun hmem =>
    hangul_not_styled.not_has h (Text.Ranges.has_append.2 (.inl (Text.Ranges.has_points hmem)))
  rw [toAscii_eq_filter (spell_eq_self hspell) hstyle, List.filter_eq_nil_iff]
  have hparts : ∀ a ∈ Text.canonical c, Text.hangulRanges.Has a.toNat := by
    intro a ha
    rcases Text.canonical_cases c with hself | hhangul | ⟨d, hd, hcode, -⟩
    · rw [hself, List.mem_singleton] at ha
      exact ha ▸ h
    · exact Text.hangul_of_decompose? hhangul a (List.mem_cons_of_mem _ ha)
    · exact absurd (hcode ▸ List.mem_map_of_mem hd) (Text.not_mem_sources_of_hangul h)
  intro a ha hascii
  have hlt := Fold.isAscii_iff.1 hascii
  have := le_of_hangul (hparts a ha)
  omega

/-- **An accented letter** is folded to what its plain form is folded to, or it is dropped and its
plain form is spelled out. -/
theorem toAscii_accented (h : isAccented c = true) : Fold.toAscii [c] = Fold.toAscii [plain c] ∨
    Fold.toAscii [c] = [] ∧ Fold.isAscii (plain c) = false ∧
      Fold.toAscii [plain c] ≠ [] ∧ ∀ a ∈ Fold.toAscii [plain c], a.isAlpha = true := by
  obtain ⟨hword, marks, hcombined⟩ := exists_combined h
  obtain ⟨d, hd, hcode, hbase⟩ := hcombined.source
  by_cases hstyled : c.toNat ∈ styled
  · have hfold := toAscii_styled _ hstyled
    rw [Char.ofNat_toNat] at hfold
    exact .inl hfold
  have hfree : ∀ n ∈ [d.1, d.2.headD 0], n ∉ Text.compatibilityTable.map (·.1) := by
    intro n hn hmem
    refine separable_not_styled.not_has (Text.Ranges.has_points ?_) (Text.Ranges.has_points hmem)
    refine List.mem_flatMap.2 ⟨d, List.mem_filter.2 ⟨hd, ?_⟩, hn⟩
    rw [hcode, Text.Ranges.testBit_bits.2 (Text.isWord_iff.1 hword)]
    simpa using hstyled
  have hspell : Fold.spell c = [c] := spell_eq_self fun hmem =>
    sources_not_spelled.not_has (Text.Ranges.has_points (hcode ▸
      List.mem_map_of_mem (List.mem_of_mem_filter hd))) (Text.Ranges.has_points hmem)
  have hmarks : marks.filter Fold.isAscii = [] := by
    rw [List.filter_eq_nil_iff]
    intro m hm hascii
    have := (hcombined.attached m hm).beyond
    have := Fold.isAscii_iff.1 hascii
    omega
  have hfold : Fold.toAscii [c] = [plain c].filter Fold.isAscii := by
    rw [toAscii_eq_filter hspell (hcode ▸ hfree d.1 (by simp)), hcombined.canonical_eq,
      ← List.singleton_append, List.filter_append, hmarks, List.append_nil]
  by_cases hplain : Fold.spell (plain c) = [plain c]
  · refine .inl ?_
    rw [hfold, toAscii_eq_filter hplain (hbase ▸ hfree _ (by simp)), hcombined.canonical_base]
  · obtain ⟨hascii, hletters⟩ := toAscii_spelled hplain
    refine .inr ⟨?_, hascii, hletters⟩
    rw [hfold, List.filter_cons_of_neg (by simp [hascii]), List.filter_nil]

/-! ### What takes camel case apart -/

theorem not_camel_of_beyond (h : 0x80 ≤ c.toNat) (hdecimal : Text.isDecimal c = false) :
    c.isUpper = false ∧ Camel.isSmall c = false := by
  have hletter : c.isAlphanum = false := by
    rw [Bool.eq_false_iff]
    intro hletter
    have := Text.toNat_lt_of_isAlphanum hletter
    omega
  rw [Text.isAlphanum_eq, Bool.or_eq_false_iff, Bool.or_eq_false_iff] at hletter
  exact ⟨hletter.1.1, by rw [Camel.isSmall, hletter.1.2, hdecimal]; rfl⟩

theorem not_camel_of_hangul (h : Text.hangulRanges.Has c.toNat) :
    c.isUpper = false ∧ Camel.isSmall c = false := by
  have := le_of_hangul h
  refine not_camel_of_beyond (by omega) ?_
  rw [Bool.eq_false_iff]
  exact fun hdecimal => hangul_not_styled.not_has h
    (Text.Ranges.has_append.2 (.inr (Text.isDecimal_iff.1 hdecimal)))

/-- An accented letter is neither capital nor small. -/
theorem not_camel_of_isAccented (h : isAccented c = true) :
    c.isUpper = false ∧ Camel.isSmall c = false := by
  obtain ⟨-, marks, hcombined⟩ := exists_combined h
  have := hcombined.beyond
  exact not_camel_of_beyond (by omega) hcombined.clear.not_isDecimal

/-- And its plain form is small just if it is a small letter. -/
theorem isSmall_plain (h : isAccented c = true) :
    Camel.isSmall (plain c) = (plain c).isLower := by
  obtain ⟨-, marks, hcombined⟩ := exists_combined h
  rw [Camel.isSmall, hcombined.clear_base.not_isDecimal, Bool.or_false]

end Slug
end Permalink
