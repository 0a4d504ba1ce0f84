import Permalink.Proofs.Text.Ascii
import Permalink.Slug.Fold
import Permalink.Text.Alphanumeric
import Permalink.Text.Blank

/-!
# Slug — folding is done character by character

A character is folded without regard to what stands around it (`toAscii_append`,
`toAscii_eq_flatMap`): the marks that decomposing moves are not ASCII, so they are dropped wherever
they come to stand.  ASCII text is left alone (`toAscii_of_ascii`).  `toAscii_charwise` puts this
together.

Two facts are read off the tables: a blank is folded to blanks, or dropped
(`isBlank_of_mem_toAscii`), and no word character is folded to text with a `<` in it
(`isWord_eq_false_of_mem_toAscii`).
-/

namespace Permalink.Fold

theorem isAscii_iff {c : Char} : isAscii c = true ↔ c.toNat < 0x80 := by simp [isAscii]

/-! ### Spelling -/

theorem spellings_ascii :
    ∀ p ∈ spellings, isAscii p.1 = false ∧ p.2.all Char.isAlpha = true := by decide

theorem spell_of_ascii {c : Char} (h : c.toNat < 0x80) : spell c = [c] := by
  have hnone : spellings.lookup c = none := List.lookup_eq_none_iff.2 fun p hp => by
    have hp := (spellings_ascii p hp).1
    refine bne_iff_ne.2 fun he => ?_
    subst he
    rw [isAscii_iff.2 h] at hp
    cases hp
  rw [spell, hnone]
  rfl

/-- A character is its own spelling, or is spelled with ASCII letters. -/
theorem spell_eq_or (c : Char) : spell c = [c] ∨ ∀ a ∈ spell c, a.isAlpha = true := by
  rw [spell]
  cases hlookup : spellings.lookup c with
  | none => exact .inl rfl
  | some s =>
      obtain ⟨l₁, l₂, hl, -⟩ := List.lookup_eq_some_iff.1 hlookup
      exact .inr (List.all_eq_true.1 (spellings_ascii (c, s) (by simp [hl])).2)

/-! ### Character by character -/

theorem isAscii_eq_false_of_mark {a : Char} (h : Text.combiningClass a ≠ 0) :
    isAscii a = false := by
  by_contra hascii
  rw [Bool.not_eq_false, isAscii_iff] at hascii
  exact h (Text.combiningClass_of_lt (by omega))

theorem toAscii_eq (t : Text) :
    toAscii t = ((t.flatMap spell).flatMap Text.compatible).filter isAscii :=
  Text.filter_sortMarks (fun _ => isAscii_eq_false_of_mark) _

/-- **Two texts** are folded on their own. -/
theorem toAscii_append (a b : Text) : toAscii (a ++ b) = toAscii a ++ toAscii b := by
  simp only [toAscii_eq, List.flatMap_append, List.filter_append]

/-- **A text is folded character by character.** -/
theorem toAscii_eq_flatMap (t : Text) : toAscii t = t.flatMap fun c => toAscii [c] := by
  induction t with
  | nil => rfl
  | cons c t ih => rw [List.flatMap_cons, ← ih, ← toAscii_append, List.singleton_append]

/-- **ASCII text** is left alone. -/
theorem toAscii_of_ascii {t : Text} (h : ∀ a ∈ t, a.toNat < 0x80) : toAscii t = t := by
  have hspell : t.flatMap spell = t := by
    rw [List.flatMap_congr fun a ha => spell_of_ascii (h a ha), List.flatMap_singleton']
  have hparts : t.flatMap Text.compatible = t := by
    rw [List.flatMap_congr fun a ha => Text.compatible_of_lt (by have := h a ha; omega),
      List.flatMap_singleton']
  rw [toAscii_eq, hspell, hparts, List.filter_eq_self.2 fun a ha => isAscii_iff.2 (h a ha)]

/-- **Folding is a fold of characters.**  Two texts are folded on their own, although the marks at
the start of the second may move into the first when both are taken apart together; so each
character is folded for itself.  What comes of it is ASCII, and just ASCII text is left alone, by a
second folding too. -/
theorem toAscii_charwise (a b : Text) :
    toAscii (a ++ b) = toAscii a ++ toAscii b ∧
    toAscii a = a.flatMap (fun c => toAscii [c]) ∧
    (∀ c ∈ toAscii a, c.toNat < 0x80) ∧
    (toAscii a = a ↔ ∀ c ∈ a, c.toNat < 0x80) ∧
    toAscii (toAscii a) = toAscii a := by
  have hascii : ∀ c ∈ toAscii a, c.toNat < 0x80 := fun c hc =>
    isAscii_iff.1 (isAscii_of_mem_toAscii hc)
  refine ⟨toAscii_append a b, toAscii_eq_flatMap a, hascii, ⟨fun h => ?_, toAscii_of_ascii⟩,
    toAscii_of_ascii hascii⟩
  intro c hc
  rw [← h] at hc
  exact hascii c hc

/-- The dot below goes in front of the accent, which the two texts apart do not show. -/
example : Text.compatibilityDecomposed ['á', '\u0323'] ≠
    Text.compatibilityDecomposed ['á'] ++ Text.compatibilityDecomposed ['\u0323'] := by
  decide +kernel

theorem mem_toAscii {t : Text} {a : Char} : a ∈ toAscii t ↔ ∃ c ∈ t, a ∈ toAscii [c] := by
  rw [toAscii_eq_flatMap, List.mem_flatMap]

/-- What a character is folded to are letters that spell it, or stands in its decomposition. -/
theorem isAlpha_or_mem_compatible {c a : Char} (h : a ∈ toAscii [c]) :
    a.isAlpha = true ∨ a ∈ Text.compatible c := by
  rw [toAscii_eq, List.flatMap_singleton] at h
  obtain ⟨d, hd, ha⟩ := List.mem_flatMap.1 (List.mem_filter.1 h).1
  rcases spell_eq_or c with hspell | hspell
  · rw [hspell, List.mem_singleton] at hd
    exact .inr (hd ▸ ha)
  · have hletter := hspell d hd
    have hlt : d.toNat < 0x80 := Text.toNat_lt_of_isAlphanum (by simp [Char.isAlphanum, hletter])
    rw [Text.compatible_of_lt (by omega), List.mem_singleton] at ha
    exact .inl (ha ▸ hletter)

/-! ### Blanks and word characters -/

theorem blanks_to_blanks : ∀ p ∈ Text.blankRanges, ∀ n ∈ List.range' p.1 (p.2 + 1 - p.1),
    (toAscii [Char.ofNat n]).all Text.isBlank = true := by
  decide +kernel

/-- **A blank** is folded to blanks, or to nothing. -/
theorem isBlank_of_mem_toAscii {c a : Char} (hc : Text.isBlank c = true) (ha : a ∈ toAscii [c]) :
    Text.isBlank a = true := by
  have hall : (toAscii [c]).all Text.isBlank = true :=
    Text.Ranges.forall_of_holds (P := fun c => (toAscii [c]).all Text.isBlank = true)
      blanks_to_blanks hc
  exact List.all_eq_true.1 hall a ha

theorem angles_of_punctuation : ((Text.compatibilityTable ++ Text.canonicalTable).all fun d =>
    !d.2.contains '<'.toNat || !Text.isWord (Char.ofNat d.1)) = true := by
  decide +kernel

/-- **No word character** is folded to text with a `<` in it: only the sign itself, its variants in
width and size and the sign struck through are. -/
theorem isWord_eq_false_of_mem_toAscii {c : Char} (h : '<' ∈ toAscii [c]) :
    Text.isWord c = false := by
  have hmem : '<' ∈ Text.compatible c :=
    (isAlpha_or_mem_compatible h).resolve_left (by decide)
  rcases Text.mem_compatible hmem (by decide) (by decide) with rfl | ⟨d, hd, hcode, hangle⟩
  · decide
  · have hentry := List.all_eq_true.1 angles_of_punctuation d hd
    rw [hcode, Char.ofNat_toNat, List.contains_iff_mem.2 hangle] at hentry
    simpa using hentry

end Permalink.Fold
