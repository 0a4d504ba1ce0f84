import Mathlib.Data.List.Basic
import Permalink.Text.Lowercase
import Permalink.Text.Normal

/-!
# Text — ASCII under decomposing, composing and lowering

What the mappings of Unicode do with ASCII characters.  Each of them takes ASCII text to ASCII
text: composing leaves it alone (`composed_of_ascii`), and lowering takes its letters one by one
(`lower_of_ascii`).

In text that is not ASCII they can bring forth ASCII characters that were not there, but not every
one.  A decomposition has the ASCII characters that stand in the tables (`mem_canonical`,
`mem_compatible`), composing adds no ASCII character (`exists_mem_canonical_of_mem_composed`), and
lowering none below the small letters (`mem_of_mem_lower`).

Sorting marks moves no character past one that is no mark, so it keeps the order of all that are
none (`filter_sortMarks`).
-/

namespace Permalink.Text

/-! ### Code points -/

theorem toNat_ofNat_of_valid {n : Nat} (h : n.isValidChar) : (Char.ofNat n).toNat = n :=
  congrArg Char.toNat (dif_pos h)

/-- A code point that is not zero is the one it was made from. -/
theorem toNat_of_ofNat_eq {n : Nat} {a : Char} (ha : a.toNat ≠ 0) (h : Char.ofNat n = a) :
    a.toNat = n := by
  subst h
  by_cases hn : n.isValidChar
  · exact toNat_ofNat_of_valid hn
  · exact absurd (congrArg Char.toNat (dif_neg hn)) ha

/-! ### Letters and digits -/

section Letters

variable {c : Char}

theorem isUpper_iff : c.isUpper = true ↔ 0x41 ≤ c.toNat ∧ c.toNat ≤ 0x5A :=
  ⟨of_decide_eq_true, decide_eq_true⟩

theorem isLower_iff : c.isLower = true ↔ 0x61 ≤ c.toNat ∧ c.toNat ≤ 0x7A := by
  have h : c.isLower = (decide (0x61 ≤ c.toNat) && decide (c.toNat ≤ 0x7A)) := rfl
  rw [h, Bool.and_eq_true, decide_eq_true_eq, decide_eq_true_eq]

theorem isAlphanum_eq (c : Char) : c.isAlphanum = (c.isUpper || c.isLower || c.isDigit) := rfl

theorem isAlphanum_of_isUpper (h : c.isUpper = true) : c.isAlphanum = true := by
  simp [isAlphanum_eq, h]

theorem isAlphanum_of_isLower (h : c.isLower = true) : c.isAlphanum = true := by
  simp [isAlphanum_eq, h]

theorem toNat_lt_of_isAlphanum (h : c.isAlphanum = true) : c.toNat < 0x80 := by
  rw [isAlphanum_eq, Bool.or_eq_true, Bool.or_eq_true] at h
  rcases h with (hupper | hlower) | hdigit
  · have hcapital := isUpper_iff.1 hupper
    omega
  · have hsmall := isLower_iff.1 hlower
    omega
  · exact Nat.lt_of_le_of_lt (Char.isDigit_iff_toNat.1 hdigit).2 (by decide)

end Letters

/-! ### Letter case -/

theorem toLower_of_not_isUpper {c : Char} (h : ¬ c.isUpper = true) : c.toLower = c :=
  dif_neg fun hc => h (decide_eq_true hc)

/-- A small letter stands 32 behind its capital one. -/
theorem toNat_toLower_of_isUpper {c : Char} (h : c.isUpper = true) :
    c.toLower.toNat = c.toNat + 32 := by
  have hbounds := isUpper_iff.1 h
  have hlower : c.toLower.toNat = (c.toNat + 32) % 2 ^ 32 :=
    congrArg Char.toNat (dif_pos (of_decide_eq_true h))
  omega

theorem isUpper_toLower (c : Char) : c.toLower.isUpper = false := by
  rw [Bool.eq_false_iff]
  intro h
  by_cases hc : c.isUpper = true
  · have hbounds := isUpper_iff.1 hc
    have hlower := toNat_toLower_of_isUpper hc
    have hcapital := isUpper_iff.1 h
    omega
  · rw [toLower_of_not_isUpper hc] at h
    exact hc h

/-! ### Taking apart -/

/-- The consonants and vowel of a syllable stand beyond U+1100. -/
theorem exists_ofNat_of_mem_decompose? {c a : Char} {s : List Char}
    (h : Hangul.decompose? c = some s) (ha : a ∈ s) : ∃ n, 0x1100 ≤ n ∧ Char.ofNat n = a := by
  have made : ∀ {base n : Nat}, 0x1100 ≤ base → a = Char.ofNat (base + n) →
      ∃ n, 0x1100 ≤ n ∧ Char.ofNat n = a := fun hbase he =>
    ⟨_, Nat.le_trans hbase (Nat.le_add_right _ _), he.symm⟩
  have hlead : 0x1100 ≤ Hangul.leadBase := by decide
  have hvowel : 0x1100 ≤ Hangul.vowelBase := by decide
  have htrail : 0x1100 ≤ Hangul.trailBase := by decide
  rw [Hangul.decompose?] at h
  split at h
  · obtain rfl := Option.some.inj h
    split at ha
    · rcases List.mem_cons.1 ha with ha | ha
      · exact made hlead ha
      · exact made hvowel (List.mem_singleton.1 ha)
    · rcases List.mem_cons.1 ha with ha | ha
      · exact made hlead ha
      rcases List.mem_cons.1 ha with ha | ha
      · exact made hvowel ha
      · exact made htrail (List.mem_singleton.1 ha)
  · cases h

theorem mem_of_findDecomposition_mem {table : List Decomposition} {n : Nat} {s : List Char}
    (h : findDecomposition table n = some s) {a : Char} (ha : a ∈ s) (hzero : a.toNat ≠ 0) :
    ∃ d ∈ table, d.1 = n ∧ a.toNat ∈ d.2 := by
  obtain ⟨d, hd, hn, rfl⟩ := mem_of_findDecomposition h
  obtain ⟨m, hm, he⟩ := List.mem_map.1 ha
  exact ⟨d, hd, hn, by rwa [toNat_of_ofNat_eq hzero he]⟩

/-- An ASCII character of a canonical decomposition is the character itself or in the table. -/
theorem mem_canonical {c a : Char} (h : a ∈ canonical c) (ha : a.toNat < 0x80)
    (hzero : a.toNat ≠ 0) : a = c ∨ ∃ d ∈ canonicalTable, d.1 = c.toNat ∧ a.toNat ∈ d.2 := by
  rw [canonical] at h
  split at h
  · exact .inl (List.mem_singleton.1 h)
  · cases hfind : findDecomposition canonicalTable c.toNat with
    | some s =>
        rw [hfind] at h
        exact .inr (mem_of_findDecomposition_mem hfind h hzero)
    | none =>
        rw [hfind] at h
        cases hhangul : Hangul.decompose? c with
        | some s =>
            rw [hhangul] at h
            obtain ⟨n, hn, he⟩ := exists_ofNat_of_mem_decompose? hhangul h
            have hna := toNat_of_ofNat_eq hzero he
            omega
        | none =>
            rw [hhangul] at h
            exact .inl (List.mem_singleton.1 h)

/-- An ASCII character of a decomposition that gives up style is the character itself or in one of
the tables. -/
theorem mem_compatible {c a : Char} (h : a ∈ compatible c) (ha : a.toNat < 0x80)
    (hzero : a.toNat ≠ 0) :
    a = c ∨ ∃ d ∈ compatibilityTable ++ canonicalTable, d.1 = c.toNat ∧ a.toNat ∈ d.2 := by
  rw [compatible] at h
  split at h
  · exact .inl (List.mem_singleton.1 h)
  · cases hfind : findDecomposition compatibilityTable c.toNat with
    | some s =>
        rw [hfind] at h
        obtain ⟨d, hd, hn, hmem⟩ := mem_of_findDecomposition_mem hfind h hzero
        exact .inr ⟨d, List.mem_append_left _ hd, hn, hmem⟩
    | none =>
        rw [hfind] at h
        refine (mem_canonical h ha hzero).imp_right ?_
        rintro ⟨d, hd, hn, hmem⟩
        exact ⟨d, List.mem_append_right _ hd, hn, hmem⟩

/-! ### Sorting marks -/

theorem filter_sinkMark {q : Char → Bool} (hq : ∀ a, combiningClass a ≠ 0 → q a = false) (c : Char)
    (s : List Char) : (sinkMark c s).filter q = (c :: s).filter q := by
  induction s with
  | nil => rfl
  | cons d s ih =>
      rw [sinkMark]
      split
      · next h =>
        -- Only a mark is passed, and only by a mark: neither is kept.
        have hd : q d = false := hq d h.1
        have hc : q c = false := hq c (by omega)
        simpa [hd, hc] using ih
      · rfl

/-- **What is no mark keeps its order** when marks are sorted. -/
theorem filter_sortMarks {q : Char → Bool} (hq : ∀ a, combiningClass a ≠ 0 → q a = false)
    (s : List Char) : (sortMarks s).filter q = s.filter q := by
  induction s with
  | nil => rfl
  | cons c s ih =>
      rw [sortMarks, filter_sinkMark hq, List.filter_cons, List.filter_cons, ih]

theorem sortMarks_of_forall {s : List Char} (h : ∀ a ∈ s, combiningClass a = 0) :
    sortMarks s = s := by
  induction s with
  | nil => rfl
  | cons c s ih =>
      obtain ⟨hc, hs⟩ := List.forall_mem_cons.1 h
      rw [sortMarks, ih hs, sinkMark_of_starter hc]

/-! ### Composing -/

theorem composites_not_ascii : ∀ r ∈ composites, 0x80 ≤ (Char.ofNat r.2.2).toNat := by
  decide +kernel

/-- No two characters compose to an ASCII character. -/
theorem le_toNat_of_composePair? {a b d : Char} (h : composePair? a b = some d)
    (hzero : d.toNat ≠ 0) : 0x80 ≤ d.toNat := by
  rw [composePair?] at h
  split at h
  · cases h
  · split at h
    · next r hr =>
      cases h
      exact composites_not_ascii r (List.mem_of_find?_eq_some hr)
    · rw [Hangul.compose?] at h
      split at h
      · have hd := toNat_of_ofNat_eq hzero (Option.some.inj h)
        simp only [Hangul.syllableBase] at hd
        omega
      · split at h
        · next hsyllable =>
          have hd := toNat_of_ofNat_eq hzero (Option.some.inj h)
          have hle : Hangul.syllableBase ≤ a.toNat := by
            simp only [Hangul.within, Bool.and_eq_true, decide_eq_true_eq] at hsyllable
            exact hsyllable.1.1.1
          have hbase : 0x80 ≤ Hangul.syllableBase := by decide
          omega
        · cases h

/-- Absorbing leaves what was there, and composites. -/
theorem mem_absorb {a base : Char} {marks s : List Char} {last : Nat}
    (h : a ∈ absorb base marks last s) (ha : a.toNat < 0x80) (hzero : a.toNat ≠ 0) :
    a = base ∨ a ∈ marks ∨ a ∈ s := by
  induction s generalizing base marks last with
  | nil => exact (List.mem_cons.1 h).imp_right .inl
  | cons c s ih =>
      rw [absorb] at h
      split at h
      · next d hd =>
        rcases ih h with rfl | h | h
        · split at hd
          · have hle := le_toNat_of_composePair? hd hzero
            omega
          · cases hd
        · exact .inr (.inl h)
        · exact .inr (.inr (List.mem_cons_of_mem _ h))
      · split at h
        · rcases List.mem_cons.1 h with h | h
          · exact .inl h
          rcases List.mem_append.1 h with h | h
          · exact .inr (.inl h)
          rcases ih h with rfl | h | h
          · exact .inr (.inr List.mem_cons_self)
          · exact absurd h List.not_mem_nil
          · exact .inr (.inr (List.mem_cons_of_mem _ h))
        · rcases ih h with h | h | h
          · exact .inl h
          · rcases List.mem_append.1 h with h | h
            · exact .inr (.inl h)
            · exact .inr (.inr (List.mem_singleton.1 h ▸ List.mem_cons_self))
          · exact .inr (.inr (List.mem_cons_of_mem _ h))

/-- **An ASCII character of composed text** comes from taking a character apart. -/
theorem exists_mem_canonical_of_mem_composed {a : Char} {s : List Char} (h : a ∈ composed s)
    (ha : a.toNat < 0x80) (hzero : a.toNat ≠ 0) : ∃ c ∈ s, a ∈ canonical c := by
  have hmem : a ∈ decomposed s := by
    rw [composed] at h
    cases hd : decomposed s with
    | nil =>
        rw [hd] at h
        exact absurd h List.not_mem_nil
    | cons c cs =>
        rw [hd, compose] at h
        rcases mem_absorb h ha hzero with h | h | h
        · exact List.mem_cons.2 (.inl h)
        · exact absurd h List.not_mem_nil
        · exact List.mem_cons_of_mem _ h
  exact List.mem_flatMap.1 ((sortMarks_perm _).mem_iff.1 hmem)

theorem absorb_of_ascii {s : List Char} (h : ∀ a ∈ s, a.toNat < 0x80) (base : Char) :
    absorb base [] 0 s = base :: s := by
  induction s generalizing base with
  | nil => rfl
  | cons c s ih =>
      obtain ⟨hc, hs⟩ := List.forall_mem_cons.1 h
      rw [absorb, composePair?_of_lt (by omega), combiningClass_of_lt (by omega)]
      simp [ih hs]

/-- **ASCII text is composed.** -/
theorem composed_of_ascii {s : List Char} (h : ∀ a ∈ s, a.toNat < 0x80) : composed s = s := by
  have hparts : s.flatMap canonical = s := by
    calc s.flatMap canonical = s.flatMap fun a => [a] :=
          List.flatMap_congr fun a ha => canonical_of_lt (by have := h a ha; omega)
      _ = s := List.flatMap_singleton' s
  have hsorted : decomposed s = s := by
    rw [decomposed, hparts]
    exact sortMarks_of_forall fun a ha => combiningClass_of_lt (by have := h a ha; omega)
  rw [composed, hsorted]
  cases s with
  | nil => rfl
  | cons c s => exact absorb_of_ascii (List.forall_mem_cons.1 h).2 c

/-! ### Lowering -/

/-- **ASCII text is lowered** letter by letter. -/
theorem lower_of_ascii {s : List Char} (h : ∀ a ∈ s, a.toNat < 0x80) :
    lower s = s.map Char.toLower := by
  have hafter : ∀ before : List Char, lowerAfter before s = s.map Char.toLower := by
    intro before
    fun_induction lowerAfter before s with
    | case1 => rfl
    | case2 => exact absurd (h 'Σ' List.mem_cons_self) (by decide)
    | case3 => exact absurd (h 'İ' List.mem_cons_self) (by decide)
    | case4 before c s _ _ ih =>
        obtain ⟨hc, hs⟩ := List.forall_mem_cons.1 h
        rw [lowerChar_of_ascii hc, ih hs, List.map_cons]
  exact hafter []

theorem capitalRuns_small : ∀ r ∈ capitalRuns, 0x60 ≤ r.2.2.2 := by decide +kernel

/-- A character below the small letters is the small letter of no other. -/
theorem lowerChar_eq_of_lt {c a : Char} (h : lowerChar c = a) (ha : a.toNat < 0x60)
    (hzero : a.toNat ≠ 0) : a = c := by
  rw [lowerChar] at h
  split at h
  · by_cases hc : c.isUpper = true
    · have hle := (isUpper_iff.1 hc).1
      have hn := toNat_toLower_of_isUpper hc
      rw [h] at hn
      omega
    · rw [toLower_of_not_isUpper hc] at h
      exact h.symm
  · split at h
    · next r hr =>
      have hsmall := capitalRuns_small r (List.mem_of_find?_eq_some hr)
      have hn := toNat_of_ofNat_eq hzero h
      omega
    · exact h.symm

/-- **Lowering adds no character** below the small letters. -/
theorem mem_of_mem_lower {a : Char} {s : List Char} (h : a ∈ lower s) (ha : a.toNat < 0x60)
    (hzero : a.toNat ≠ 0) : a ∈ s := by
  have hafter : ∀ before t : List Char, a ∈ lowerAfter before t → a ∈ t := by
    intro before t
    fun_induction lowerAfter before t with
    | case1 => exact id
    | case2 before t ih =>
        intro h
        rcases List.mem_cons.1 h with h | h
        · rw [h] at ha
          split at ha <;> exact absurd ha (by decide)
        · exact List.mem_cons_of_mem _ (ih h)
    | case3 before t ih =>
        intro h
        rcases List.mem_cons.1 h with rfl | h
        · exact absurd ha (by decide)
        rcases List.mem_cons.1 h with rfl | h
        · exact absurd ha (by decide)
        · exact List.mem_cons_of_mem _ (ih h)
    | case4 before c t _ _ ih =>
        intro h
        rcases List.mem_cons.1 h with h | h
        · exact List.mem_cons.2 (.inl (lowerChar_eq_of_lt h.symm ha hzero))
        · exact List.mem_cons_of_mem _ (ih h)
  exact hafter [] s h

end Permalink.Text
