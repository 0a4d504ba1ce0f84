import Mathlib.Algebra.Group.Nat.Defs
import Permalink.Proofs.Text.Ascii

/-!
# Text — the tables held against each other

What the tables of Unicode say together: a decomposition is given in full
(`not_mem_sources_of_mem`), no syllable and no part of one is in the table of decompositions
(`not_mem_sources_of_hangul`), and a composite is decomposed to what the first of its pair is made
of, with the second behind (`canonical_of_mem_composites`).

Such facts quantify over pairs of entries, of which there are millions.  They are checked in one
pass over each table: a class of code points is a number with a bit for each (`Ranges.bits`), and
two classes have nothing in common if the conjunction of their numbers is zero (`Ranges.Apart`).
-/

namespace Permalink.Text

/-! ### Classes as numbers -/

namespace Ranges

variable {r s : Ranges}

/-- Is the code point `n` in one of the ranges? -/
def Has (r : Ranges) (n : Nat) : Prop := ∃ p ∈ r, p.1 ≤ n ∧ n ≤ p.2

theorem has_toNat {c : Char} : r.Has c.toNat ↔ r.holds c = true := holds_iff.symm

/-- Single code points. -/
def points (l : List Nat) : Ranges := l.map fun n => (n, n)

theorem has_points {l : List Nat} {n : Nat} (h : n ∈ l) : (points l).Has n :=
  ⟨(n, n), List.mem_map_of_mem h, Nat.le_refl n, Nat.le_refl n⟩

theorem has_append {n : Nat} : Has (r ++ s) n ↔ r.Has n ∨ s.Has n := by
  simp only [Has, List.mem_append, or_and_right, exists_or]

/-- The number whose bits are the code points in the ranges. -/
def bits (r : Ranges) : Nat := r.foldr (fun p n => n ||| (2 ^ (p.2 + 1 - p.1) - 1) <<< p.1) 0

theorem testBit_bits {n : Nat} : r.bits.testBit n = true ↔ r.Has n := by
  induction r with
  | nil => simp [bits, Has]
  | cons p r ih =>
      have hp : ((2 ^ (p.2 + 1 - p.1) - 1) <<< p.1).testBit n = true ↔ p.1 ≤ n ∧ n ≤ p.2 := by
        rw [Nat.testBit_shiftLeft, Nat.testBit_two_pow_sub_one, Bool.and_eq_true,
          decide_eq_true_eq, decide_eq_true_eq]
        omega
      rw [bits, List.foldr_cons, ← bits, Nat.testBit_or, Bool.or_eq_true, ih, hp, Has, Has,
        List.exists_mem_cons_iff, or_comm]

/-- No code point is in both. -/
def Apart (r s : Ranges) : Prop := r.bits &&& s.bits = 0

instance (r s : Ranges) : Decidable (Apart r s) := inferInstanceAs (Decidable (_ = _))

theorem Apart.not_has (h : Apart r s) {n : Nat} (hr : r.Has n) : ¬ s.Has n := by
  intro hs
  have hboth : (r.bits &&& s.bits).testBit n = true := by
    rw [Nat.testBit_and, testBit_bits.2 hr, testBit_bits.2 hs]
    rfl
  rw [h, Nat.zero_testBit] at hboth
  cases hboth

end Ranges

/-- Is no number listed twice, nor a bit of `seen`? -/
def distinctFrom (seen : Nat) : List Nat → Bool
  | [] => true
  | n :: l => !seen.testBit n && distinctFrom (seen ||| 1 <<< n) l

theorem nodup_of_distinctFrom {seen : Nat} {l : List Nat} (h : distinctFrom seen l = true) :
    l.Nodup ∧ ∀ n ∈ l, seen.testBit n = false := by
  induction l generalizing seen with
  | nil => simp
  | cons m l ih =>
      rw [distinctFrom, Bool.and_eq_true, Bool.not_eq_true'] at h
      obtain ⟨hm, hl⟩ := h
      obtain ⟨hnodup, hfree⟩ := ih hl
      have hseen : ∀ n ∈ l, seen.testBit n = false ∧ n ≠ m := by
        intro n hn
        have hn := hfree n hn
        rw [Nat.testBit_or, Bool.or_eq_false_iff, Nat.one_shiftLeft] at hn
        refine ⟨hn.1, ?_⟩
        rintro rfl
        rw [Nat.testBit_two_pow_self] at hn
        cases hn.2
      refine ⟨List.nodup_cons.2 ⟨fun hmem => (hseen m hmem).2 rfl, hnodup⟩, ?_⟩
      exact List.forall_mem_cons.2 ⟨hm, fun n hn => (hseen n hn).1⟩

/-! ### Looking up -/

theorem findDecomposition_eq_none {table : List Decomposition} {n : Nat}
    (h : n ∉ table.map (·.1)) : findDecomposition table n = none := by
  rw [findDecomposition, Option.map_eq_none_iff, List.find?_eq_none]
  intro d hd
  rw [beq_iff_eq]
  rintro rfl
  exact h (List.mem_map_of_mem hd)

theorem findDecomposition_of_mem {table : List Decomposition} (hkeys : (table.map (·.1)).Nodup)
    {d : Decomposition} (hd : d ∈ table) :
    findDecomposition table d.1 = some (d.2.map Char.ofNat) := by
  induction table with
  | nil => exact absurd hd List.not_mem_nil
  | cons e table ih =>
      rw [List.map_cons, List.nodup_cons] at hkeys
      rw [findDecomposition, List.find?_cons]
      rcases List.mem_cons.1 hd with rfl | hd
      · simp
      · have hne : (e.1 == d.1) = false := by
          rw [beq_eq_false_iff_ne]
          intro he
          exact hkeys.1 (he ▸ List.mem_map_of_mem hd)
        rw [hne]
        exact ih hkeys.2 hd

/-! ### The canonical table -/

/-- The code points that are decomposed. -/
def sources : List Nat := canonicalTable.map (·.1)

/-- All that decompositions are made of. -/
def targets : List Nat := canonicalTable.flatMap (·.2)

/-- The letters that Hangul syllables are made of, and the syllables. -/
def hangulRanges : Ranges := [(0x1100, 0x11FF), (0xAC00, 0xD7A3)]

/-- Goes along two tables and looks for each composite of the one at its decomposition in the
other, which must be as `check` says. -/
def pairUp (check : Nat × Nat × Nat → List Nat → Bool) :
    List (Nat × Nat × Nat) → List Decomposition → Bool
  | [], _ => true
  | _ :: _, [] => false
  | r :: rs, d :: ds =>
    if d.1 == r.2.2 then check r d.2 && pairUp check rs ds else pairUp check (r :: rs) ds

theorem exists_of_pairUp {check : Nat × Nat × Nat → List Nat → Bool}
    {rs : List (Nat × Nat × Nat)} {ds : List Decomposition} (h : pairUp check rs ds = true) :
    ∀ r ∈ rs, ∃ d ∈ ds, d.1 = r.2.2 ∧ check r d.2 = true := by
  fun_induction pairUp check rs ds with
  | case1 => simp
  | case2 => cases h
  | case3 r rs d ds he ih =>
      obtain ⟨hcheck, h⟩ := Bool.and_eq_true_iff.1 h
      refine List.forall_mem_cons.2 ⟨⟨d, List.mem_cons_self, by simpa using he, hcheck⟩, ?_⟩
      intro r hr
      obtain ⟨e, he, hr⟩ := ih h r hr
      exact ⟨e, List.mem_cons_of_mem d he, hr⟩
  | case4 r rs d ds _ ih =>
      intro r hr
      obtain ⟨e, he, hr⟩ := ih h r hr
      exact ⟨e, List.mem_cons_of_mem d he, hr⟩

/-- The decompositions of those that begin a composite. -/
def firstDecompositions : List Decomposition :=
  canonicalTable.filter fun d => (Ranges.points (composites.map (·.1))).bits.testBit d.1

/-- Is the decomposition that of the first of a pair, with the second behind? -/
def extendsFirst (r : Nat × Nat × Nat) (s : List Nat) : Bool :=
  s.getLast? == some r.2.1 &&
    (s.dropLast == [r.1] || firstDecompositions.any fun d => d.1 == r.1 && d.2 == s.dropLast)

/-- No code point is decomposed twice, what is decomposed stands beyond the Latin controls, and no
code point of the table lies outside Unicode.  What is decomposed is in no decomposition and no part
of Hangul, and no decomposition has a syllable.  And the composites are in the table, each extending
the first of its pair. -/
theorem canonicalTable_checked : distinctFrom 0 sources = true ∧
    (∀ d ∈ canonicalTable, 0xA0 ≤ d.1 ∧ ∀ n ∈ d.1 :: d.2, n.isValidChar) ∧
    Ranges.Apart (.points sources) (.points targets ++ hangulRanges) ∧
    Ranges.Apart (.points targets) [(0xAC00, 0xD7A3)] ∧
    pairUp extendsFirst composites canonicalTable = true := by
  -- One check, so that the table is gone through in one place.
  decide +kernel

theorem nodup_sources : sources.Nodup := (nodup_of_distinctFrom canonicalTable_checked.1).1

/-- What is decomposed stands beyond the Latin controls, and all are characters. -/
theorem valid_of_mem_canonicalTable :
    ∀ d ∈ canonicalTable, 0xA0 ≤ d.1 ∧ ∀ n ∈ d.1 :: d.2, n.isValidChar :=
  canonicalTable_checked.2.1

theorem sources_apart : Ranges.Apart (.points sources) (.points targets ++ hangulRanges) :=
  canonicalTable_checked.2.2.1

theorem targets_apart : Ranges.Apart (.points targets) [(0xAC00, 0xD7A3)] :=
  canonicalTable_checked.2.2.2.1

theorem composites_pairUp : pairUp extendsFirst composites canonicalTable = true :=
  canonicalTable_checked.2.2.2.2

/-- **Decompositions are given in full**: what stands in one has none itself. -/
theorem not_mem_sources_of_mem {d : Decomposition} (hd : d ∈ canonicalTable) {n : Nat}
    (hn : n ∈ d.2) : n ∉ sources := fun hsource =>
  sources_apart.not_has (Ranges.has_points hsource)
    (Ranges.has_append.2 (.inl (Ranges.has_points (List.mem_flatMap.2 ⟨d, hd, hn⟩))))

/-- No part of a syllable and no syllable is in the table. -/
theorem not_mem_sources_of_hangul {n : Nat} (h : hangulRanges.Has n) :
    n ∉ sources := fun hsource =>
  sources_apart.not_has (Ranges.has_points hsource) (Ranges.has_append.2 (.inr h))

/-! ### The canonical decompositions -/

/-- The decomposition of a character in the table. -/
theorem canonical_of_mem {d : Decomposition} (hd : d ∈ canonicalTable) :
    canonical (Char.ofNat d.1) = d.2.map Char.ofNat := by
  obtain ⟨hle, hvalid⟩ := valid_of_mem_canonicalTable d hd
  rw [canonical, toNat_ofNat_of_valid (hvalid d.1 List.mem_cons_self), if_neg (by omega),
    findDecomposition_of_mem nodup_sources hd]
  rfl

theorem within_iff {base count n : Nat} :
    Hangul.within base count n = true ↔ base ≤ n ∧ n < base + count := by
  simp [Hangul.within]

theorem decompose?_eq_none {c : Char} (h : ¬ Ranges.Has [(0xAC00, 0xD7A3)] c.toNat) :
    Hangul.decompose? c = none := by
  rw [Hangul.decompose?, if_neg]
  intro hwithin
  obtain ⟨hle, hlt⟩ := within_iff.1 hwithin
  exact h ⟨_, List.mem_singleton_self _, hle, Nat.le_of_lt_succ hlt⟩

/-- A character outside the table that is no syllable stands for itself. -/
theorem canonical_eq_self {c : Char} (hsource : c.toNat ∉ sources)
    (hsyllable : ¬ Ranges.Has [(0xAC00, 0xD7A3)] c.toNat) : canonical c = [c] := by
  rw [canonical, findDecomposition_eq_none hsource, decompose?_eq_none hsyllable]
  exact ite_self _

/-- A part of a decomposition in the table stands for itself. -/
theorem canonical_ofNat_of_mem {d : Decomposition} (hd : d ∈ canonicalTable) {n : Nat}
    (hn : n ∈ d.2) : canonical (Char.ofNat n) = [Char.ofNat n] := by
  have hvalid := (valid_of_mem_canonicalTable d hd).2 n (List.mem_cons_of_mem _ hn)
  refine canonical_eq_self ?_ ?_
  · rw [toNat_ofNat_of_valid hvalid]
    exact not_mem_sources_of_mem hd hn
  · rw [toNat_ofNat_of_valid hvalid]
    exact targets_apart.not_has (Ranges.has_points (List.mem_flatMap.2 ⟨d, hd, hn⟩))

/-- What a character is canonically made of: itself, the parts of a syllable, or what the table
says. -/
theorem canonical_cases (c : Char) : canonical c = [c] ∨ Hangul.decompose? c = some (canonical c) ∨
    ∃ d ∈ canonicalTable, d.1 = c.toNat ∧ canonical c = d.2.map Char.ofNat := by
  by_cases hsource : c.toNat ∈ sources
  · obtain ⟨d, hd, he⟩ := List.mem_map.1 hsource
    have hcanonical := canonical_of_mem hd
    rw [he, Char.ofNat_toNat] at hcanonical
    exact .inr (.inr ⟨d, hd, he, hcanonical⟩)
  · rw [canonical, findDecomposition_eq_none hsource]
    split
    · exact .inl rfl
    · cases hhangul : Hangul.decompose? c with
      | none => exact .inl rfl
      | some s => exact .inr (.inl rfl)

/-- **A composite is decomposed** to the decomposition of the first of its pair, with the second
behind. -/
theorem canonical_of_mem_composites {r : Nat × Nat × Nat} (hr : r ∈ composites) :
    canonical (Char.ofNat r.2.2) = canonical (Char.ofNat r.1) ++ [Char.ofNat r.2.1] := by
  obtain ⟨d, hd, he, hcheck⟩ := exists_of_pairUp composites_pairUp r hr
  rw [extendsFirst, Bool.and_eq_true, beq_iff_eq, Bool.or_eq_true, List.any_eq_true] at hcheck
  obtain ⟨hlast, hfirst⟩ := hcheck
  have hparts : d.2 = d.2.dropLast ++ [r.2.1] := (List.dropLast_append_getLast? _ hlast).symm
  have hcanonical : canonical (Char.ofNat r.1) = d.2.dropLast.map Char.ofNat := by
    rcases hfirst with hsingle | ⟨e, hmem, hentry⟩
    · -- The first is itself in a decomposition, so it has none.
      have hmem : r.1 ∈ d.2 := by
        rw [hparts, beq_iff_eq.1 hsingle]
        exact List.mem_append_left _ (List.mem_singleton_self _)
      rw [canonical_ofNat_of_mem hd hmem, beq_iff_eq.1 hsingle]
      rfl
    · rw [Bool.and_eq_true, beq_iff_eq, beq_iff_eq] at hentry
      rw [← hentry.1, ← hentry.2]
      exact canonical_of_mem (List.mem_filter.1 hmem).1
  rw [← he, canonical_of_mem hd, hcanonical, hparts]
  simp

end Permalink.Text
