import Permalink.Proofs.Text.Tables

/-!
# Text — the two normal forms

Composed and decomposed text differ only in how letters and their marks are written.

* What stands in a decomposition has none itself (`canonical_of_mem_canonical`), and a composite is
  decomposed to the decomposition of the first of its pair with the second behind
  (`canonical_of_composePair?`).
* **Composing is undone by taking apart** (`flatMap_composed`): seen through a map that does not
  tell marks apart, the decomposed form of a text is the decompositions of its composed form, one
  after the other.  Composing moves a mark only past other marks, so such a map does not see it.
* A character of composed text stands for itself, or is made of more than one
  (`isWhole_of_mem_composed`); a letter that is another letter alone is none.
-/

namespace Permalink.Text

/-! ### Syllables -/

section Hangul

open Hangul

theorem canonical_syllable {i : Nat} (hi : i < 11172) :
    canonical (Char.ofNat (syllableBase + i)) =
      if i % 28 = 0 then [Char.ofNat (leadBase + i / 588), Char.ofNat (vowelBase + i % 588 / 28)]
      else [Char.ofNat (leadBase + i / 588), Char.ofNat (vowelBase + i % 588 / 28),
        Char.ofNat (trailBase + i % 28)] := by
  have hbase : syllableBase = 0xAC00 := rfl
  have htoNat : (Char.ofNat (syllableBase + i)).toNat = syllableBase + i :=
    toNat_ofNat_of_valid (.inl (by omega))
  have hsource : (Char.ofNat (syllableBase + i)).toNat ∉ sources := by
    rw [htoNat]
    exact not_mem_sources_of_hangul ⟨(0xAC00, 0xD7A3), by simp [hangulRanges], by simp [hbase],
      by simp only [hbase]; omega⟩
  have hwithin : within syllableBase 11172 (syllableBase + i) = true :=
    within_iff.2 ⟨Nat.le_add_right _ _, Nat.add_lt_add_left hi _⟩
  rw [canonical, findDecomposition_eq_none hsource, htoNat, if_neg (by omega), decompose?, htoNat,
    if_pos hwithin, Nat.add_sub_cancel_left]
  rfl

/-- The parts of a syllable stand for themselves. -/
theorem canonical_of_jamo {c : Char} (hle : 0x1100 ≤ c.toNat) (hlt : c.toNat ≤ 0x11FF) :
    canonical c = [c] := by
  refine canonical_eq_self (not_mem_sources_of_hangul ?_) ?_
  · exact ⟨(0x1100, 0x11FF), by simp [hangulRanges], hle, hlt⟩
  · rintro ⟨p, hp, hsyllable, -⟩
    rw [List.mem_singleton.1 hp] at hsyllable
    have hsyllable : 0xAC00 ≤ c.toNat := hsyllable
    omega

/-- Every part of a syllable is one of its kinds of letters. -/
theorem jamo_of_mem_decompose? {c a : Char} {s : List Char} (h : decompose? c = some s)
    (ha : a ∈ s) : 0x1100 ≤ a.toNat ∧ a.toNat ≤ 0x11FF := by
  have made : ∀ n, 0x1100 ≤ n → n ≤ 0x11FF → a = Char.ofNat n →
      0x1100 ≤ a.toNat ∧ a.toNat ≤ 0x11FF := by
    rintro n hle hle' rfl
    rw [toNat_ofNat_of_valid (.inl (by omega))]
    exact ⟨hle, hle'⟩
  have hlead : leadBase = 0x1100 := rfl
  have hvowel : vowelBase = 0x1161 := rfl
  have htrail : trailBase = 0x11A7 := rfl
  rw [decompose?] at h
  split at h
  · next hwithin =>
    have hlt : c.toNat - syllableBase < 11172 := by
      have := within_iff.1 hwithin
      omega
    obtain rfl := Option.some.inj h
    have hmem : a = Char.ofNat (leadBase + (c.toNat - syllableBase) / 588) ∨
        a = Char.ofNat (vowelBase + (c.toNat - syllableBase) % 588 / 28) ∨
        a = Char.ofNat (trailBase + (c.toNat - syllableBase) % 28) := by
      split at ha
      · simpa [or_assoc] using (by simpa using ha : _ ∨ _).imp_right Or.inl
      · simpa using ha
    rcases hmem with ha | ha | ha
    · exact made _ (by omega) (by omega) ha
    · exact made _ (by omega) (by omega) ha
    · exact made _ (by omega) (by omega) ha
  · cases h

theorem canonical_of_compose? {a b d : Char} (h : compose? a b = some d) :
    canonical d = canonical a ++ [b] := by
  have hlead : leadBase = 0x1100 := rfl
  have hvowel : vowelBase = 0x1161 := rfl
  have htrail : trailBase = 0x11A7 := rfl
  rw [compose?] at h
  split at h
  · -- A consonant and a vowel.
    next hpair =>
    obtain ⟨ha, hb⟩ := Bool.and_eq_true_iff.1 hpair
    obtain ⟨hale, halt⟩ := within_iff.1 ha
    obtain ⟨hble, hblt⟩ := within_iff.1 hb
    obtain ⟨l, hl⟩ := Nat.exists_eq_add_of_le hale
    obtain ⟨v, hv⟩ := Nat.exists_eq_add_of_le hble
    obtain rfl := Option.some.inj h
    have hfirst : canonical a = [a] := canonical_of_jamo (by omega) (by omega)
    rw [hfirst, hl, hv, Nat.add_sub_cancel_left,
      Nat.add_sub_cancel_left, canonical_syllable (by omega), if_pos (by omega),
      show (l * 21 + v) * 28 / 588 = l by omega, show (l * 21 + v) * 28 % 588 / 28 = v by omega,
      ← hl, ← hv, Char.ofNat_toNat, Char.ofNat_toNat]
    rfl
  · split at h
    · -- An open syllable and a consonant.
      next hpair =>
      simp only [Bool.and_eq_true, beq_iff_eq] at hpair
      obtain ⟨⟨ha, hopen⟩, hb⟩ := hpair
      obtain ⟨hale, halt⟩ := within_iff.1 ha
      obtain ⟨hble, hblt⟩ := within_iff.1 hb
      obtain ⟨i, hi⟩ := Nat.exists_eq_add_of_le hale
      obtain ⟨t, ht⟩ := Nat.exists_eq_add_of_le (Nat.le_of_succ_le hble)
      obtain rfl := Option.some.inj h
      have hfirst : canonical a = canonical (Char.ofNat (syllableBase + i)) := by
        rw [← hi, Char.ofNat_toNat]
      rw [hi, Nat.add_sub_cancel_left] at hopen
      rw [hfirst, hi, ht, Nat.add_sub_cancel_left, Nat.add_assoc, canonical_syllable (by omega),
        canonical_syllable (by omega), if_pos hopen, if_neg (by omega),
        show (i + t) / 588 = i / 588 by omega, show (i + t) % 588 / 28 = i % 588 / 28 by omega,
        show (i + t) % 28 = t by omega, ← ht, Char.ofNat_toNat]
      rfl
    · cases h

end Hangul

/-! ### What composing takes and gives -/

/-- **A part of a decomposition** stands for itself. -/
theorem canonical_of_mem_canonical {c a : Char} (h : a ∈ canonical c) : canonical a = [a] := by
  rcases canonical_cases c with hself | hhangul | ⟨d, hd, -, hcanonical⟩
  · rw [hself, List.mem_singleton] at h
    exact h ▸ hself
  · obtain ⟨hle, hlt⟩ := jamo_of_mem_decompose? hhangul h
    exact canonical_of_jamo hle hlt
  · rw [hcanonical] at h
    obtain ⟨n, hn, rfl⟩ := List.mem_map.1 h
    exact canonical_ofNat_of_mem hd hn

/-- A character of decomposed text stands for itself. -/
theorem canonical_of_mem_decomposed {t : List Char} {a : Char} (h : a ∈ decomposed t) :
    canonical a = [a] := by
  obtain ⟨c, -, hc⟩ := List.mem_flatMap.1 ((sortMarks_perm _).mem_iff.1 h)
  exact canonical_of_mem_canonical hc

/-- **A composite** is made of what the first of its pair is made of, and the second. -/
theorem canonical_of_composePair? {a b d : Char} (h : composePair? a b = some d) :
    canonical d = canonical a ++ [b] := by
  rw [composePair?] at h
  split at h
  · cases h
  · split at h
    · next r hr =>
      obtain rfl := Option.some.inj h
      have hpair := List.find?_some hr
      simp only [Bool.and_eq_true, beq_iff_eq] at hpair
      rw [canonical_of_mem_composites (List.mem_of_find?_eq_some hr), hpair.1, hpair.2,
        Char.ofNat_toNat, Char.ofNat_toNat]
    · exact canonical_of_compose? h

section Compose

variable {f : Char → List Char} {x : List Char}

/-- A map that does not tell marks apart does not see that a mark is put before others. -/
theorem flatMap_marks_comm (hf : ∀ a, combiningClass a ≠ 0 → f a = x) {marks : List Char}
    (hmarks : ∀ m ∈ marks, combiningClass m ≠ 0) : x ++ marks.flatMap f = marks.flatMap f ++ x := by
  induction marks with
  | nil => simp
  | cons m marks ih =>
      obtain ⟨hm, hrest⟩ := List.forall_mem_cons.1 hmarks
      rw [List.flatMap_cons, hf m hm, List.append_assoc, ← ih hrest]

/-- What a starter absorbs is still there when it is taken apart. -/
theorem flatMap_absorb (hf : ∀ a, combiningClass a ≠ 0 → f a = x) {base : Char}
    {marks s : List Char} {last : Nat} (hmarks : ∀ m ∈ marks, combiningClass m ≠ 0)
    (hself : ∀ a ∈ marks ++ s, canonical a = [a]) :
    (absorb base marks last s).flatMap (fun c => (canonical c).flatMap f) =
      (canonical base).flatMap f ++ (marks ++ s).flatMap f := by
  have hflat : ∀ {t : List Char}, (∀ a ∈ t, canonical a = [a]) →
      t.flatMap (fun c => (canonical c).flatMap f) = t.flatMap f := fun h =>
    List.flatMap_congr fun a ha => by rw [h a ha, List.flatMap_singleton]
  induction s generalizing base marks last with
  | nil =>
      rw [absorb, List.flatMap_cons, List.append_nil, hflat]
      exact fun a ha => hself a (List.mem_append_left _ ha)
  | cons c s ih =>
      obtain ⟨hm, hcs⟩ := List.forall_mem_append.1 hself
      obtain ⟨hc, hs⟩ := List.forall_mem_cons.1 hcs
      rw [absorb]
      split
      · next d hd =>
        split at hd
        · next hfree =>
          rw [ih hmarks (List.forall_mem_append.2 ⟨hm, hs⟩), canonical_of_composePair? hd]
          simp only [List.flatMap_append, List.flatMap_cons, List.flatMap_nil, List.append_nil,
            List.append_assoc]
          -- Either nothing stands between, or a mark is moved past marks.
          by_cases hempty : marks = []
          · simp [hempty]
          · have hmark : combiningClass c ≠ 0 := by
              simp [hempty] at hfree
              omega
            rw [← List.append_assoc (f c), hf c hmark, flatMap_marks_comm hf hmarks,
              List.append_assoc]
        · cases hd
      · split
        · rw [List.flatMap_cons, List.flatMap_append, hflat hm, ih (by simp) (by simpa using hs)]
          simp [hc]
        · next hk =>
          have hmarks' : ∀ m ∈ marks ++ [c], combiningClass m ≠ 0 := by
            simpa [or_imp, forall_and] using ⟨hmarks, hk⟩
          have hself' : ∀ a ∈ marks ++ [c] ++ s, canonical a = [a] := by
            simpa using hself
          rw [ih hmarks' hself']
          simp

/-- **Composing is undone by taking apart.** -/
theorem flatMap_composed (hf : ∀ a, combiningClass a ≠ 0 → f a = x) (t : List Char) :
    (composed t).flatMap (fun c => (canonical c).flatMap f) = (decomposed t).flatMap f := by
  have hself : ∀ a ∈ decomposed t, canonical a = [a] := fun a ha => canonical_of_mem_decomposed ha
  rw [composed]
  cases h : decomposed t with
  | nil => rfl
  | cons c s =>
      rw [h] at hself
      obtain ⟨hc, hs⟩ := List.forall_mem_cons.1 hself
      rw [compose, flatMap_absorb hf (by simp) (by simpa using hs), hc, List.flatMap_cons]
      simp

end Compose

/-- Does the character stand for itself, or is it made of more than one? -/
def IsWhole (c : Char) : Prop := canonical c = [c] ∨ 2 ≤ (canonical c).length

theorem isWhole_of_composePair? {a b d : Char} (ha : IsWhole a) (h : composePair? a b = some d) :
    IsWhole d := by
  refine .inr ?_
  rw [canonical_of_composePair? h, List.length_append, List.length_singleton]
  rcases ha with ha | ha
  · simp [ha]
  · omega

theorem isWhole_of_mem_absorb {base a : Char} {marks s : List Char} {last : Nat}
    (hbase : IsWhole base) (hrest : ∀ c ∈ marks ++ s, IsWhole c)
    (h : a ∈ absorb base marks last s) : IsWhole a := by
  induction s generalizing base marks last with
  | nil =>
      rw [List.append_nil] at hrest
      exact List.forall_mem_cons.2 ⟨hbase, hrest⟩ a h
  | cons c s ih =>
      obtain ⟨hmarks, hcs⟩ := List.forall_mem_append.1 hrest
      obtain ⟨hc, hs⟩ := List.forall_mem_cons.1 hcs
      rw [absorb] at h
      split at h
      · next d hd =>
        split at hd
        · exact ih (isWhole_of_composePair? hbase hd) (List.forall_mem_append.2 ⟨hmarks, hs⟩) h
        · cases hd
      · split at h
        · rcases List.mem_cons.1 h with rfl | h
          · exact hbase
          rcases List.mem_append.1 h with h | h
          · exact hmarks a h
          · exact ih hc (by simpa using hs) h
        · exact ih hbase (by simpa using hrest) h

/-- **A character of composed text** stands for itself, or is made of more than one. -/
theorem isWhole_of_mem_composed {t : List Char} {a : Char} (h : a ∈ composed t) : IsWhole a := by
  have hself : ∀ c ∈ decomposed t, IsWhole c := fun c hc => .inl (canonical_of_mem_decomposed hc)
  rw [composed] at h
  cases hd : decomposed t with
  | nil =>
      rw [hd] at h
      exact absurd h List.not_mem_nil
  | cons c s =>
      rw [hd] at h hself
      obtain ⟨hc, hs⟩ := List.forall_mem_cons.1 hself
      exact isWhole_of_mem_absorb hc (by simpa using hs) h

end Permalink.Text
