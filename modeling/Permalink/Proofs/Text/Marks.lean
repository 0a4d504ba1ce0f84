import Permalink.Proofs.Text.Normal
import Permalink.Text.Alphanumeric
import Permalink.Text.Blank
import Permalink.Text.Digit

/-!
# Text — characters made of a base and marks

A character of composed text stands for itself, is a Hangul syllable, or is made of a base and
marks behind it (`canonical_of_isWhole`).  The base is a word character just if the whole is, and
no mark is one (`Combined`).  Neither base nor marks are blanks, decimal digits, apostrophes or
ampersands.

All of it is read off the tables, in one pass each.
-/

namespace Permalink.Text

/-! ### The classes -/

/-- The word characters of ASCII. -/
def asciiWords : Ranges := [(0x30, 0x39), (0x41, 0x5A), (0x5F, 0x5F), (0x61, 0x7A)]

/-- The word characters. -/
def wordRanges : Ranges := asciiWords ++ alnumRanges

/-- The decimal digits of all scripts. -/
def decimalRanges : Ranges := zeroDigits.map fun z => (z, z + 9)

/-- The characters with a combining class, and all that stand behind the first in a
decomposition. -/
def markRanges : Ranges :=
  combiningRuns.map (fun r => (r.1, r.2.1)) ++ .points (canonicalTable.flatMap (·.2.tail))

/-- The decompositions into more than one character. -/
def separable : List Decomposition := canonicalTable.filter fun d => 2 ≤ d.2.length

/-- The ranges of alphanumeric characters are those beyond ASCII, and they hold Hangul.  A mark is
no word character, blank or apostrophe.  A decomposition begins with a word character just if the
whole is one; what is made of more than one character is no blank, decimal digit, apostrophe or
ampersand, nor is the first of these. -/
theorem classes_checked : (∀ p ∈ alnumRanges, 0x80 ≤ p.1) ∧
    (∀ p ∈ hangulRanges, ∃ q ∈ wordRanges, q.1 ≤ p.1 ∧ p.2 ≤ q.2) ∧
    Ranges.Apart markRanges (wordRanges ++ (blankRanges ++ [(0, 0x2FF), (0x2019, 0x2019)])) ∧
    (∀ d ∈ canonicalTable,
      wordRanges.bits.testBit d.1 = wordRanges.bits.testBit (d.2.headD 0)) ∧
    Ranges.Apart (.points (separable.flatMap fun d => [d.1, d.2.headD 0]))
      (blankRanges ++ (decimalRanges ++ .points [0x26, 0x27, 0x2019])) := by
  -- One check, so that the tables are gone through in one place.
  decide +kernel

theorem alnumRanges_beyond_ascii : ∀ p ∈ alnumRanges, 0x80 ≤ p.1 := classes_checked.1

theorem hangul_words : ∀ p ∈ hangulRanges, ∃ q ∈ wordRanges, q.1 ≤ p.1 ∧ p.2 ≤ q.2 :=
  classes_checked.2.1

theorem marks_apart : Ranges.Apart markRanges
    (wordRanges ++ (blankRanges ++ [(0, 0x2FF), (0x2019, 0x2019)])) :=
  classes_checked.2.2.1

theorem words_first : ∀ d ∈ canonicalTable,
    wordRanges.bits.testBit d.1 = wordRanges.bits.testBit (d.2.headD 0) :=
  classes_checked.2.2.2.1

theorem separable_apart : Ranges.Apart (.points (separable.flatMap fun d => [d.1, d.2.headD 0]))
    (blankRanges ++ (decimalRanges ++ .points [0x26, 0x27, 0x2019])) :=
  classes_checked.2.2.2.2

/-! ### Word characters and digits -/

theorem isWord_of_ascii : ∀ n < 0x80, isWord (Char.ofNat n) = asciiWords.bits.testBit n := by
  decide

theorem asciiWords_ascii : ∀ p ∈ asciiWords, p.2 < 0x80 := by decide

theorem isWord_iff {c : Char} : isWord c = true ↔ wordRanges.Has c.toNat := by
  rw [wordRanges, Ranges.has_append]
  by_cases hascii : c.toNat < 0x80
  · have hbeyond : ¬ alnumRanges.Has c.toNat := by
      rintro ⟨p, hp, hle, -⟩
      have := alnumRanges_beyond_ascii p hp
      omega
    have hword := isWord_of_ascii c.toNat hascii
    rw [Char.ofNat_toNat] at hword
    rw [hword, Ranges.testBit_bits, or_iff_left hbeyond]
  · have hwithin : ¬ asciiWords.Has c.toNat := by
      rintro ⟨p, hp, -, hle⟩
      have := asciiWords_ascii p hp
      omega
    have hlow : (c == '_') = false := by
      rw [beq_eq_false_iff_ne]
      rintro rfl
      exact hascii (by decide)
    rw [isWord, isAlnum, if_neg hascii, hlow, Bool.or_false, ← Ranges.has_toNat,
      or_iff_right hwithin]

theorem isDecimal_iff {c : Char} : isDecimal c = true ↔ decimalRanges.Has c.toNat := by
  simp [isDecimal, digitValue?, decimalRanges, Ranges.Has, List.find?_isSome]

/-! ### Marks -/

/-- A character that can only stand behind another. -/
structure Attached (a : Char) : Prop where
  not_isWord : isWord a = false
  not_isBlank : isBlank a = false
  ne_quote : a ≠ '’'
  beyond : 0x300 ≤ a.toNat

theorem attached_of_has {a : Char} (h : markRanges.Has a.toNat) : Attached a := by
  have hnot := marks_apart.not_has h
  simp only [Ranges.has_append, not_or] at hnot
  obtain ⟨hword, hblank, hother⟩ := hnot
  refine ⟨?_, ?_, ?_, ?_⟩
  · rwa [Bool.eq_false_iff, ne_eq, isWord_iff]
  · rwa [Bool.eq_false_iff, ne_eq, isBlank, ← Ranges.has_toNat]
  · rintro rfl
    exact hother ⟨(0x2019, 0x2019), by decide, by decide, by decide⟩
  · by_contra hlt
    exact hother ⟨(0, 0x2FF), by decide, Nat.zero_le _, by omega⟩

theorem attached_of_combiningClass {a : Char} (h : combiningClass a ≠ 0) : Attached a := by
  refine attached_of_has (Ranges.has_append.2 (.inl ?_))
  rw [combiningClass] at h
  split at h
  · exact absurd rfl h
  · cases hfind : combiningRuns.find? fun r => r.1 ≤ a.toNat && a.toNat ≤ r.2.1 with
    | none =>
        rw [hfind] at h
        exact absurd rfl h
    | some r =>
        have hr := List.find?_some hfind
        rw [Bool.and_eq_true, decide_eq_true_eq, decide_eq_true_eq] at hr
        exact ⟨(r.1, r.2.1), List.mem_map.2 ⟨r, List.mem_of_find?_eq_some hfind, rfl⟩, hr⟩

/-! ### A base and its marks -/

/-- What a decomposition begins with is a word character just if the whole is. -/
theorem isWord_first {d : Decomposition} (hd : d ∈ canonicalTable) {b : Nat} {ms : List Nat}
    (hparts : d.2 = b :: ms) : isWord (Char.ofNat b) = isWord (Char.ofNat d.1) := by
  have hvalid := (valid_of_mem_canonicalTable d hd).2
  have hword := words_first d hd
  rw [hparts, List.headD_cons] at hword
  rw [Bool.eq_iff_iff, isWord_iff, isWord_iff,
    toNat_ofNat_of_valid (hvalid d.1 List.mem_cons_self),
    toNat_ofNat_of_valid (hvalid b (by simp [hparts])), ← Ranges.testBit_bits,
    ← Ranges.testBit_bits, hword]

/-- A character that is no blank, digit, apostrophe or ampersand. -/
structure Clear (a : Char) : Prop where
  not_isBlank : isBlank a = false
  not_isDecimal : isDecimal a = false
  ne : a ≠ '&' ∧ a ≠ '\'' ∧ a ≠ '’'

/-- The character `c` is made of `base` and `marks`. -/
structure Combined (c base : Char) (marks : List Char) : Prop where
  canonical_eq : canonical c = base :: marks
  marks_ne_nil : marks ≠ []
  isWord_base : isWord base = isWord c
  attached : ∀ m ∈ marks, Attached m
  clear : Clear c
  clear_base : Clear base
  canonical_base : canonical base = [base]
  beyond : 0xA0 ≤ c.toNat
  source : ∃ d ∈ separable, d.1 = c.toNat ∧ d.2.headD 0 = base.toNat

theorem clear_of_mem {d : Decomposition} (hd : d ∈ separable) {n : Nat}
    (hn : n ∈ [d.1, d.2.headD 0]) (hvalid : n.isValidChar) : Clear (Char.ofNat n) := by
  have hnot := separable_apart.not_has
    (Ranges.has_points (List.mem_flatMap.2 ⟨d, hd, hn⟩))
  rw [← toNat_ofNat_of_valid hvalid] at hnot
  simp only [Ranges.has_append, not_or] at hnot
  obtain ⟨hblank, hdecimal, hother⟩ := hnot
  refine ⟨?_, ?_, ?_, ?_, ?_⟩
  · rwa [Bool.eq_false_iff, ne_eq, isBlank, ← Ranges.has_toNat]
  · rwa [Bool.eq_false_iff, ne_eq, isDecimal_iff]
  all_goals
    intro he
    rw [he] at hother
    exact hother (Ranges.has_points (by decide))

theorem combined_of_mem {d : Decomposition} (hd : d ∈ canonicalTable) {b m : Nat} {ms : List Nat}
    (hparts : d.2 = b :: m :: ms) :
    Combined (Char.ofNat d.1) (Char.ofNat b) ((m :: ms).map Char.ofNat) := by
  have hseparable : d ∈ separable := List.mem_filter.2 ⟨hd, by simp [hparts]⟩
  have hvalid := (valid_of_mem_canonicalTable d hd).2
  have hown : d.1.isValidChar := hvalid d.1 List.mem_cons_self
  have hbase : b.isValidChar := hvalid b (by simp [hparts])
  have hfirst : d.2.headD 0 = b := by rw [hparts]; rfl
  refine ⟨by rw [canonical_of_mem hd, hparts]; rfl, by simp, isWord_first hd hparts, ?_, ?_, ?_, ?_,
    ?_, ?_⟩
  · intro a ha
    obtain ⟨n, hn, rfl⟩ := List.mem_map.1 ha
    refine attached_of_has (Ranges.has_append.2 (.inr ?_))
    rw [toNat_ofNat_of_valid (hvalid n (by simp [hparts, List.mem_cons.1 hn]))]
    exact Ranges.has_points (List.mem_flatMap.2 ⟨d, hd, by rw [hparts]; exact hn⟩)
  · exact clear_of_mem hseparable (by simp) hown
  · exact clear_of_mem hseparable (by rw [hfirst]; simp) hbase
  · exact canonical_ofNat_of_mem hd (by simp [hparts])
  · rw [toNat_ofNat_of_valid hown]
    exact (valid_of_mem_canonicalTable d hd).1
  · exact ⟨d, hseparable, (toNat_ofNat_of_valid hown).symm,
      hfirst.trans (toNat_ofNat_of_valid hbase).symm⟩

/-! ### Whole characters -/

theorem isWord_of_hangul {a : Char} (h : hangulRanges.Has a.toNat) : isWord a = true := by
  obtain ⟨p, hp, hle, hle'⟩ := h
  obtain ⟨q, hq, hqp, hpq⟩ := hangul_words p hp
  exact isWord_iff.2 ⟨q, hq, Nat.le_trans hqp hle, Nat.le_trans hle' hpq⟩

theorem hangul_of_decompose? {c : Char} {s : List Char} (h : Hangul.decompose? c = some s) :
    ∀ a ∈ c :: s, hangulRanges.Has a.toNat := by
  refine List.forall_mem_cons.2 ⟨?_, fun a ha => ?_⟩
  · by_contra hnot
    have hnone : Hangul.decompose? c = none := decompose?_eq_none fun hsyllable => hnot <| by
      obtain ⟨p, hp, hle⟩ := hsyllable
      exact ⟨p, List.mem_cons_of_mem _ hp, hle⟩
    rw [hnone] at h
    cases h
  · exact ⟨(0x1100, 0x11FF), List.mem_cons_self, jamo_of_mem_decompose? h ha⟩

/-- **A whole character** stands for itself, is a syllable, or is a base with marks. -/
theorem canonical_of_isWhole {c : Char} (h : IsWhole c) : canonical c = [c] ∨
    (canonical c ≠ [] ∧ ∀ a ∈ c :: canonical c, hangulRanges.Has a.toNat) ∨
    ∃ base marks, Combined c base marks := by
  rcases canonical_cases c with hself | hhangul | ⟨d, hd, hcode, hparts⟩
  · exact .inl hself
  · refine .inr (.inl ⟨fun hnil => ?_, hangul_of_decompose? hhangul⟩)
    rcases h with hself | hlength
    · rw [hself] at hnil
      cases hnil
    · simp [hnil] at hlength
  · rcases h with hself | hlength
    · exact .inl hself
    · rw [hparts, List.length_map] at hlength
      match hd2 : d.2, hlength with
      | b :: m :: ms, _ =>
        have hcombined := combined_of_mem hd hd2
        rw [hcode, Char.ofNat_toNat] at hcombined
        exact .inr (.inr ⟨_, _, hcombined⟩)

end Permalink.Text
