/-!
# Text — ranges of characters

A class of characters is given by ranges of code points, both ends included.  A character is in
the class when some range holds it.
-/

namespace Permalink.Text

/-- A set of code points, as ranges with both ends included. -/
abbrev Ranges := List (Nat × Nat)

/-- Is `c` in one of the ranges? -/
def Ranges.holds (r : Ranges) (c : Char) : Bool :=
  r.any fun p => p.1 ≤ c.toNat && c.toNat ≤ p.2

theorem Ranges.holds_iff {r : Ranges} {c : Char} :
    r.holds c = true ↔ ∃ p ∈ r, p.1 ≤ c.toNat ∧ c.toNat ≤ p.2 := by
  simp [Ranges.holds]

/-- What holds of every code point in the ranges holds of every character in them. -/
theorem Ranges.forall_of_holds {r : Ranges} {P : Char → Prop}
    (h : ∀ p ∈ r, ∀ n ∈ List.range' p.1 (p.2 + 1 - p.1), P (Char.ofNat n)) {c : Char}
    (hc : r.holds c = true) : P c := by
  obtain ⟨p, hp, hle, hle'⟩ := Ranges.holds_iff.1 hc
  have hn : c.toNat ∈ List.range' p.1 (p.2 + 1 - p.1) := by
    rw [List.mem_range'_1]
    omega
  exact Char.ofNat_toNat c ▸ h p hp c.toNat hn

end Permalink.Text
