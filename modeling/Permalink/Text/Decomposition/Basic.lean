/-!
# Text — decompositions

A *decomposition* says of one character which characters it is made of: a letter and its accents,
the letters of a ligature, the plain form of a styled one.  The tables give decompositions in
full, so that no character of a decomposition has one itself.
-/

namespace Permalink.Text

/-- A code point and the code points it is made of. -/
abbrev Decomposition := Nat × List Nat

/-- The decomposition of `n` in a table, as characters. -/
def findDecomposition (table : List Decomposition) (n : Nat) : Option (List Char) :=
  (table.find? fun d => d.1 == n).map fun d => d.2.map Char.ofNat

theorem mem_of_findDecomposition {table : List Decomposition} {n : Nat} {s : List Char}
    (h : findDecomposition table n = some s) : ∃ d ∈ table, d.1 = n ∧ d.2.map Char.ofNat = s := by
  obtain ⟨d, hd, rfl⟩ := Option.map_eq_some_iff.1 h
  exact ⟨d, List.mem_of_find?_eq_some hd, by simpa using List.find?_some hd, rfl⟩

end Permalink.Text
