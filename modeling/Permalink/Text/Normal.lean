import Permalink.Text.Combining
import Permalink.Text.Composition
import Permalink.Text.Decomposition

/-!
# Text — normal forms

A text is *decomposed* by taking every character apart and sorting each run of marks; the
canonical decomposition gives the form `decomposed`, the compatibility decomposition the form
`compatibilityDecomposed`.  It is *composed* by decomposing it and then letting every starter
absorb, from left to right, the characters that follow it and compose with it, as long as no
mark of the same or a higher class, nor another starter, stands between the two.
-/

namespace Permalink.Text

/-- The canonically decomposed form. -/
def decomposed (s : List Char) : List Char := sortMarks (s.flatMap canonical)

/-- The form without style. -/
def compatibilityDecomposed (s : List Char) : List Char := sortMarks (s.flatMap compatible)

/-- Compose `base` with the text after it; `marks`, the last of which has class `last`, are the
characters between the two that stay. -/
def absorb (base : Char) (marks : List Char) (last : Nat) : List Char → List Char
  | [] => base :: marks
  | c :: cs =>
    let k := combiningClass c
    match if marks.isEmpty || last < k then composePair? base c else none with
    | some d => absorb d marks last cs
    | none => if k = 0 then base :: (marks ++ absorb c [] 0 cs) else absorb base (marks ++ [c]) k cs

/-- Let every starter of a decomposed text absorb what composes with it. -/
def compose : List Char → List Char
  | [] => []
  | c :: cs => absorb c [] 0 cs

/-- The composed form. -/
def composed (s : List Char) : List Char := compose (decomposed s)

end Permalink.Text
