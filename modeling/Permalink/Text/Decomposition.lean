import Permalink.Text.Decomposition.Accented
import Permalink.Text.Decomposition.Ideographs
import Permalink.Text.Decomposition.Letterlike
import Permalink.Text.Decomposition.Mathematical
import Permalink.Text.Decomposition.Presentation
import Permalink.Text.Decomposition.Squared
import Permalink.Text.Decomposition.Variant
import Permalink.Text.Hangul

/-!
# Text — taking characters apart

The *canonical* decomposition of a character is another writing of the same text; the
*compatibility* decomposition also gives up the style of a character (raised, circled, of another
width).  Characters without a decomposition stand for themselves, and so does every character
below U+00A0.
-/

namespace Permalink.Text

/-- The canonical decompositions. -/
def canonicalTable : List Decomposition :=
  latinLetters ++ greekCyrillicLetters ++ southernLetters ++ latinAdditionalLetters ++
    greekExtendedLetters ++ symbols ++ kana ++ hebrewForms ++ supplementaryLetters ++
    compatibilityIdeographs ++ supplementaryIdeographs

/-- The compatibility decompositions that are not canonical. -/
def compatibilityTable : List Decomposition :=
  latinVariants ++ raisedLetters ++ letterlike ++ enclosed ++ radicals ++ kanaVariants ++
    squared ++ raisedMore ++ ligatures ++ arabicFormsA ++ arabicFormsB ++ widthForms ++
    supplementaryRaised ++ mathLatin ++ mathGreek ++ mathArabic ++ enclosedSupplement

/-- The characters that `c` is canonically made of. -/
def canonical (c : Char) : List Char :=
  if c.toNat < 0xA0 then [c]
  else (findDecomposition canonicalTable c.toNat <|> Hangul.decompose? c).getD [c]

/-- The characters that `c` is made of when style is given up. -/
def compatible (c : Char) : List Char :=
  if c.toNat < 0xA0 then [c]
  else (findDecomposition compatibilityTable c.toNat).getD (canonical c)

theorem canonical_of_lt {c : Char} (h : c.toNat < 0xA0) : canonical c = [c] := by
  simp [canonical, h]

theorem compatible_of_lt {c : Char} (h : c.toNat < 0xA0) : compatible c = [c] := by
  simp [compatible, h]

end Permalink.Text
