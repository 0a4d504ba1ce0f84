import Permalink.Text.Basic
import Permalink.Text.Digit

/-!
# Slug — camel case

Words written together with capitals at their starts are taken apart in two passes.  The first
splits an acronym from the word behind it: in a run of two or more capitals that a small letter or
digit follows, the last capital starts the word (`XMLParser`).  The second splits wherever a
capital follows a small letter or digit (`fooBar`).  Both only insert blanks.

Capitals and small letters are those of ASCII; digits are the decimal digits of every script.
-/

namespace Permalink.Camel

/-- A letter or digit that can precede a new word: small, or a decimal digit. -/
def isSmall (c : Char) : Bool := c.isLower || Text.isDecimal c

/-- A run of capitals with a blank before its last, if it has another. -/
def splitRun (run : Text) : Text :=
  if run.length < 2 then run
  else run.dropLast ++ ' ' :: run.drop (run.length - 1)

/-- The first pass on a text that the capitals `run` precede. -/
def splitAcronymsFrom (run : Text) : Text → Text
  | [] => run
  | c :: t =>
    if c.isUpper then splitAcronymsFrom (run ++ [c]) t
    else (if isSmall c then splitRun run else run) ++ c :: splitAcronymsFrom [] t

/-- The text with a blank between every acronym and the word behind it. -/
def splitAcronyms (t : Text) : Text := splitAcronymsFrom [] t

/-- The text with a blank wherever a capital follows a small letter or digit. -/
def splitHumps : Text → Text
  | a :: b :: t =>
    if isSmall a && b.isUpper then a :: ' ' :: b :: splitHumps t
    else a :: splitHumps (b :: t)
  | t => t

/-- The words of the text taken apart. -/
def split (t : Text) : Text := splitHumps (splitAcronyms t)

theorem split_nil : split [] = [] := rfl

example : split "XMLParser".toList = "XML Parser".toList := by decide
example : split "fooBar2Baz".toList = "foo Bar2 Baz".toList := by decide

end Permalink.Camel
