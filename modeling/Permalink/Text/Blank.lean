import Permalink.Text.Ranges

/-!
# Text — blanks

The white-space characters: the five ASCII controls from tab to carriage return, the four
information separators, the space, the next-line control, and the spaces and the line and
paragraph separators of Unicode.  One class serves for trimming and for word breaks.
-/

namespace Permalink.Text

/-- The white-space characters. -/
def blankRanges : Ranges :=
  [(0x9, 0xD), (0x1C, 0x20), (0x85, 0x85), (0xA0, 0xA0), (0x1680, 0x1680), (0x2000, 0x200A),
   (0x2028, 0x2029), (0x202F, 0x202F), (0x205F, 0x205F), (0x3000, 0x3000)]

/-- Is `c` white space? -/
def isBlank (c : Char) : Bool := blankRanges.holds c

/-- No letter or digit of ASCII is white space. -/
theorem not_isAlphanum_of_isBlank {c : Char} (h : isBlank c = true) : c.isAlphanum = false :=
  Ranges.forall_of_holds (P := fun c => c.isAlphanum = false) (by decide) h

end Permalink.Text
