import Permalink.Text.Basic
import Permalink.Text.Normal

/-!
# Slug — folding to ASCII

A text is folded to ASCII in three steps: a few Latin letters that are no accented form of another
are spelled out, every character is taken apart and gives up its style, and what is not ASCII then
is dropped.  So accents go, and with them all letters of other scripts.
-/

namespace Permalink.Fold

/-- The letters that are spelled out. -/
def spellings : List (Char × Text) :=
  [('ß', ['s', 's']), ('æ', ['a', 'e']), ('Æ', ['A', 'E']), ('ø', ['o']), ('Ø', ['O']),
    ('œ', ['o', 'e']), ('Œ', ['O', 'E']), ('đ', ['d']), ('Đ', ['D']), ('ł', ['l']), ('Ł', ['L']),
    ('þ', ['t', 'h']), ('Þ', ['T', 'H']), ('ð', ['d']), ('Ð', ['D'])]

/-- The spelling of a character; most are their own. -/
def spell (c : Char) : Text := (spellings.lookup c).getD [c]

/-- Is `c` an ASCII character? -/
def isAscii (c : Char) : Bool := c.toNat < 0x80

/-- The text in ASCII. -/
def toAscii (t : Text) : Text :=
  (Text.compatibilityDecomposed (t.flatMap spell)).filter isAscii

theorem isAscii_of_mem_toAscii {t : Text} {c : Char} (h : c ∈ toAscii t) : isAscii c = true :=
  (List.mem_filter.1 h).2

end Permalink.Fold
