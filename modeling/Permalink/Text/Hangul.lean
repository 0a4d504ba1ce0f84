/-!
# Text — Hangul syllables

Hangul syllables are not in any table: the syllable block lists, for each leading consonant and
each vowel, the open syllable and then its 27 closed ones.  A syllable is taken apart by division
and put together by the inverse sum.
-/

namespace Permalink.Text.Hangul

/-- The first syllable. -/
def syllableBase : Nat := 0xAC00

/-- The first leading consonant, of 19. -/
def leadBase : Nat := 0x1100

/-- The first vowel, of 21. -/
def vowelBase : Nat := 0x1161

/-- One before the first trailing consonant, of 27. -/
def trailBase : Nat := 0x11A7

/-- Does `n` lie among the `count` code points from `base`? -/
def within (base count n : Nat) : Bool := base ≤ n && n < base + count

/-- The consonants and vowel of a syllable. -/
def decompose? (c : Char) : Option (List Char) :=
  if within syllableBase 11172 c.toNat then
    let i := c.toNat - syllableBase
    let lead := Char.ofNat (leadBase + i / 588)
    let vowel := Char.ofNat (vowelBase + i % 588 / 28)
    some (if i % 28 = 0 then [lead, vowel] else [lead, vowel, Char.ofNat (trailBase + i % 28)])
  else none

/-- A leading consonant and a vowel make an open syllable; an open syllable and a trailing
consonant make a closed one. -/
def compose? (a b : Char) : Option Char :=
  if within leadBase 19 a.toNat && within vowelBase 21 b.toNat then
    some (Char.ofNat (syllableBase + ((a.toNat - leadBase) * 21 + (b.toNat - vowelBase)) * 28))
  else if within syllableBase 11172 a.toNat && (a.toNat - syllableBase) % 28 == 0
      && within (trailBase + 1) 27 b.toNat then
    some (Char.ofNat (a.toNat + (b.toNat - trailBase)))
  else none

end Permalink.Text.Hangul
