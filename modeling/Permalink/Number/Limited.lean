import Permalink.Fault

/-!
# Number — integers as text, within a limit

An integer is written in its decimal digits, of which there may be no more than `Fault.digitLimit`;
a longer one has no text.
-/

namespace Permalink.Decimal

/-- Has the integer more digits than are written? -/
def IsLong (n : Int) : Prop := Fault.digitLimit < (Text.ofNat n.natAbs).length

instance (n : Int) : Decidable (IsLong n) := inferInstanceAs (Decidable (_ < _))

/-- The digits of an integer, with a minus sign if it is negative. -/
def write (n : Int) : Except Fault Text :=
  if IsLong n then .error .integerLength else .ok (Text.ofInt n)

theorem write_eq_ok_iff {n : Int} {t : Text} :
    write n = .ok t ↔ ¬ IsLong n ∧ Text.ofInt n = t := by
  unfold write
  split
  · next h => simp [h]
  · next h => simp [h]

end Permalink.Decimal
