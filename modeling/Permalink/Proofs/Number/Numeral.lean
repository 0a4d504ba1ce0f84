import Mathlib.Algebra.Group.Int.Defs
import Mathlib.Algebra.Group.Nat.Defs
import Mathlib.Data.List.Basic
import Permalink.Number.Decimal
import Permalink.Number.Limited

/-!
# Number — the numerals of integers

The numeral of a natural number is made of digits, with no zero in front of others
(`head?_ofNat_ne`), and of no more of them than are needed (`length_ofNat_le_iff`).  That of an
integer has a minus sign in front if the integer is negative.  Read as numerals, both are the number
again (`natural_ofNat`, `integer?_ofInt`).

So an integer is too long to be written from the first power of ten on that has more digits than the
limit (`isLong_iff`).
-/

namespace Permalink

namespace Text

theorem isDigit_of_mem_ofNat {c : Char} {n : Nat} (h : c ∈ ofNat n) : c.isDigit = true :=
  Nat.isDigit_of_mem_toDigits (by decide) (by decide) h

/-- The text of a number is made of digits and the minus sign. -/
theorem isDigit_of_mem_ofInt {c : Char} {n : Int} (h : c ∈ ofInt n) :
    c = '-' ∨ c.isDigit = true := by
  cases n with
  | ofNat n => exact .inr (isDigit_of_mem_ofNat h)
  | negSucc n =>
      rcases List.mem_cons.1 h with h | h
      · exact .inl h
      · exact .inr (isDigit_of_mem_ofNat h)

theorem ofNat_ne_nil (n : Nat) : ofNat n ≠ [] := Nat.toDigits_ne_nil

/-- The text of a number starts with a digit or the minus sign. -/
theorem exists_ofInt_cons (n : Int) :
    ∃ c u, ofInt n = c :: u ∧ (c = '-' ∨ c.isDigit = true) := by
  have hne : ofInt n ≠ [] := by
    cases n with
    | ofNat n => exact ofNat_ne_nil n
    | negSucc n => exact List.cons_ne_nil _ _
  obtain ⟨c, u, hcu⟩ := List.exists_cons_of_ne_nil hne
  refine ⟨c, u, hcu, isDigit_of_mem_ofInt (n := n) ?_⟩
  rw [hcu]
  exact List.mem_cons_self

theorem digitChar_ne_zero : ∀ {d : Nat}, d < 10 → d ≠ 0 → Nat.digitChar d ≠ '0' := by decide

/-- A number has no zero in front, unless it is zero. -/
theorem head?_ofNat_ne {n : Nat} (hn : n ≠ 0) : (ofNat n).head? ≠ some '0' := by
  induction n using Nat.strongRecOn with
  | ind n ih =>
    rw [ofNat, Nat.toDigits_eq_if (by decide)]
    split
    · next h =>
      rw [List.head?_cons]
      exact fun hzero => digitChar_ne_zero h hn (Option.some.inj hzero)
    · next h =>
      -- The first of several digits is that of the number without the last.
      rw [List.head?_append_of_ne_nil _ Nat.toDigits_ne_nil]
      exact ih (n / 10) (by omega) (by omega)

/-- **How many digits a number has**, against the powers of ten. -/
theorem length_ofNat_le_iff {n k : Nat} (hk : k ≠ 0) : (ofNat n).length ≤ k ↔ n < 10 ^ k := by
  induction k generalizing n with
  | zero => exact absurd rfl hk
  | succ k ih =>
      rw [ofNat, Nat.toDigits_eq_if (by decide)]
      split
      · next h =>
        have hpow : 0 < 10 ^ k := Nat.pow_pos (by decide)
        rw [List.length_singleton, Nat.pow_succ]
        omega
      · next h =>
        rw [List.length_append, List.length_singleton, Nat.add_le_add_iff_right, Nat.pow_succ,
          ← Nat.div_lt_iff_lt_mul (by decide)]
        -- The digits but for the last are those of the tenth, which is not zero.
        by_cases hzero : k = 0
        · subst hzero
          have hne : (ofNat (n / 10)).length ≠ 0 := by simpa using ofNat_ne_nil (n / 10)
          simp only [ofNat] at hne
          omega
        · exact ih hzero

end Text

namespace Decimal

/-- **An integer that is too long to be written.** -/
theorem isLong_iff {n : Int} : IsLong n ↔ 10 ^ Fault.digitLimit ≤ n.natAbs := by
  rw [IsLong, ← Nat.not_le, Text.length_ofNat_le_iff (by decide), Nat.not_lt]

/-- The least integer of too many digits. -/
theorem isLong_pow : IsLong (10 ^ Fault.digitLimit) := by
  -- The limit is kept out of the equation, for the power is not to be computed.
  have hpow : ∀ k : Nat, 10 ^ k ≤ ((10 : Int) ^ k).natAbs := fun k =>
    Nat.le_of_eq (Int.natAbs_pow 10 k).symm
  exact isLong_iff.2 (hpow _)

theorem natural_ofNat (n : Nat) : natural (Text.ofNat n) = n := by
  have hfold := Nat.ofDigitChars_toDigits (b := 10) (n := n) (by decide) (by decide)
  rwa [Nat.ofDigitChars_eq_foldl] at hfold

theorem sign_of_forall {ds : Text} (h : ∀ c ∈ ds, c.isDigit = true) : sign ds = (false, ds) := by
  unfold sign
  split
  · exact absurd (h '-' List.mem_cons_self) (by decide)
  · exact absurd (h '+' List.mem_cons_self) (by decide)
  · rfl

/-- **The numeral of an integer** is read as the integer. -/
theorem integer?_ofInt (n : Int) : integer? (Text.ofInt n) = some n := by
  have hdigits : ∀ m, (!(Text.ofNat m).isEmpty && (Text.ofNat m).all Char.isDigit) = true := by
    intro m
    have hall : (Text.ofNat m).all Char.isDigit = true :=
      List.all_eq_true.2 fun _ => Text.isDigit_of_mem_ofNat
    simp [Text.ofNat_ne_nil m, hall]
  cases n with
  | ofNat n =>
      have hsign : sign (Text.ofInt (.ofNat n)) = (false, Text.ofNat n) :=
        sign_of_forall fun _ => Text.isDigit_of_mem_ofNat
      simp only [integer?, hsign, hdigits, if_true, Bool.false_eq_true, if_false, natural_ofNat]
      rfl
  | negSucc n =>
      have hsign : sign (Text.ofInt (.negSucc n)) = (true, Text.ofNat (n + 1)) := rfl
      simp only [integer?, hsign, hdigits, if_true, natural_ofNat]
      rfl

end Decimal
end Permalink
