import Mathlib.Data.List.TakeWhile
import Mathlib.Data.Nat.Digits.Lemmas
import Permalink.Proofs.Outcome
import Permalink.Value.Lookup

/-!
# Value — names read as indices

A name is an index of a sequence if it is made of digits.  Which digits those are, and how many, is
asked in two ways: a name of digits is taken for a number at once, but only decimal digits, and no
more than `Fault.digitLimit` of them, can be read.

* `Text.numeral?_eq_some_iff`: decimal digits are read as the number that they denote in base ten;
  any number is denoted by its own digits (`Text.denotes_ofNat`).
* `index?_eq_some_iff`: an index is read from decimal digits of any script, within the limit.
* `exists_index?_eq_error_iff`: reading fails for just the names that are digits but cannot be read
  (`Unreadable`), as the raised `²` is.
* Any other name is no index (`index?_eq_none_iff`).
-/

namespace Permalink

namespace Text

theorem isDigit_of_isDecimal {c : Char} (h : isDecimal c = true) : isDigit c = true := by
  rw [isDigit, h, Bool.true_or]

/-- A number of which the next decimal digit is read. -/
def readDigit (n : Option Nat) (c : Char) : Option Nat :=
  n.bind fun n => (digitValue? c).map (10 * n + ·)

/-- Nothing is read from the first character on that is no decimal digit. -/
theorem foldl_readDigit_none (s : Text) : s.foldl readDigit none = none := by
  induction s with
  | nil => rfl
  | cons c s ih => exact ih

/-- **A numeral can be read** if each of its characters is a decimal digit. -/
theorem exists_numeral?_iff {s : Text} :
    (∃ n, numeral? s = some n) ↔ ∀ c ∈ s, isDecimal c = true := by
  have hfold : ∀ (s : Text) (k : Nat),
      (∃ n, s.foldl readDigit (some k) = some n) ↔ ∀ c ∈ s, isDecimal c = true := by
    intro s
    induction s with
    | nil => simp
    | cons c s ih =>
        intro k
        rw [List.foldl_cons, List.forall_mem_cons, readDigit, Option.bind_some, isDecimal]
        cases digitValue? c with
        | none => simp [foldl_readDigit_none]
        | some d => simpa using ih (10 * k + d)
  exact hfold s 0

/-! ### What a numeral denotes -/

/-- The characters are decimal digits, each of some script, of these values. -/
abbrev HasDigits (s : Text) (digits : List Nat) : Prop :=
  List.Forall₂ (fun c d => digitValue? c = some d) s digits

/-- The text is made of decimal digits, of any scripts, that write `n` in base ten. -/
def Denotes (s : Text) (n : Nat) : Prop :=
  s ≠ [] ∧ ∃ digits : List Nat, HasDigits s digits ∧ Nat.ofDigits 10 digits.reverse = n

theorem foldl_readDigit_eq_some_iff {s : Text} {k n : Nat} :
    s.foldl readDigit (some k) = some n ↔ ∃ digits : List Nat, HasDigits s digits ∧
      Nat.ofDigits 10 digits.reverse + 10 ^ digits.length * k = n := by
  have hcons : ∀ (k d : Nat) (digits : List Nat),
      Nat.ofDigits 10 (d :: digits).reverse + 10 ^ (d :: digits).length * k =
        Nat.ofDigits 10 digits.reverse + 10 ^ digits.length * (10 * k + d) := by
    intro k d digits
    rw [List.reverse_cons, Nat.ofDigits_append, Nat.ofDigits_singleton, List.length_reverse,
      List.length_cons]
    ring
  induction s generalizing k with
  | nil => simp
  | cons c s ih =>
      simp only [List.foldl_cons, readDigit, Option.bind_some, List.forall₂_cons_left_iff]
      cases hc : digitValue? c with
      | none => simp [foldl_readDigit_none]
      | some d =>
          rw [Option.map_some]
          refine ih.trans ?_
          constructor
          · rintro ⟨digits, hdigits, hn⟩
            exact ⟨d :: digits, ⟨d, digits, rfl, hdigits, rfl⟩, (hcons k d digits).trans hn⟩
          · rintro ⟨_, ⟨e, digits, he, hdigits, rfl⟩, hn⟩
            obtain rfl := Option.some.inj he
            exact ⟨digits, hdigits, (hcons k d digits).symm.trans hn⟩

/-- **A numeral is read as the number that it denotes.** -/
theorem numeral?_eq_some_iff {s : Text} {n : Nat} (hs : s ≠ []) :
    numeral? s = some n ↔ Denotes s n := by
  refine (foldl_readDigit_eq_some_iff (k := 0)).trans ?_
  simp [Denotes, hs]

/-- A zero in front changes nothing. -/
theorem Denotes.zero_cons {c : Char} {s : Text} {n : Nat} (hc : digitValue? c = some 0)
    (h : Denotes s n) : Denotes (c :: s) n := by
  obtain ⟨-, digits, hdigits, rfl⟩ := h
  refine ⟨List.cons_ne_nil _ _, 0 :: digits, .cons hc hdigits, ?_⟩
  rw [List.reverse_cons, Nat.ofDigits_append, Nat.ofDigits_singleton, Nat.mul_zero, Nat.add_zero]

theorem digitValue?_digitChar : ∀ {d : Nat}, d < 10 → digitValue? (Nat.digitChar d) = some d := by
  decide

/-- The decimal digits of a number denote it. -/
theorem denotes_ofNat (n : Nat) : Denotes (ofNat n) n := by
  induction n using Nat.strongRecOn with
  | ind n ih =>
    rw [ofNat, Nat.toDigits_eq_if (by decide)]
    split
    · next h => exact ⟨List.cons_ne_nil _ _, [n], .cons (digitValue?_digitChar h) .nil, by simp⟩
    · next h =>
      obtain ⟨-, digits, hdigits, hn⟩ := ih (n / 10) (by omega)
      have hlast : digitValue? (Nat.digitChar (n % 10)) = some (n % 10) :=
        digitValue?_digitChar (Nat.mod_lt _ (by decide))
      have hdiv := Nat.div_add_mod n 10
      refine ⟨by simp, digits ++ [n % 10], List.rel_append hdigits (.cons hlast .nil), ?_⟩
      rw [List.reverse_append, List.reverse_singleton, List.singleton_append, Nat.ofDigits_cons, hn]
      omega

end Text

namespace Value

/-- The name is a number of decimal digits, not too many to be read. -/
structure Writes (name : Text) (n : Nat) : Prop where
  ne_nil : name ≠ []
  length_le : name.length ≤ Fault.digitLimit
  numeral : Text.numeral? name = some n

/-- The name is made of digits, of which one is no decimal digit or which are too many. -/
structure Unreadable (name : Text) : Prop where
  ne_nil : name ≠ []
  digits : ∀ c ∈ name, Text.isDigit c = true
  spoiled : (∃ c ∈ name, Text.isDecimal c = false) ∨ Fault.digitLimit < name.length

variable {name : Text} {n : Nat}

theorem Writes.decimal (h : Writes name n) : ∀ c ∈ name, Text.isDecimal c = true :=
  Text.exists_numeral?_iff.1 ⟨n, h.numeral⟩

theorem Writes.digits (h : Writes name n) : ∀ c ∈ name, Text.isDigit c = true := fun c hc =>
  Text.isDigit_of_isDecimal (h.decimal c hc)

/-- What is made of digits has no other character. -/
theorem not_other (hne : name ≠ []) (hdigits : ∀ c ∈ name, Text.isDigit c = true) :
    ¬ (name = [] ∨ ∃ c ∈ name, Text.isDigit c = false) := by
  rintro (h | ⟨c, hc, hother⟩)
  · exact hne h
  · exact Bool.false_ne_true (hother.symm.trans (hdigits c hc))

/-- **A number that can be read** is denoted by digits within the limit. -/
theorem writes_iff : Writes name n ↔ Text.Denotes name n ∧ name.length ≤ Fault.digitLimit := by
  constructor
  · intro h
    exact ⟨(Text.numeral?_eq_some_iff h.ne_nil).1 h.numeral, h.length_le⟩
  · rintro ⟨hdenotes, hlength⟩
    exact ⟨hdenotes.1, hlength, (Text.numeral?_eq_some_iff hdenotes.1).2 hdenotes⟩

/-- What can be read is not unreadable. -/
theorem Writes.not_unreadable (h : Writes name n) : ¬ Unreadable name := by
  rintro ⟨-, -, ⟨c, hc, hloose⟩ | hlong⟩
  · exact Bool.false_ne_true (hloose.symm.trans (h.decimal c hc))
  · exact absurd hlong (Nat.not_lt.2 h.length_le)

/-- **What is read of a name.**  A name of other characters is no index; of digits it is an index
or unreadable. -/
theorem index?_cases (name : Text) :
    ((name = [] ∨ ∃ c ∈ name, Text.isDigit c = false) ∧ index? name = .ok none) ∨
    (∃ n, Writes name n ∧ index? name = .ok (some n)) ∨
    (Unreadable name ∧ ∃ f, index? name = .error f) := by
  unfold index?
  split
  · next hother =>
    refine .inl ⟨?_, rfl⟩
    simpa using hother
  · next hdigits =>
    obtain ⟨hne, hdigits⟩ : name ≠ [] ∧ ∀ c ∈ name, Text.isDigit c = true := by
      simpa using hdigits
    refine .inr ?_
    dsimp only
    split
    · next hlong =>
      have hlength := (List.takeWhile_sublist (p := Text.isDecimal) (l := name)).length_le
      exact .inr ⟨⟨hne, hdigits, .inr (Nat.lt_of_lt_of_le hlong hlength)⟩, _, rfl⟩
    · next hshort =>
      split
      · next n hn =>
        have hdecimal := Text.exists_numeral?_iff.1 ⟨n, hn⟩
        rw [List.takeWhile_eq_self_iff.2 hdecimal] at hshort
        exact .inl ⟨n, ⟨hne, Nat.not_lt.1 hshort, hn⟩, rfl⟩
      · next hnone =>
        have hloose : ¬ ∀ c ∈ name, Text.isDecimal c = true := by
          intro hdecimal
          obtain ⟨n, hn⟩ := Text.exists_numeral?_iff.2 hdecimal
          rw [hnone] at hn
          cases hn
        exact .inr ⟨⟨hne, hdigits, .inl (by simpa using hloose)⟩, _, rfl⟩

/-- **A name that is no index.** -/
theorem index?_eq_none_iff :
    index? name = .ok none ↔ name = [] ∨ ∃ c ∈ name, Text.isDigit c = false := by
  rcases index?_cases name with ⟨hother, h⟩ | ⟨m, hm, h⟩ | ⟨hunreadable, f, h⟩
  · exact iff_of_true h hother
  · rw [h]
    exact ⟨nofun, fun hother => absurd hother (not_other hm.ne_nil hm.digits)⟩
  · rw [h]
    exact ⟨nofun, fun hother => absurd hother (not_other hunreadable.ne_nil hunreadable.digits)⟩

/-- **An index that is read.** -/
theorem index?_eq_some_iff : index? name = .ok (some n) ↔ Writes name n := by
  rcases index?_cases name with ⟨hother, h⟩ | ⟨m, hm, h⟩ | ⟨hunreadable, f, h⟩
  · rw [h]
    exact ⟨nofun, fun hn => absurd hother (not_other hn.ne_nil hn.digits)⟩
  · rw [h]
    constructor
    · rintro ⟨⟩
      exact hm
    · intro hn
      rw [← hm.numeral, hn.numeral]
  · rw [h]
    exact ⟨nofun, fun hn => absurd hunreadable hn.not_unreadable⟩

/-- **A name that cannot be read.** -/
theorem exists_index?_eq_error_iff : (∃ f, index? name = .error f) ↔ Unreadable name := by
  rcases index?_cases name with ⟨hother, h⟩ | ⟨m, hm, h⟩ | ⟨hunreadable, f, h⟩
  · rw [h]
    exact Outcome.exists_ok_eq_error_iff fun hn => not_other hn.ne_nil hn.digits hother
  · rw [h]
    exact Outcome.exists_ok_eq_error_iff hm.not_unreadable
  · exact ⟨fun _ => hunreadable, fun _ => ⟨f, h⟩⟩

end Value
end Permalink
