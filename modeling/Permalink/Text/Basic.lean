/-!
# Text — the carrier and its cuts

A text is a list of characters, so that offsets and lengths count characters and every operation
on texts is a recursion on lists.

* `slice t i j` is the part of `t` from offset `i` up to offset `j`, where a negative offset counts
  from the end and an offset outside the text means its nearer end.
* `squeeze p c t` writes each run of characters of a class as one `c`.
* `trim p t` takes the characters of a class off both ends.
* `replaceAll old new t` replaces the occurrences of `old`, from the left and without overlap.
-/

namespace Permalink

/-- A text: its characters in order. -/
abbrev Text := List Char

instance : Coe String Text := ⟨String.toList⟩

namespace Text

/-! ### Offsets and slices -/

/-- The offset that `i` means in a text of `length` characters: a negative one counts from the
end, and one outside the text is its nearer end. -/
def offset (length : Nat) (i : Int) : Nat :=
  min (if i < 0 then i + length else i).toNat length

/-- The part of `t` from offset `i` up to offset `j`; empty if `j` does not lie behind `i`. -/
def slice (t : Text) (i j : Int) : Text :=
  (t.take (offset t.length j)).drop (offset t.length i)

/-- The part of `t` from offset `i` on. -/
def sliceFrom (t : Text) (i : Int) : Text := t.drop (offset t.length i)

theorem offset_natCast {n k : Nat} (h : k ≤ n) : offset n (k : Int) = k := by
  simp only [offset]; omega

theorem slice_natCast {t : Text} {i j : Nat} (hi : i ≤ t.length) (hj : j ≤ t.length) :
    slice t i j = (t.take j).drop i := by
  rw [slice, offset_natCast hi, offset_natCast hj]

/-- The parts of a text put together. -/
def concat (parts : List Text) : Text := parts.flatten

/-! ### The end of a text -/

/-- Is `rest` the end of a text, with or without a last line break? -/
def atEnd (rest : Text) : Bool := rest == [] || rest == ['\n']

theorem atEnd_iff {rest : Text} : atEnd rest = true ↔ rest = [] ∨ rest = ['\n'] := by
  simp [atEnd]

/-! ### Classes -/

/-- Every run of characters of the class `p` written as one `c`. -/
def squeeze (p : Char → Bool) (c : Char) : Text → Text
  | [] => []
  | a :: t =>
    if p a then
      if t.head?.any p then squeeze p c t else c :: squeeze p c t
    else a :: squeeze p c t

/-- The text without the characters of the class `p` at its two ends. -/
def trim (p : Char → Bool) (t : Text) : Text :=
  ((t.dropWhile p).reverse.dropWhile p).reverse

theorem squeeze_of_forall {p : Char → Bool} {c : Char} {t : Text} (h : ∀ a ∈ t, p a = false) :
    squeeze p c t = t := by
  induction t with
  | nil => rfl
  | cons a t ih =>
    rw [List.forall_mem_cons] at h
    simp [squeeze, h.1, ih h.2]

/-! ### Replacing -/

/-- `replaceAll` on a text of which `skip` more characters belong to a replaced occurrence. -/
def replaceFrom (old new : Text) : (skip : Nat) → Text → Text
  | _, [] => []
  | skip + 1, _ :: t => replaceFrom old new skip t
  | 0, a :: t =>
    if old.isPrefixOf (a :: t) then new ++ replaceFrom old new (old.length - 1) t
    else a :: replaceFrom old new 0 t

/-- Every occurrence of the nonempty text `old` replaced by `new`, the leftmost first. -/
def replaceAll (old new t : Text) : Text := replaceFrom old new 0 t

/-! ### Numbers -/

/-- A natural number in decimal digits. -/
def ofNat (n : Nat) : Text := Nat.toDigits 10 n

/-- An integer in decimal digits, with a minus sign if it is negative. -/
def ofInt : Int → Text
  | .ofNat n => ofNat n
  | .negSucc n => '-' :: ofNat (n + 1)

end Text
end Permalink
