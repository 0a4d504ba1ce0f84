import Mathlib.Data.List.DropRight
import Permalink.Slug.Camel

/-!
# Slug — camel case is taken apart locally

* `filter_split`: only blanks are inserted, so any other characters stay as they are and where
  they are.
* `split_append_cons`: a character that is neither a capital nor small takes part in no word, so
  what stands before it and what stands behind it are taken apart on their own.
* `split_of_forall`: text without capitals is left alone.
* `split_concat_upper`, `split_concat_small`, `split_concat_acronym`: what one more character at the
  end changes.  A capital is split off what is small; behind two capitals a small letter or digit
  splits the last of them off, and otherwise nothing is split.

Each is proved of the two passes in turn, by their recursion; the first pass carries the capitals
that it has read.
-/

namespace Permalink.Camel

/-! ### Only blanks are inserted -/

section Filter

variable {q : Char → Bool}

theorem filter_splitRun (hq : q ' ' = false) (run : Text) :
    (splitRun run).filter q = run.filter q := by
  rw [splitRun]
  split
  · rfl
  · rw [List.filter_append, List.filter_cons_of_neg (by simp [hq]), ← List.filter_append,
      List.dropLast_eq_take, List.take_append_drop]

theorem filter_splitAcronymsFrom (hq : q ' ' = false) (run t : Text) :
    (splitAcronymsFrom run t).filter q = (run ++ t).filter q := by
  induction t generalizing run with
  | nil => rw [splitAcronymsFrom, List.append_nil]
  | cons c t ih =>
      rw [splitAcronymsFrom]
      split
      · rw [ih, List.append_assoc]
        rfl
      · have hrun : (if isSmall c then splitRun run else run).filter q = run.filter q := by
          split
          · exact filter_splitRun hq run
          · rfl
        rw [List.filter_append, hrun, List.filter_cons, ih, List.nil_append, List.filter_append,
          List.filter_cons]

theorem filter_splitHumps (hq : q ' ' = false) (t : Text) :
    (splitHumps t).filter q = t.filter q := by
  fun_induction splitHumps t with
  | case1 a b t _ ih =>
      rw [List.filter_cons, List.filter_cons_of_neg (by simp [hq]), List.filter_cons, ih,
        ← List.filter_cons, ← List.filter_cons]
  | case2 a b t _ ih => rw [List.filter_cons, ih, ← List.filter_cons]
  | case3 t _ => rfl

/-- **Nothing but blanks is inserted**, and nothing is left out or moved. -/
theorem filter_split (hq : q ' ' = false) (t : Text) : (split t).filter q = t.filter q := by
  rw [split, filter_splitHumps hq, splitAcronyms, filter_splitAcronymsFrom hq, List.nil_append]

end Filter

/-- A character of a text that is taken apart is a blank or one of the text. -/
theorem mem_split {t : Text} {a : Char} (h : a ∈ split t) : a = ' ' ∨ a ∈ t := by
  by_cases ha : a = ' '
  · exact .inl ha
  · have hmem : a ∈ (split t).filter (· != ' ') := List.mem_filter.2 ⟨h, by simpa using ha⟩
    rw [filter_split (by decide)] at hmem
    exact .inr (List.mem_filter.1 hmem).1

/-! ### The two sides of a character that is in no word -/

section Append

variable {c : Char}

theorem splitAcronymsFrom_append_cons (hupper : c.isUpper = false) (hsmall : isSmall c = false)
    (run a b : Text) : splitAcronymsFrom run (a ++ c :: b) =
      splitAcronymsFrom run a ++ c :: splitAcronymsFrom [] b := by
  induction a generalizing run with
  | nil => simp [splitAcronymsFrom, hupper, hsmall]
  | cons d a ih =>
      rw [List.cons_append, splitAcronymsFrom, splitAcronymsFrom]
      split
      · exact ih (run ++ [d])
      · rw [ih [], List.append_assoc, List.cons_append]

theorem splitHumps_cons (hsmall : isSmall c = false) (b : Text) :
    splitHumps (c :: b) = c :: splitHumps b := by
  cases b with
  | nil => simp [splitHumps]
  | cons d b => simp [splitHumps, hsmall]

theorem splitHumps_append_cons (hupper : c.isUpper = false) (hsmall : isSmall c = false)
    (a b : Text) : splitHumps (a ++ c :: b) = splitHumps a ++ c :: splitHumps b := by
  fun_induction splitHumps a with
  | case1 d e a h ih => simpa [splitHumps, h] using ih
  | case2 d e a h ih => simpa [splitHumps, h] using ih
  | case3 a h =>
      cases a with
      | nil => exact splitHumps_cons hsmall b
      | cons d a =>
          cases a with
          | nil => simp [splitHumps, hupper, splitHumps_cons hsmall]
          | cons e a => exact absurd rfl (h d e a)

/-- **A character that is in no word** parts the text: each side is taken apart on its own. -/
theorem split_append_cons (hupper : c.isUpper = false) (hsmall : isSmall c = false) (a b : Text) :
    split (a ++ c :: b) = split a ++ c :: split b := by
  rw [split, splitAcronyms, splitAcronymsFrom_append_cons hupper hsmall,
    splitHumps_append_cons hupper hsmall]
  rfl

end Append

/-! ### Text without capitals -/

section Plain

variable {t : Text}

theorem splitAcronyms_of_forall (h : ∀ a ∈ t, a.isUpper = false) : splitAcronyms t = t := by
  rw [splitAcronyms]
  induction t with
  | nil => rfl
  | cons a t ih =>
      obtain ⟨ha, ht⟩ := List.forall_mem_cons.1 h
      simp [splitAcronymsFrom, splitRun, ha, ih ht]

theorem splitHumps_of_forall (h : ∀ a ∈ t, a.isUpper = false) : splitHumps t = t := by
  fun_induction splitHumps t with
  | case1 a b t hab _ =>
      have hb : b.isUpper = false := h b (by simp)
      simp [hb] at hab
  | case2 a b t _ ih => rw [ih (List.forall_mem_cons.1 h).2]
  | case3 t _ => rfl

/-- **Text without capitals** is left alone. -/
theorem split_of_forall (h : ∀ a ∈ t, a.isUpper = false) : split t = t := by
  rw [split, splitAcronyms_of_forall h, splitHumps_of_forall h]

end Plain

/-! ### One more character at the end -/

section Concat

variable {c : Char} {x r : Text}

theorem not_isSmall_of_isUpper (h : c.isUpper = true) : isSmall c = false := by
  refine Text.Ranges.forall_of_holds (r := [(0x41, 0x5A)]) (P := fun c => isSmall c = false)
    (by decide) ?_
  have hbounds : 'A'.val ≤ c.val ∧ c.val ≤ 'Z'.val := of_decide_eq_true h
  exact Text.Ranges.holds_iff.2 ⟨_, List.mem_singleton_self _,
    UInt32.le_iff_toNat_le.1 hbounds.1, UInt32.le_iff_toNat_le.1 hbounds.2⟩

theorem not_isUpper_of_isSmall (h : isSmall c = true) : c.isUpper = false := by
  rw [Bool.eq_false_iff]
  intro hupper
  rw [not_isSmall_of_isUpper hupper] at h
  cases h

/-- What the first pass makes of the text up to a character that is no capital does not depend on
what follows. -/
theorem splitAcronymsFrom_append {d : Char} (hd : d.isUpper = false) (run x t : Text) :
    splitAcronymsFrom run (x ++ d :: t) =
      splitAcronymsFrom run (x ++ [d]) ++ splitAcronymsFrom [] t := by
  induction x generalizing run with
  | nil => simp [splitAcronymsFrom, hd]
  | cons e x ih =>
      rw [List.cons_append, List.cons_append, splitAcronymsFrom, splitAcronymsFrom]
      split
      · exact ih (run ++ [e])
      · rw [ih [], List.append_assoc, List.cons_append]

theorem splitAcronymsFrom_of_upper (h : ∀ a ∈ r, a.isUpper = true) (run : Text) :
    splitAcronymsFrom run r = run ++ r := by
  induction r generalizing run with
  | nil => rw [splitAcronymsFrom, List.append_nil]
  | cons a r ih =>
      obtain ⟨ha, hr⟩ := List.forall_mem_cons.1 h
      rw [splitAcronymsFrom, if_pos ha, ih hr, List.append_assoc, List.singleton_append]

theorem splitAcronymsFrom_upper_concat (h : ∀ a ∈ r, a.isUpper = true) (hc : isSmall c = true)
    (run : Text) : splitAcronymsFrom run (r ++ [c]) = splitRun (run ++ r) ++ [c] := by
  induction r generalizing run with
  | nil => simp [splitAcronymsFrom, not_isUpper_of_isSmall hc, hc]
  | cons a r ih =>
      obtain ⟨ha, hr⟩ := List.forall_mem_cons.1 h
      rw [List.cons_append, splitAcronymsFrom, if_pos ha, ih hr, List.append_assoc,
        List.singleton_append]

theorem splitAcronyms_of_upper (h : ∀ a ∈ r, a.isUpper = true) : splitAcronyms r = r :=
  splitAcronymsFrom_of_upper h []

theorem splitAcronyms_upper_concat (h : ∀ a ∈ r, a.isUpper = true) (hc : isSmall c = true) :
    splitAcronyms (r ++ [c]) = splitRun r ++ [c] :=
  splitAcronymsFrom_upper_concat h hc []

/-- The last capitals of a text, and what is before them, which the first pass does on its own. -/
theorem exists_run (a : Text) : ∃ x r, a = x ++ r ∧ r = a.rtakeWhile Char.isUpper ∧
    (∀ d ∈ r, d.isUpper = true) ∧
    ∀ t, splitAcronyms (x ++ t) = splitAcronyms x ++ splitAcronyms t := by
  refine ⟨_, _, List.rdropWhile_append_rtakeWhile.symm, rfl,
    fun d hd => List.mem_rtakeWhile_imp hd, fun t => ?_⟩
  by_cases hx : a.rdropWhile Char.isUpper = []
  · rw [hx]
    rfl
  · have hlast : ((a.rdropWhile Char.isUpper).getLast hx).isUpper = false := by
      simpa using List.rdropWhile_last_not Char.isUpper a hx
    conv_lhs => rw [← List.dropLast_concat_getLast hx, List.append_assoc, List.singleton_append]
    conv_rhs => rw [← List.dropLast_concat_getLast hx]
    exact splitAcronymsFrom_append hlast [] _ t

/-- The second pass looks at the last character and the one before it. -/
theorem splitHumps_concat (t : Text) (c : Char) : splitHumps (t ++ [c]) =
    splitHumps t ++ if t.getLast?.any isSmall && c.isUpper then [' ', c] else [c] := by
  fun_induction splitHumps t with
  | case1 a b t h ih =>
      have hb : isSmall b = false := not_isSmall_of_isUpper (Bool.and_eq_true_iff.1 h).2
      have hlast : (a :: b :: t).getLast?.any isSmall = t.getLast?.any isSmall := by
        rw [List.getLast?_cons_cons, List.getLast?_cons]
        cases t.getLast? <;> simp [hb]
      rw [List.cons_append, List.cons_append, splitHumps, if_pos h, ih, hlast]
      rfl
  | case2 a b t h ih =>
      rw [List.cons_append, List.cons_append, splitHumps, if_neg h, ← List.cons_append, ih,
        List.getLast?_cons_cons]
      rfl
  | case3 t h =>
      match t, h with
      | [], _ => rfl
      | [d], _ => cases hd : isSmall d <;> cases hc : c.isUpper <;> simp [splitHumps, hd, hc]
      | d :: e :: t, h => exact absurd rfl (h d e t)

theorem getLast?_splitAcronymsFrom (run t : Text) :
    (splitAcronymsFrom run t).getLast? = (run ++ t).getLast? := by
  induction t generalizing run with
  | nil => rw [splitAcronymsFrom, List.append_nil]
  | cons d t ih =>
      rw [splitAcronymsFrom]
      split
      · rw [ih, List.append_assoc, List.singleton_append]
      · rw [List.getLast?_append_cons, List.getLast?_append_cons, List.getLast?_cons,
          List.getLast?_cons, ih []]
        rfl

/-- **A capital** at the end is split off a small letter or digit. -/
theorem split_concat_upper (hc : c.isUpper = true) (a : Text) :
    split (a ++ [c]) = split a ++ if a.getLast?.any isSmall then [' ', c] else [c] := by
  have hfirst : splitAcronyms (a ++ [c]) = splitAcronyms a ++ [c] := by
    obtain ⟨x, r, rfl, -, hr, hx⟩ := exists_run a
    have hrc : ∀ d ∈ r ++ [c], d.isUpper = true :=
      List.forall_mem_append.2 ⟨hr, by simpa using hc⟩
    rw [List.append_assoc, hx, hx, splitAcronyms_of_upper hrc, splitAcronyms_of_upper hr,
      List.append_assoc]
  have hlast : (splitAcronyms a).getLast? = a.getLast? := getLast?_splitAcronymsFrom [] a
  rw [split, hfirst, splitHumps_concat, hlast, hc, Bool.and_true]
  rfl

/-- **A small letter or digit** at the end is split off nothing, but not behind two capitals. -/
theorem split_concat_small (hc : isSmall c = true) {a : Text}
    (hrun : (a.rtakeWhile Char.isUpper).length < 2) : split (a ++ [c]) = split a ++ [c] := by
  have hupper := not_isUpper_of_isSmall hc
  have hfirst : splitAcronyms (a ++ [c]) = splitAcronyms a ++ [c] := by
    obtain ⟨x, r, rfl, he, hr, hx⟩ := exists_run a
    rw [← he] at hrun
    rw [List.append_assoc, hx, hx, splitAcronyms_upper_concat hr hc, splitAcronyms_of_upper hr,
      splitRun, if_pos hrun, List.append_assoc]
  rw [split, hfirst, splitHumps_concat, hupper, Bool.and_false, if_neg Bool.false_ne_true]
  rfl

/-- **Behind two capitals** it starts a word with the second. -/
theorem split_concat_acronym (hc : isSmall c = true) {a : Text}
    (hrun : 2 ≤ (a.rtakeWhile Char.isUpper).length) :
    ∃ p x y, x.isUpper = true ∧ y.isUpper = true ∧ split a = p ++ [x, y] ∧
      split (a ++ [c]) = p ++ [x, ' ', y, c] := by
  obtain ⟨t, r, rfl, he, hr, ht⟩ := exists_run a
  rw [← he] at hrun
  obtain ⟨q, x, y, rfl⟩ : ∃ q x y, r = q ++ [x] ++ [y] := by
    have hne : r ≠ [] := List.length_pos_iff.1 (by omega)
    have hne' : r.dropLast ≠ [] := List.length_pos_iff.1 (by rw [List.length_dropLast]; omega)
    exact ⟨_, _, _, by rw [List.dropLast_concat_getLast hne', List.dropLast_concat_getLast hne]⟩
  have hx : x.isUpper = true := hr x (by simp)
  have hy : y.isUpper = true := hr y (by simp)
  have hlast : ∀ u : Text, ((u ++ [x]).getLast?.any isSmall && y.isUpper) = false := fun u => by
    simp [not_isSmall_of_isUpper hx]
  have hsplitRun : splitRun (q ++ [x] ++ [y]) = q ++ [x] ++ [' ', y] := by
    rw [splitRun, if_neg (by omega), List.dropLast_concat, List.length_append,
      List.length_singleton, Nat.add_sub_cancel, List.drop_left]
  have hword : splitHumps [y, c] = [y, c] := by
    simp [splitHumps, not_isSmall_of_isUpper hy]
  -- A blank before the first of the two may be there already.
  obtain ⟨p, hp⟩ : ∃ p, splitHumps (splitAcronyms t ++ q ++ [x]) = p ++ [x] := by
    rw [splitHumps_concat]
    split
    · exact ⟨splitHumps (splitAcronyms t ++ q) ++ [' '], by simp⟩
    · exact ⟨splitHumps (splitAcronyms t ++ q), rfl⟩
  refine ⟨p, x, y, hx, hy, ?_, ?_⟩
  · have hfirst : splitAcronyms (t ++ (q ++ [x] ++ [y])) = splitAcronyms t ++ q ++ [x] ++ [y] := by
      rw [ht, splitAcronyms_of_upper hr]
      simp
    rw [split, hfirst, splitHumps_concat, hlast, hp]
    simp
  · have hfirst : splitAcronyms (t ++ (q ++ [x] ++ [y]) ++ [c]) =
        splitAcronyms t ++ q ++ [x] ++ ' ' :: [y, c] := by
      rw [List.append_assoc t, ht, splitAcronyms_upper_concat hr hc, hsplitRun]
      simp
    rw [split, hfirst, splitHumps_append_cons (by decide) (by decide), hp, hword]
    simp

end Concat

end Permalink.Camel
