import Permalink.Text.Basic

/-!
# Text — replacing

Replacing goes along a text and looks at each place for the text that is replaced.  An occurrence
that stands there is replaced (`replaceAll_self_append`), and a character at which none starts is
kept (`replaceAll_cons`).  So text without some character of what is replaced is kept as it is
(`replaceAll_of_not_mem`), and replacing a single character is done place by place
(`replaceAll_singleton`).
-/

namespace Permalink.Text

variable {old new : Text}

/-- The rest of a replaced occurrence is passed over. -/
theorem replaceFrom_length_append (rest : Text) : ∀ x : Text,
    replaceFrom old new x.length (x ++ rest) = replaceFrom old new 0 rest
  | [] => rfl
  | _ :: x => by
      rw [List.length_cons, List.cons_append, replaceFrom]
      exact replaceFrom_length_append rest x

/-- An occurrence at the start is replaced. -/
theorem replaceAll_self_append (hold : old ≠ []) (rest : Text) :
    replaceAll old new (old ++ rest) = new ++ replaceAll old new rest := by
  obtain ⟨a, t, rfl⟩ := List.exists_cons_of_ne_nil hold
  have hstart : (a :: t).isPrefixOf (a :: (t ++ rest)) = true :=
    List.isPrefixOf_iff_prefix.2 ⟨rest, rfl⟩
  rw [replaceAll, List.cons_append, replaceFrom, if_pos hstart, List.length_cons,
    Nat.add_sub_cancel, replaceFrom_length_append, replaceAll]

/-- A character at which `old` does not occur is kept. -/
theorem replaceAll_cons {c : Char} {t : Text} (h : ¬ old <+: c :: t) :
    replaceAll old new (c :: t) = c :: replaceAll old new t := by
  rw [replaceAll, replaceFrom, if_neg (mt List.isPrefixOf_iff_prefix.1 h), replaceAll]

/-- Text without the first character of `old` is kept. -/
theorem replaceAll_append {c : Char} {u : Text} (rest : Text) : ∀ {t : Text}, c ∉ t →
    replaceAll (c :: u) new (t ++ rest) = t ++ replaceAll (c :: u) new rest
  | [], _ => rfl
  | d :: t, h => by
      obtain ⟨hd, ht⟩ := not_or.1 (mt List.mem_cons.2 h)
      have hstart : ¬ c :: u <+: d :: (t ++ rest) := fun hp => hd (List.cons_prefix_cons.1 hp).1
      rw [List.cons_append, replaceAll_cons hstart, replaceAll_append rest ht, List.cons_append]

/-- **Text without some character of `old`** is kept. -/
theorem replaceAll_of_not_mem {c : Char} (hc : c ∈ old) {t : Text} (ht : c ∉ t) :
    replaceAll old new t = t := by
  induction t with
  | nil => rfl
  | cons a t ih =>
      have hstart : ¬ old <+: a :: t := fun hp => ht (hp.sublist.subset hc)
      rw [replaceAll_cons hstart, ih fun h => ht (List.mem_cons_of_mem a h)]

/-- **A single character** is replaced place by place. -/
theorem replaceAll_singleton (k : Char) (t : Text) :
    replaceAll [k] new t = t.flatMap fun a => if a = k then new else [a] := by
  induction t with
  | nil => rfl
  | cons a t ih =>
      rw [List.flatMap_cons, ← ih]
      by_cases ha : a = k
      · subst ha
        rw [if_pos rfl]
        exact replaceAll_self_append (List.cons_ne_nil a []) t
      · have hstart : ¬ [k] <+: a :: t := fun hp => ha (List.cons_prefix_cons.1 hp).1.symm
        rw [replaceAll_cons hstart, if_neg ha, List.singleton_append]

end Permalink.Text
