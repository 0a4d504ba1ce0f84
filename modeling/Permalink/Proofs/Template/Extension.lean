import Permalink.Template.Path

/-!
# Template — what an extension leaves

An extension is at the end of a text and made of a period, letters and digits, so nothing is taken
off in front of a character that can be no part of it (`withoutExtension_append_cons`); and what is
taken off leaves the rest of the text as it is (`withoutExtension_sublist`): the front and, behind
the extension, a last line break or nothing (`exists_extension`).
-/

namespace Permalink.Path

/-- No extension goes past a character that is neither a letter nor a digit nor a last line
break. -/
theorem afterExtension?_eq_none {c : Char} {t : Text} (hc : c.isAlphanum = false)
    (hbreak : c ≠ '\n') (h : c ∈ t) : afterExtension? t = none := by
  have hrest : c ∈ t.dropWhile Char.isAlphanum := by
    rw [← List.takeWhile_append_dropWhile (p := Char.isAlphanum) (l := t)] at h
    refine (List.mem_append.1 h).resolve_left fun hword => ?_
    have hall := List.all_takeWhile (p := Char.isAlphanum) (l := t)
    exact Bool.false_ne_true (hc.symm.trans (List.all_eq_true.1 hall c hword))
  have hend : ¬ Text.atEnd (t.dropWhile Char.isAlphanum) = true := by
    rw [Text.atEnd_iff]
    rintro (hnil | hlast)
    · rw [hnil] at hrest
      cases hrest
    · rw [hlast] at hrest
      exact hbreak (List.mem_singleton.1 hrest)
  rw [afterExtension?, if_neg fun hboth => hend hboth.2]

/-- **An extension is taken off behind** such a character. -/
theorem withoutExtension_append_cons {c : Char} (hc : c.isAlphanum = false) (hbreak : c ≠ '\n')
    (hperiod : c ≠ '.') (tail : Text) :
    ∀ t : Text, withoutExtension (t ++ c :: tail) = t ++ c :: withoutExtension tail
  | [] => withoutExtension_cons_of_ne hperiod tail
  | d :: t => by
      have ih := withoutExtension_append_cons hc hbreak hperiod tail t
      have hnone : afterExtension? (t ++ c :: tail) = none :=
        afterExtension?_eq_none hc hbreak (by simp)
      rw [List.cons_append, withoutExtension, hnone, ih, ite_self]
      rfl

/-- An extension that is taken off leaves the rest as it is. -/
theorem withoutExtension_sublist : ∀ t : Text, (withoutExtension t).Sublist t
  | [] => .slnil
  | c :: t => by
      rw [withoutExtension]
      split
      · next rest hrest =>
        split at hrest
        · unfold afterExtension? at hrest
          dsimp only at hrest
          split at hrest
          · obtain rfl := Option.some.inj hrest
            exact (List.dropWhile_sublist _).cons c
          · cases hrest
        · cases hrest
      · exact (withoutExtension_sublist t).cons_cons c

/-- **What is taken off** is made of periods, letters and digits, and has no more than a last line
break behind it. -/
theorem exists_extension : ∀ t : Text, ∃ front extension rest : Text,
    t = front ++ (extension ++ rest) ∧ withoutExtension t = front ++ rest ∧
      (∀ c ∈ extension, c = '.' ∨ c.isAlphanum = true) ∧ Text.atEnd rest = true
  | [] => ⟨[], [], [], rfl, rfl, by simp, rfl⟩
  | c :: t => by
      rw [withoutExtension]
      split
      · -- The period of the extension: the letters and digits behind it reach to the end.
        next rest hrest =>
        split at hrest
        · next hc =>
          unfold afterExtension? at hrest
          dsimp only at hrest
          split at hrest
          · next hends =>
            obtain rfl := Option.some.inj hrest
            refine ⟨[], c :: t.takeWhile Char.isAlphanum, _, ?_, rfl, ?_, hends.2⟩
            · rw [List.nil_append, List.cons_append, List.takeWhile_append_dropWhile]
            · refine List.forall_mem_cons.2 ⟨.inl hc, fun d hd => .inr ?_⟩
              exact List.all_eq_true.1 List.all_takeWhile d hd
          · cases hrest
        · cases hrest
      · obtain ⟨front, extension, rest, ht, hwithout, hextension, hend⟩ := exists_extension t
        exact ⟨c :: front, extension, rest, congrArg _ ht, congrArg _ hwithout, hextension, hend⟩

end Permalink.Path
