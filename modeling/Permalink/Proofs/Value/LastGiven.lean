import Mathlib.Data.List.Nodup
import Permalink.Value.Serialized

/-!
# Value — what a name was last given

Of the entries of one name just the last one is in `lastGiven`: an entry with others of its name
behind it gives way to them (`mem_lastGiven`).  Where no name is given twice all entries are there,
as they stand (`lastGiven_of_nodup`).
-/

namespace Permalink
namespace Value

variable {entries front : List (Text × Json)} {e entry : Text × Json}

/-! ### Names given once -/

theorem put_of_not_mem (h : entry.1 ∉ entries.map Prod.fst) :
    lastGiven.put entries entry = entries ++ [entry] := by
  induction entries with
  | nil => rfl
  | cons e es ih =>
      rw [List.map_cons, List.mem_cons, not_or] at h
      rw [lastGiven.put, if_neg (Ne.symm h.1), ih h.2]
      rfl

/-- Entries of new names are put behind the others. -/
theorem foldl_put_of_nodup {front es : List (Text × Json)}
    (h : ((front ++ es).map Prod.fst).Nodup) : es.foldl lastGiven.put front = front ++ es := by
  induction es generalizing front with
  | nil => exact (List.append_nil _).symm
  | cons e es ih =>
      have hnew : e.1 ∉ front.map Prod.fst := by
        intro hmem
        rw [List.map_append, List.nodup_append] at h
        exact h.2.2 _ hmem _ List.mem_cons_self rfl
      rw [List.foldl_cons, put_of_not_mem hnew, ih (by simpa using h), List.append_assoc]
      rfl

/-- Where no name is given twice, each entry is what its name was last given. -/
theorem lastGiven_of_nodup (h : (entries.map Prod.fst).Nodup) : lastGiven entries = entries :=
  foldl_put_of_nodup h

/-! ### Names given more than once -/

/-- Putting an entry changes no name and adds its own, if it is a new one. -/
theorem mem_map_put {name : Text} :
    name ∈ (lastGiven.put entries entry).map Prod.fst ↔
      name = entry.1 ∨ name ∈ entries.map Prod.fst := by
  induction entries with
  | nil => simp [lastGiven.put]
  | cons a es ih =>
      rw [lastGiven.put]
      split
      · next h => simp [h]
      · rw [List.map_cons, List.mem_cons, ih, List.map_cons, List.mem_cons, or_left_comm]

theorem nodup_put (h : (entries.map Prod.fst).Nodup) :
    ((lastGiven.put entries entry).map Prod.fst).Nodup := by
  induction entries with
  | nil => simp [lastGiven.put]
  | cons a es ih =>
      obtain ⟨ha, hes⟩ := List.nodup_cons.1 h
      rw [lastGiven.put]
      split
      · next he =>
        rw [List.map_cons, ← he]
        exact h
      · next he =>
        refine List.nodup_cons.2 ⟨?_, ih hes⟩
        rw [mem_map_put, not_or]
        exact ⟨he, ha⟩

/-- The entry that is put takes the place of the one of its name. -/
theorem mem_put (h : (entries.map Prod.fst).Nodup) :
    e ∈ lastGiven.put entries entry ↔ e = entry ∨ e ∈ entries ∧ e.1 ≠ entry.1 := by
  induction entries with
  | nil => simp [lastGiven.put]
  | cons a es ih =>
      obtain ⟨ha, hes⟩ := List.nodup_cons.1 h
      rw [lastGiven.put]
      split
      · next he =>
        -- The names of the entries behind it are others.
        have hothers : e ∈ es → e.1 ≠ entry.1 := fun hmem heq =>
          ha (List.mem_map.2 ⟨e, hmem, heq.trans he.symm⟩)
        grind
      · next he => grind

/-- What is behind an element in a list, which is the first one or one of the others. -/
theorem exists_cons_suffix_iff {α : Type} {P : List α → Prop} {a b : α} {as : List α} :
    (∃ after, b :: after <:+ a :: as ∧ P after) ↔
      b = a ∧ P as ∨ ∃ after, b :: after <:+ as ∧ P after := by
  simp only [List.suffix_cons_iff, List.cons.injEq, or_and_right, exists_or, and_assoc,
    exists_and_left, exists_eq_left]

/-- What is there of the entries behind others: the last of each name, and the others whose names
are not given again. -/
theorem mem_foldl_put {es : List (Text × Json)} (h : (front.map Prod.fst).Nodup) :
    e ∈ es.foldl lastGiven.put front ↔
      (∃ after, e :: after <:+ es ∧ ∀ e' ∈ after, e'.1 ≠ e.1) ∨
        e ∈ front ∧ ∀ e' ∈ es, e'.1 ≠ e.1 := by
  induction es generalizing front with
  | nil => simp
  | cons a es ih =>
      rw [List.foldl_cons, ih (nodup_put h), mem_put h, exists_cons_suffix_iff,
        List.forall_mem_cons]
      grind

/-- **An entry is left just if it is the last of its name.** -/
theorem mem_lastGiven :
    e ∈ lastGiven entries ↔ ∃ after, e :: after <:+ entries ∧ ∀ e' ∈ after, e'.1 ≠ e.1 := by
  have hnone : (([] : List (Text × Json)).map Prod.fst).Nodup := List.nodup_nil
  rw [lastGiven, mem_foldl_put hnone]
  exact or_iff_left fun h => absurd h.1 List.not_mem_nil

end Value
end Permalink
