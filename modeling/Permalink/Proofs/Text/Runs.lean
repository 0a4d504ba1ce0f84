import Mathlib.Data.List.Basic
import Mathlib.Data.List.TakeWhile
import Permalink.Text.Basic

/-!
# Text — runs

A class of characters cuts a text into *runs* of other characters, its words (`runs`).  Nothing of
a run is in the class, no run is empty, and a text of runs with a character of the class between
each two has just these runs (`runs_intercalate`).

**Squeezing** a text leaves its runs with one character between each two, and the same character at
each end that is within the class (`squeeze_eq`).  The proof goes along the runs (`induction_runs`).
Trimming what is squeezed takes both ends off (`trim_squeeze`).
-/

namespace Permalink.Text

variable {p : Char → Bool}

/-- A map that keeps each member keeps the list. -/
theorem map_eq_self {α : Type} {f : α → α} {l : List α} (h : ∀ a ∈ l, f a = a) : l.map f = l :=
  (List.map_congr_left h).trans (List.map_id l)

/-! ### Texts joined by a character -/

section Intercalate

variable {m : Char}

theorem intercalate_cons (u : Text) {us : List Text} (hus : us ≠ []) :
    List.intercalate [m] (u :: us) = u ++ m :: List.intercalate [m] us := by
  rw [List.intercalate_cons_of_ne_nil hus]
  simp

/-- One more character in front goes to the first text. -/
theorem intercalate_modifyHead (c : Char) {us : List Text} (hus : us ≠ []) :
    List.intercalate [m] (us.modifyHead (c :: ·)) = c :: List.intercalate [m] us := by
  obtain ⟨u, us, rfl⟩ := List.exists_cons_of_ne_nil hus
  by_cases hnil : us = []
  · subst hnil
    simp
  · rw [List.modifyHead_cons, intercalate_cons _ hnil, intercalate_cons _ hnil, List.cons_append]

/-- The texts of two lists joined are those of the one, the character, and those of the other. -/
theorem intercalate_append {us vs : List Text} (hus : us ≠ []) (hvs : vs ≠ []) :
    List.intercalate [m] (us ++ vs) = List.intercalate [m] us ++ m :: List.intercalate [m] vs := by
  induction us with
  | nil => exact absurd rfl hus
  | cons u us ih =>
      cases us with
      | nil => simpa using intercalate_cons u hvs
      | cons u' us =>
          rw [List.cons_append, intercalate_cons u (by simp), ih (by simp),
            intercalate_cons u (by simp), List.append_assoc, List.cons_append]

theorem intercalate_ne_nil {us : List Text} (hus : us ≠ []) (h : ∀ u ∈ us, u ≠ []) :
    List.intercalate [m] us ≠ [] := by
  obtain ⟨u, us, rfl⟩ := List.exists_cons_of_ne_nil hus
  have hu : u ≠ [] := h u List.mem_cons_self
  by_cases hnil : us = []
  · subst hnil
    simpa using hu
  · rw [intercalate_cons u hnil]
    exact List.append_ne_nil_of_left_ne_nil hu _

theorem length_le_of_mem {u : Text} {us : List Text} (h : u ∈ us) :
    u.length ≤ (List.intercalate [m] us).length := by
  induction us with
  | nil => cases h
  | cons u' us ih =>
      by_cases hus : us = []
      · subst hus
        rw [List.mem_singleton.1 h, List.intercalate_singleton]
      · rw [intercalate_cons u' hus, List.length_append, List.length_cons]
        rcases List.mem_cons.1 h with rfl | h
        · omega
        · have hlength := ih h
          omega

theorem map_intercalate (f : Char → Char) (us : List Text) :
    (List.intercalate [m] us).map f = List.intercalate [f m] (us.map (List.map f)) := by
  induction us with
  | nil => rfl
  | cons u us ih =>
      by_cases hus : us = []
      · subst hus
        simp
      · rw [intercalate_cons u hus, List.map_append, List.map_cons, ih, List.map_cons,
          intercalate_cons _ (by simpa using hus)]

/-- A filter that keeps the character between the texts filters each text. -/
theorem filter_intercalate {q : Char → Bool} (hm : q m = true) (us : List Text) :
    (List.intercalate [m] us).filter q = List.intercalate [m] (us.map (List.filter q)) := by
  induction us with
  | nil => rfl
  | cons u us ih =>
      by_cases hus : us = []
      · subst hus
        simp
      · rw [intercalate_cons u hus, List.filter_append, List.filter_cons_of_pos hm, ih,
          List.map_cons, intercalate_cons _ (by simpa using hus)]

/-- A filter that drops it leaves the filtered texts alone. -/
theorem filter_intercalate_flatten {q : Char → Bool} (hm : q m = false) (us : List Text) :
    (List.intercalate [m] us).filter q = us.flatten.filter q := by
  induction us with
  | nil => rfl
  | cons u us ih =>
      by_cases hus : us = []
      · subst hus
        simp
      · rw [intercalate_cons u hus, List.filter_append, List.filter_cons_of_neg (by simp [hm]), ih,
          List.flatten_cons, List.filter_append]

end Intercalate

/-! ### The runs of a text -/

/-- The runs of characters outside the class `p`, in their order. -/
def runs (p : Char → Bool) (t : Text) : List Text := (t.splitOnP p).filter (· ≠ [])

@[simp]
theorem runs_nil : runs p [] = [] := by simp [runs]

/-- **A character of the class** ends a run and belongs to none. -/
theorem runs_append_cons {c : Char} (hc : p c = true) (a b : Text) :
    runs p (a ++ c :: b) = runs p a ++ runs p b := by
  rw [runs, List.splitOnP_append_cons a b hc, List.filter_append]
  rfl

theorem runs_cons {c : Char} (hc : p c = true) (t : Text) : runs p (c :: t) = runs p t := by
  simpa using runs_append_cons hc [] t

theorem runs_of_forall {w : Text} (h : ∀ a ∈ w, p a = false) :
    runs p w = [w].filter (· ≠ []) := by
  rw [runs, List.splitOnP_eq_singleton h]

theorem runs_word {w : Text} (hw : w ≠ []) (h : ∀ a ∈ w, p a = false) : runs p w = [w] := by
  rw [runs_of_forall h]
  simp [hw]

theorem runs_word_append {w : Text} (hw : w ≠ []) (h : ∀ a ∈ w, p a = false) {c : Char}
    (hc : p c = true) (t : Text) : runs p (w ++ c :: t) = w :: runs p (c :: t) := by
  rw [runs_append_cons hc, runs_word hw h, runs_cons hc]
  rfl

/-- What holds of the empty text and of single runs, and is kept by a character of the class in
front and by a run in front of such a character, holds of every text. -/
theorem induction_runs {P : Text → Prop} (p : Char → Bool) (nil : P [])
    (sep : ∀ c t, p c = true → P t → P (c :: t))
    (word : ∀ w, w ≠ [] → (∀ a ∈ w, p a = false) → P w)
    (wordSep : ∀ w c t, w ≠ [] → (∀ a ∈ w, p a = false) → p c = true → P (c :: t) →
      P (w ++ c :: t)) (t : Text) : P t := by
  -- Along the text the run that has been begun grows.
  suffices h : P t ∧ ∀ w, w ≠ [] → (∀ a ∈ w, p a = false) → P (w ++ t) from h.1
  induction t with
  | nil => exact ⟨nil, fun w hw h => by simpa using word w hw h⟩
  | cons a t ih =>
      cases ha : p a with
      | true =>
          have hcons := sep a t ha ih.1
          exact ⟨hcons, fun w hw h => wordSep w a t hw h ha hcons⟩
      | false =>
          refine ⟨ih.2 [a] (by simp) (by simpa using ha), fun w hw h => ?_⟩
          have hgrown : ∀ b ∈ w ++ [a], p b = false := by
            intro b hb
            rcases List.mem_append.1 hb with hb | hb
            · exact h b hb
            · rw [List.mem_singleton.1 hb]
              exact ha
          simpa using ih.2 (w ++ [a]) (by simp) hgrown

/-- The runs together are the text without the class. -/
theorem flatten_runs (p : Char → Bool) (t : Text) :
    (runs p t).flatten = t.filter fun a => !p a := by
  induction t using induction_runs p with
  | nil => rfl
  | sep c t hc ih => rw [runs_cons hc, ih, List.filter_cons_of_neg (by simp [hc])]
  | word w hw h => rw [runs_word hw h, List.filter_eq_self.2 (by simpa using h)]; simp
  | wordSep w c t hw h hc ih =>
      have hkept : (w.filter fun a => !p a) = w := List.filter_eq_self.2 (by simpa using h)
      rw [runs_word_append hw h hc, List.flatten_cons, ih, List.filter_append, hkept]

theorem ne_nil_of_mem_runs {t w : Text} (h : w ∈ runs p t) : w ≠ [] := by
  simpa using (List.mem_filter.1 h).2

/-- A character of a run is one of the text and not of the class. -/
theorem mem_of_mem_runs {t w : Text} (h : w ∈ runs p t) {a : Char} (ha : a ∈ w) :
    a ∈ t ∧ p a = false := by
  have hmem : a ∈ (runs p t).flatten := List.mem_flatten.2 ⟨w, h, ha⟩
  rw [flatten_runs] at hmem
  simpa using hmem

/-- **Runs that were joined** by a character of the class are read back; empty texts are not. -/
theorem runs_intercalate {m : Char} (hm : p m = true) {us : List Text}
    (h : ∀ u ∈ us, ∀ a ∈ u, p a = false) :
    runs p (List.intercalate [m] us) = us.filter (· ≠ []) := by
  induction us with
  | nil => exact runs_nil
  | cons u us ih =>
      obtain ⟨hu, hus⟩ := List.forall_mem_cons.1 h
      by_cases hnil : us = []
      · subst hnil
        simpa using runs_of_forall hu
      · rw [intercalate_cons u hnil, runs_append_cons hm, runs_of_forall hu, ih hus,
          ← List.filter_append]
        rfl

/-- A map that turns one class into another, and keeps all else, keeps the runs. -/
theorem runs_map {q : Char → Bool} {f : Char → Char} {t : Text}
    (hp : ∀ a ∈ t, p a = true → q (f a) = true)
    (hq : ∀ a ∈ t, p a = false → f a = a ∧ q a = false) : runs q (t.map f) = runs p t := by
  have hword : ∀ w : Text, (∀ a ∈ w, p a = false) → (∀ a ∈ w, p a = false → f a = a ∧ q a = false) →
      w.map f = w ∧ ∀ a ∈ w, q a = false := fun w hw h =>
    ⟨map_eq_self fun a ha => (h a ha (hw a ha)).1,
      fun a ha => (h a ha (hw a ha)).2⟩
  induction t using induction_runs p with
  | nil => rfl
  | sep c t hc ih =>
      obtain ⟨hcf, hpt⟩ := List.forall_mem_cons.1 hp
      rw [List.map_cons, runs_cons (hcf hc), runs_cons hc, ih hpt (List.forall_mem_cons.1 hq).2]
  | word w hw h =>
      obtain ⟨hmap, hfree⟩ := hword w h hq
      rw [hmap, runs_word hw h, runs_word hw hfree]
  | wordSep w c t hw h hc ih =>
      obtain ⟨-, hpt⟩ := List.forall_mem_append.1 hp
      obtain ⟨hqw, hqt⟩ := List.forall_mem_append.1 hq
      obtain ⟨hmap, hfree⟩ := hword w h hqw
      have hcf := hpt c List.mem_cons_self hc
      have ih := ih hpt hqt
      rw [List.map_cons] at ih
      rw [List.map_append, hmap, List.map_cons, runs_word_append hw hfree hcf, ih,
        runs_word_append hw h hc]

/-! ### Squeezed and trimmed -/

/-- Text outside the class is passed over. -/
theorem squeeze_append {c : Char} {w : Text} (rest : Text) (h : ∀ a ∈ w, p a = false) :
    squeeze p c (w ++ rest) = w ++ squeeze p c rest := by
  induction w with
  | nil => rfl
  | cons a w ih =>
      obtain ⟨ha, hw⟩ := List.forall_mem_cons.1 h
      rw [List.cons_append, squeeze, if_neg (by simp [ha]), ih hw, List.cons_append]

/-- A text without runs is of the class throughout. -/
theorem forall_of_runs_eq_nil {t : Text} (h : runs p t = []) : ∀ a ∈ t, p a = true := by
  intro a ha
  have hnone : t.filter (fun a => !p a) = [] := by rw [← flatten_runs, h]; rfl
  simpa using List.filter_eq_nil_iff.1 hnone a ha

/-- **What is squeezed** are the runs with one character between each two, with one in front if the
text starts within the class, and one behind the last run if the text ends within it. -/
theorem squeeze_eq (c : Char) (t : Text) : squeeze p c t =
    (if t.head?.any p then [c] else []) ++ List.intercalate [c] (runs p t) ++
      (if runs p t ≠ [] ∧ t.getLast?.any p = true then [c] else []) := by
  induction t using induction_runs p with
  | nil => simp [squeeze]
  | sep a t ha ih =>
      have hlast : t = [] ∨ (a :: t).getLast? = t.getLast? := by
        cases t with
        | nil => exact .inl rfl
        | cons b t => exact .inr List.getLast?_cons_cons
      rw [squeeze, if_pos ha, runs_cons ha, ih]
      rcases hlast with rfl | hlast
      · simp [ha]
      · rw [hlast]
        by_cases hhead : t.head?.any p = true <;> simp [ha, hhead]
  | word w hw h =>
      have hhead : w.head?.any p = false := by
        obtain ⟨a, w, rfl⟩ := List.exists_cons_of_ne_nil hw
        simpa using h a List.mem_cons_self
      have hlast : w.getLast?.any p = false := by
        rw [List.getLast?_eq_some_getLast hw]
        exact h _ (List.getLast_mem hw)
      rw [squeeze_of_forall h, runs_word hw h]
      simp [hhead, hlast]
  | wordSep w a t hw h ha ih =>
      have hhead : (w ++ a :: t).head?.any p = false := by
        obtain ⟨b, w, rfl⟩ := List.exists_cons_of_ne_nil hw
        simpa using h b List.mem_cons_self
      rw [squeeze_append _ h, ih, runs_word_append hw h ha, hhead, List.getLast?_append_cons]
      -- Behind a last run the one character of the class is left over.
      by_cases hruns : runs p (a :: t) = []
      · have hlast : (a :: t).getLast?.any p = true := by
          rw [List.getLast?_eq_some_getLast (List.cons_ne_nil a t)]
          exact forall_of_runs_eq_nil hruns _ (List.getLast_mem _)
        simp [hruns, ha, hlast]
      · rw [intercalate_cons w hruns]
        simp [hruns, ha]

theorem trim_of_forall {t : Text} (h : ∀ a ∈ t, p a = true) : trim p t = [] := by
  rw [trim, List.dropWhile_eq_nil_iff.2 h]
  rfl

/-- Trimming takes off what is of the class at both ends of a text that has it at neither. -/
theorem trim_append_append {lead t trail : Text} (hlead : ∀ a ∈ lead, p a = true)
    (htrail : ∀ a ∈ trail, p a = true) (hfirst : ∃ a x, p a = false ∧ t = a :: x)
    (hlast : ∃ b y, p b = false ∧ t = y ++ [b]) : trim p (lead ++ t ++ trail) = t := by
  have hstart : (t ++ trail).dropWhile p = t ++ trail := by
    obtain ⟨a, x, ha, rfl⟩ := hfirst
    exact List.dropWhile_cons_of_neg (by simp [ha])
  have hend : t.reverse.dropWhile p = t.reverse := by
    obtain ⟨b, y, hb, rfl⟩ := hlast
    rw [List.reverse_append]
    exact List.dropWhile_cons_of_neg (by simp [hb])
  rw [trim, List.append_assoc, List.dropWhile_append_of_pos hlead, hstart, List.reverse_append,
    List.dropWhile_append_of_pos (by simpa using htrail), hend, List.reverse_reverse]

/-- Joined words start and end outside the class. -/
theorem ends_intercalate {c : Char} {us : List Text} (hne : us ≠ [])
    (h : ∀ u ∈ us, u ≠ [] ∧ ∀ a ∈ u, p a = false) :
    (∃ a x, p a = false ∧ List.intercalate [c] us = a :: x) ∧
      ∃ b y, p b = false ∧ List.intercalate [c] us = y ++ [b] := by
  induction us with
  | nil => exact absurd rfl hne
  | cons u us ih =>
      obtain ⟨⟨hu, hfree⟩, hus⟩ := List.forall_mem_cons.1 h
      obtain ⟨a, x, hax⟩ := List.exists_cons_of_ne_nil hu
      have ha : p a = false := hfree a (by simp [hax])
      by_cases hnil : us = []
      · subst hnil
        rw [List.intercalate_singleton]
        exact ⟨⟨a, x, ha, hax⟩, u.getLast hu, u.dropLast, hfree _ (List.getLast_mem hu),
          (List.dropLast_concat_getLast hu).symm⟩
      · obtain ⟨-, b, y, hb, hby⟩ := ih hnil hus
        rw [intercalate_cons u hnil]
        exact ⟨⟨a, x ++ c :: List.intercalate [c] us, ha, by simp [hax]⟩, b, u ++ c :: y, hb,
          by simp [hby]⟩

/-- **Squeezed and trimmed**, a text is its runs with one character between each two. -/
theorem trim_squeeze {c : Char} (hc : p c = true) (t : Text) :
    trim p (squeeze p c t) = List.intercalate [c] (runs p t) := by
  have hend : ∀ (q : Prop) [Decidable q], ∀ a ∈ (if q then [c] else []), p a = true := by
    intro q _ a ha
    split at ha
    · rw [List.mem_singleton.1 ha]
      exact hc
    · exact absurd ha List.not_mem_nil
  have hlead := hend (t.head?.any p = true)
  have htrail := hend (runs p t ≠ [] ∧ t.getLast?.any p = true)
  rw [squeeze_eq]
  by_cases hruns : runs p t = []
  · have hnone : List.intercalate [c] (runs p t) = [] := by rw [hruns, List.intercalate_nil]
    rw [hnone, List.append_nil]
    exact trim_of_forall (List.forall_mem_append.2 ⟨hlead, htrail⟩)
  · obtain ⟨hfirst, hlast⟩ := ends_intercalate (c := c) hruns fun w hw =>
      ⟨ne_nil_of_mem_runs hw, fun a ha => (mem_of_mem_runs hw ha).2⟩
    exact trim_append_append hlead htrail hfirst hlast

end Permalink.Text
