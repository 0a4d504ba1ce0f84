import Permalink.Proofs.Template.Collapse
import Permalink.Proofs.Text.Runs

/-!
# Template — collapsed slashes are a normal form

A path with one slash in place of each run of slashes has no two slashes in a row, has the pieces
between the slashes of the path, and starts or ends with a slash where the path does
(`IsCollapsed`).  There is one such path only (`IsCollapsed.eq`): the pieces with a slash between
each two, and a slash at each end that has one.

So collapsing is known by what it keeps (`collapseSlashes_eq_iff`), and the result for two paths
put together can be had from their results (`collapseSlashes_normal`).
-/

namespace Permalink

namespace Text

/-! ### What squeezing keeps -/

variable {p : Char → Bool} {c : Char}

/-- The runs of a text are those of what it is squeezed to. -/
theorem runs_squeeze (hc : p c = true) (t : Text) : runs p (squeeze p c t) = runs p t := by
  induction t using induction_runs p with
  | nil => rfl
  | sep a t ha ih =>
      rw [squeeze, if_pos ha, runs_cons ha]
      split
      · exact ih
      · rw [runs_cons hc, ih]
  | word w hw h => rw [squeeze_of_forall h]
  | wordSep w a t hw h ha ih =>
      have hhead : (squeeze p c (a :: t)).head?.any p = true := by
        rw [any_head?_squeeze hc]
        exact ha
      rw [squeeze_append _ h, runs_word_append hw h ha, ← ih]
      cases hs : squeeze p c (a :: t) with
      | nil => simp [hs] at hhead
      | cons b s =>
          have hb : p b = true := by simpa [hs] using hhead
          exact runs_word_append hw h hb s

/-- What is squeezed ends as the text does. -/
theorem getLast?_squeeze (c : Char) (t : Text) :
    (squeeze (· == c) c t).getLast? = t.getLast? := by
  induction t with
  | nil => rfl
  | cons a t ih =>
      cases t with
      | nil => by_cases ha : a = c <;> simp [squeeze, ha]
      | cons b t =>
          rw [squeeze, List.getLast?_cons_cons, ← ih]
          have hne : (squeeze (· == c) c (b :: t)).getLast? ≠ none := by rw [ih]; simp
          obtain ⟨d, hd⟩ := Option.ne_none_iff_exists'.1 hne
          split
          · split
            · rfl
            · rw [List.getLast?_cons, hd]; rfl
          · rw [List.getLast?_cons, hd]; rfl

/-- **Nothing that is squeezed** stands twice in a row. -/
theorem no_pair_squeeze (c : Char) (t : Text) : ¬ [c, c] <:+: squeeze (· == c) c t := by
  induction t with
  | nil => simp [squeeze]
  | cons a t ih =>
      have hstart : ∀ {b : Char}, [c, c] <:+: b :: squeeze (· == c) c t →
          b = c ∧ t.head?.any (· == c) = true := fun {b} h => by
        obtain ⟨rfl, hp⟩ := List.cons_prefix_cons.1 ((List.infix_cons_iff.1 h).resolve_right ih)
        obtain ⟨s, hs⟩ := hp
        refine ⟨rfl, ?_⟩
        rw [← any_head?_squeeze (p := (· == c)) (c := c) (by simp), ← hs]
        simp
      rw [squeeze]
      split
      · split
        · exact ih
        · next hnext => exact fun h => hnext (hstart h).2
      · next ha => exact fun h => ha (by simp [(hstart h).1])

/-- A text is squeezed already just if nothing stands twice in a row. -/
theorem squeeze_eq_self_iff {c : Char} {t : Text} :
    squeeze (· == c) c t = t ↔ ¬ [c, c] <:+: t := by
  constructor
  · intro h
    rw [← h]
    exact no_pair_squeeze c t
  · intro h
    induction t with
    | nil => rfl
    | cons a t ih =>
        have hrest := ih fun hi => h (List.infix_cons hi)
        rw [squeeze, hrest]
        split
        · next ha =>
          obtain rfl : a = c := by simpa using ha
          rw [if_neg]
          intro hnext
          cases t with
          | nil => simp at hnext
          | cons b t =>
              obtain rfl : b = a := by simpa using hnext
              exact h ⟨[], t, rfl⟩
        · rfl

end Text

namespace Path

/-- The path `u` has single slashes where `t` has runs of slashes. -/
structure IsCollapsed (t u : Text) : Prop where
  /-- No two slashes stand in a row. -/
  no_pair : ¬ ['/', '/'] <:+: u
  /-- The other characters are those of `t`, in order. -/
  chars : u.filter (· != '/') = t.filter (· != '/')
  /-- So are the pieces between the slashes, as far as they are not empty. -/
  pieces : Text.runs (· == '/') u = Text.runs (· == '/') t
  starts : u.head? = some '/' ↔ t.head? = some '/'
  ends : u.getLast? = some '/' ↔ t.getLast? = some '/'

theorem any_eq_slash_iff {a : Option Char} : a.any (· == '/') = true ↔ a = some '/' := by
  simp [Option.any_eq_true]

theorem isCollapsed_collapseSlashes (t : Text) : IsCollapsed t (collapseSlashes t) := by
  have hpieces : Text.runs (· == '/') (collapseSlashes t) = Text.runs (· == '/') t :=
    Text.runs_squeeze (p := (· == '/')) rfl t
  exact {
    no_pair := Text.no_pair_squeeze '/' t
    chars := by
      have hchars : ∀ u : Text, u.filter (· != '/') = (Text.runs (· == '/') u).flatten := fun u =>
        (Text.flatten_runs (· == '/') u).symm
      rw [hchars, hchars, hpieces]
    pieces := hpieces
    starts := by
      rw [← any_eq_slash_iff, ← any_eq_slash_iff]
      exact Bool.eq_iff_iff.1 (Text.any_head?_squeeze (p := (· == '/')) rfl t)
    ends := by rw [collapseSlashes, Text.getLast?_squeeze] }

/-- **There is one collapsed path only.** -/
theorem IsCollapsed.eq {t u : Text} (h : IsCollapsed t u) : collapseSlashes t = u := by
  have hstarts : t.head?.any (· == '/') = u.head?.any (· == '/') := by
    rw [Bool.eq_iff_iff, any_eq_slash_iff, any_eq_slash_iff, h.starts]
  have hends : t.getLast?.any (· == '/') = u.getLast?.any (· == '/') := by
    rw [Bool.eq_iff_iff, any_eq_slash_iff, any_eq_slash_iff, h.ends]
  calc collapseSlashes t
      = collapseSlashes u := by
        rw [collapseSlashes, collapseSlashes, Text.squeeze_eq, Text.squeeze_eq, hstarts, hends,
          h.pieces]
    _ = u := Text.squeeze_eq_self_iff.2 h.no_pair

/-- **Collapsing is known by what it keeps.** -/
theorem collapseSlashes_eq_iff {t u : Text} : collapseSlashes t = u ↔ IsCollapsed t u :=
  ⟨fun h => h ▸ isCollapsed_collapseSlashes t, IsCollapsed.eq⟩

/-- **Collapsed paths are normal forms**, which paths put together have by those of their parts. -/
theorem collapseSlashes_normal :
    (∀ t u, collapseSlashes t = u ↔ IsCollapsed t u) ∧
    (∀ t, collapseSlashes t = t ↔ ¬ ['/', '/'] <:+: t) ∧
    ∀ a b, collapseSlashes (a ++ b) = collapseSlashes (collapseSlashes a ++ collapseSlashes b) := by
  refine ⟨fun t u => collapseSlashes_eq_iff, fun t => Text.squeeze_eq_self_iff, fun a b => ?_⟩
  calc collapseSlashes (a ++ b)
      = collapseSlashes (a ++ collapseSlashes b) :=
        (Text.squeeze_append_squeeze (p := (· == '/')) rfl a b).symm
    _ = collapseSlashes (collapseSlashes a ++ collapseSlashes b) :=
        (Text.squeeze_squeeze_append (p := (· == '/')) rfl a _).symm

end Path
end Permalink
