import Permalink.Text.Basic

/-!
# Template — field references

A field reference names a field of a field and so on, root first, with two underscores between
the names: `parent__(File)__name`.  Its *components* are the names and the union markers between
them.  Two readings are given: `components` cuts the reference at its delimiters, `dotted` writes
a period for each.
-/

namespace Permalink.Field

/-- The pieces of a text between its pairs of underscores, the leftmost pairs first. -/
def pieces : Text → List Text
  | '_' :: '_' :: t => [] :: pieces t
  | c :: t => (pieces t).modifyHead (c :: ·)
  | [] => [[]]

/-- The components of a field reference; the empty reference has none. -/
def components (field : Text) : List Text :=
  if field.isEmpty then [] else pieces field

/-- The reference with periods for its delimiters. -/
def dotted (field : Text) : Text := Text.replaceAll ['_', '_'] ['.'] field

/-- Field names joined by periods. -/
def joinDotted (names : List Text) : Text := List.intercalate ['.'] names

theorem pieces_ne_nil (t : Text) : pieces t ≠ [] := by
  fun_induction pieces t with
  | case1 => simp
  | case2 _ _ _ ih => cases h : pieces _ <;> simp_all
  | case3 => simp

theorem components_nil : components [] = [] := rfl

theorem components_of_ne_nil {t : Text} (h : t ≠ []) : components t = pieces t := by
  simp [components, h]

end Permalink.Field
