import Permalink.Text.Basic

/-!
# Template — path text

Two operations on the text of a path.  `withoutExtension` takes off the extension of the last
component: a dot and ASCII letters or digits at the end of the text, where a last line break does
not count and stays.  `collapseSlashes` leaves one slash of every run.
-/

namespace Permalink.Path

/-- What follows an extension, of which `t` is the text behind the dot: none if `t` does not
start with letters or digits that reach to the end. -/
def afterExtension? (t : Text) : Option Text :=
  let rest := t.dropWhile Char.isAlphanum
  if t.takeWhile Char.isAlphanum ≠ [] ∧ Text.atEnd rest then some rest else none

/-- The path without the extension of its last component. -/
def withoutExtension : Text → Text
  | [] => []
  | c :: t =>
    match if c = '.' then afterExtension? t else none with
    | some rest => rest
    | none => c :: withoutExtension t

/-- The path with one slash in place of every run of slashes. -/
def collapseSlashes (t : Text) : Text := Text.squeeze (· == '/') '/' t

theorem withoutExtension_cons_of_ne {c : Char} (h : c ≠ '.') (t : Text) :
    withoutExtension (c :: t) = c :: withoutExtension t := by
  simp [withoutExtension, h]

end Permalink.Path
