import Permalink.Slug.Camel
import Permalink.Slug.Fold
import Permalink.Slug.Options
import Permalink.Text.Blank
import Permalink.Text.Lowercase

/-!
# Slug — making slugs

A slug is made of the words of a text with one separator between each two.  `SlugOptions.slug`
makes the replacements, turns punctuation into blanks and drops apostrophes, takes camel case apart
and folds to ASCII if the options say so, and turns every run of blanks, underscores and hyphens
into one blank.  What is left is composed, freed of markup, trimmed, put in lower case if the
options say so, and stripped of what is neither a word character nor a hyphen nor a blank.  Then
the blanks become separators, of which runs are reduced to one and none is left at the ends.

The steps from composing on are an assumption: `Slug.dropTags`, `Slug.clean` and the first line of
`Slug.separate` render what the slug function of `pymdownx.slugs` is taken to do.

`SlugOptions.pathSlug` makes the text of a value part of a path: the slugs of the pieces between its
slashes, with the slashes between.
-/

namespace Permalink

/-! ### Passes that do not depend on options -/

namespace Slug

/-- The apostrophes, straight and curved. -/
def isApostrophe (c : Char) : Bool := c == '\'' || c == '’'

/-- Punctuation turned into blanks, and apostrophes dropped. -/
def dropPunctuation (t : Text) : Text :=
  (t.map fun c => if Text.isWord c || Text.isBlank c || isApostrophe c then c else ' ').filter
    fun c => !isApostrophe c

/-- Does `c` separate words: a blank, an underscore or a hyphen? -/
def isWordBreak (c : Char) : Bool := Text.isBlank c || c == '_' || c == '-'

/-- The text without tags: what stands from a `<` to the next `>`.  If `inside`, the text starts
within a tag. -/
def dropTagsFrom (inside : Bool) : Text → Text
  | [] => []
  | c :: t =>
    if inside then dropTagsFrom (c != '>') t
    else if c == '<' && t.contains '>' then dropTagsFrom true t
    else c :: dropTagsFrom false t

/-- The text without tags. -/
def dropTags (t : Text) : Text := dropTagsFrom false t

/-- May `c` stay in a slug before its blanks become separators? -/
def isSlugChar (c : Char) : Bool := Text.isWord c || c == '-' || c == ' '

/-- The words of a text, still with blanks between them, in lower case if so wanted. -/
def clean (lowercase : Bool) (t : Text) : Text :=
  let t := (dropTags (Text.composed t)).trim Text.isBlank
  (if lowercase then Text.lower t else t).filter isSlugChar

/-- The blanks of a text made separators, with one for a run and none at the ends. -/
def separate (mark : Char) (t : Text) : Text :=
  let t := t.map fun c => if c == ' ' then mark else c
  Text.trim (· == mark) (Text.squeeze (· == mark) mark t)

theorem isSlugChar_of_mem_clean {l : Bool} {t : Text} {c : Char} (h : c ∈ clean l t) :
    isSlugChar c = true :=
  (List.mem_filter.1 h).2

end Slug

/-! ### Slugs -/

/-- A replacement made in a text; both its parts must be text. -/
def Replacement.apply (r : Replacement) (t : Text) : Except Fault Text :=
  match r.old, r.new with
  | .text old, .text new => .ok (Text.replaceAll old new t)
  | .text _, .null => .error (.replacement 2 "None")
  | .text _, v => .error (.replacement 2 v.qualifiedKindName)
  | v, _ => .error (.replacement 1 v.qualifiedKindName)

namespace SlugOptions

/-- The words of a text, with single blanks between them, still unfolded in case. -/
def words (o : SlugOptions) (t : Text) : Text :=
  let t := Slug.dropPunctuation t
  let t := if o.decamelize.truthy then Camel.split t else t
  let t := if o.stripDiacritics.truthy then Fold.toAscii t else t
  t.squeeze Slug.isWordBreak ' '

/-- The slug of a text in which the replacements have been made. -/
def replacedSlug (o : SlugOptions) (t : Text) : Text :=
  Slug.separate o.separator.mark (Slug.clean o.lowercase.truthy (o.words t))

/-- A text with the replacements made, in their order. -/
def replace (o : SlugOptions) (t : Text) : Except Fault Text :=
  o.replacements.foldlM (fun t r => r.apply t) t

/-- The slug of a text.  A backslash is a separator by its class but cannot be inserted. -/
def slug (o : SlugOptions) (t : Text) : Except Fault Text := do
  let t ← o.replace t
  if o.separator.mark = '\\' then .error .escape else .ok (o.replacedSlug t)

/-- The text of a value as part of a path: the slugs of its pieces between slashes. -/
def pathSlug (o : SlugOptions) (v : Value) : Except Fault Text := do
  let t ← v.toText
  let slugs ← (t.splitOn '/').mapM o.slug
  return List.intercalate ['/'] slugs

end SlugOptions
end Permalink
