import Permalink.Slug.Options
import Permalink.Yaml.Document

/-!
# Slug — settings files

Slug options can be read from the text of a settings file.  A file whose value counts as false, an
empty one above all, gives the default options.
-/

namespace Permalink.SlugOptions

/-- The options that the text of a settings file gives. -/
def ofYaml (document : Text) : Except Fault SlugOptions :=
  match Yaml.read? document with
  | none => .error .unreadable
  | some v => ofValue (if v.truthy then v else .mapping [])

end Permalink.SlugOptions
