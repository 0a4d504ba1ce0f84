import Permalink.Template.Basic
import Permalink.Value.Literal

/-!
# Template — templates given as values

Where a template comes from loosely typed data, it has to be text.  Any other value is rejected
with its shown form in the place of the template's text.
-/

namespace Permalink.Template

/-- The template that a value writes. -/
def ofValue : Value → Except Fault Template
  | .text t => (analyze t).mapError Fault.malformed
  | v => do
    let shown ← v.shown
    .error (.malformed { template := shown, defect := .notText })

end Permalink.Template
