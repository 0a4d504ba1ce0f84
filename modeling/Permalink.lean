import Permalink.Proofs.Resolution.Choice
import Permalink.Proofs.Resolution.Group
import Permalink.Proofs.Resolution.Integrity
import Permalink.Proofs.Resolution.Joined
import Permalink.Proofs.Resolution.Placement
import Permalink.Proofs.Resolution.Sequences
import Permalink.Proofs.Resolution.Substitution
import Permalink.Proofs.Resolution.Sufficiency
import Permalink.Proofs.Resolution.Trace
import Permalink.Proofs.Selection.Reading
import Permalink.Proofs.Slug.Blanks
import Permalink.Proofs.Slug.Breaks
import Permalink.Proofs.Slug.FixedPoints
import Permalink.Proofs.Slug.Independence
import Permalink.Proofs.Slug.Letters
import Permalink.Proofs.Slug.NormalForms
import Permalink.Proofs.Template.Grammar
import Permalink.Proofs.Template.RoundTrip
import Permalink.Proofs.Template.Scanning
import Permalink.Proofs.Template.Stripped
import Permalink.Resolution.Log
import Permalink.Session
import Permalink.Slug.Settings
import Permalink.Template.OfValue
import Permalink.Proofs.Slug.Pieces
import Permalink.Proofs.Slug.Settings
import Permalink.Proofs.Value.Index
import Permalink.Proofs.Selection.Trie
import Permalink.Proofs.Selection.WrittenKeys
import Permalink.Proofs.Value.Paths
import Permalink.Proofs.Value.Sequences
import Permalink.Proofs.Value.Composition
import Permalink.Proofs.Value.Data
import Permalink.Proofs.Value.Plain
import Permalink.Proofs.Resolution.Diagnostics
import Permalink.Proofs.Slug.WordStarts
import Permalink.Proofs.Template.Delimiters
import Permalink.Proofs.Template.Slashes
