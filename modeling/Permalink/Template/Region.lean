import Permalink.Template.Malformed

/-!
# Template — regions

The regions of a template are its parts from an opening to a closing brace.  Regions do not nest,
and each brace belongs to one.  `Region.scan` lists them in order, or names the first brace that
fits none: the second of two opening braces, a closing brace that none opened, or the opening
brace that none closes.
-/

namespace Permalink

/-- A braced part of a template: the offset of its opening brace and the one behind its closing
brace. -/
structure Region where
  start : Nat
  stop : Nat
  deriving DecidableEq

namespace Region

/-- The regions of a text that starts at offset `i`, inside a region if one is open. -/
def scanFrom (i : Nat) (openAt : Option Nat) : Text → Except (Defect × Nat) (List Region)
  | [] =>
    match openAt with
    | none => .ok []
    | some k => .error (.unclosed, k)
  | '{' :: t =>
    match openAt with
    | none => scanFrom (i + 1) (some i) t
    | some _ => .error (.nested, i)
  | '}' :: t =>
    match openAt with
    | none => .error (.unopened, i)
    | some k => (scanFrom (i + 1) none t).map (⟨k, i + 1⟩ :: ·)
  | _ :: t => scanFrom (i + 1) openAt t

/-- The regions of a template, in order. -/
def scan (template : Text) : Except Malformed (List Region) :=
  (scanFrom 0 none template).mapError fun e => ⟨template, e.1, some e.2⟩

end Region
end Permalink
