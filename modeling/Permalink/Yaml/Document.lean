import Permalink.Yaml.Scalar

/-!
# Yaml — documents

The subset in which settings are written: a document is empty, a single scalar or flow collection,
a block mapping with one `key: value` on each line, or a block list.  A value may be left out, and
is then null or the list of the lines below that start with a hyphen.  Lines that hold only blanks
or a comment do not count, and a comment may follow a value behind a blank.
-/

namespace Permalink.Yaml

/-- Is `c` a blank within a line? -/
def isSpace (c : Char) : Bool := c == ' ' || c == '\t'

/-- The text without blanks at its start. -/
def skip (t : Text) : Text := t.dropWhile isSpace

/-- Does nothing but blanks and a comment follow in a line? -/
def isSpent (t : Text) : Bool := (skip t).isEmpty || (skip t).head? == some '#'

/-! ### Values within a line -/

/-- Does a plain scalar end before `t`, of which `before` is the character in front? -/
def endsPlain (inFlow : Bool) (before : Char) (t : Text) : Bool :=
  match t with
  | [] => true
  | ':' :: rest => rest.head?.all isSpace
  | c :: _ => (c == '#' && isSpace before) || (inFlow && [',', '[', ']', '{', '}'].contains c)

/-- The characters of a plain scalar, and what follows it. -/
def plainText (inFlow : Bool) (before : Char) : Text → Text × Text
  | [] => ([], [])
  | c :: t =>
    if endsPlain inFlow before (c :: t) then ([], c :: t)
    else
      let (s, rest) := plainText inFlow c t
      (c :: s, rest)

mutual

/-- The value at the start of a text, and what follows it. -/
def value (inFlow : Bool) : (fuel : Nat) → Text → Option (Value × Text)
  | 0, _ => none
  | fuel + 1, t =>
    match t with
    | '[' :: t => (flowItems fuel (skip t)).map fun (xs, rest) => (.items .list xs, rest)
    | '{' :: t =>
      match skip t with
      | '}' :: rest => some (.mapping [], rest)
      | _ => none
    | '\'' :: t => (singleQuoted t).map fun (s, rest) => (.text s, rest)
    | '"' :: t => (doubleQuoted t).map fun (s, rest) => (.text s, rest)
    | t =>
      let (s, rest) := plainText inFlow ' ' t
      some (plain (s.reverse.dropWhile isSpace).reverse, rest)

/-- The items of a flow list up to its closing bracket, and what follows that. -/
def flowItems : (fuel : Nat) → Text → Option (List Value × Text)
  | 0, _ => none
  | _ + 1, ']' :: rest => some ([], rest)
  | fuel + 1, t => do
    let (v, t) ← value true fuel t
    match skip t with
    | ']' :: rest => return ([v], rest)
    | ',' :: rest =>
      let (vs, rest) ← flowItems fuel (skip rest)
      return (v :: vs, rest)
    | _ => none

end

/-- The value that a line holds. -/
def lineValue? (t : Text) : Option Value := do
  let (v, rest) ← value false (t.length + 2) (skip t)
  if isSpent rest then return v else none

/-! ### Lines -/

/-- The key at the start of a line, and what follows its colon. -/
def lineKey? (t : Text) : Option (Value × Text) := do
  let (k, rest) ← value false (t.length + 2) t
  match skip rest with
  | ':' :: rest => if rest.head?.all isSpace then return (k, rest) else none
  | _ => none

/-- The value of a line that starts with a hyphen; null if nothing follows that. -/
def lineItem? (t : Text) : Option Value :=
  match skip t with
  | '-' :: rest =>
    if isSpent rest then some .null
    else if rest.head?.all isSpace then lineValue? rest
    else none
  | _ => none

/-- The entries with `key` given a value: in its place if it is there, else in front. -/
def give (key v : Value) (entries : List (Value × Value)) : List (Value × Value) :=
  match key with
  | .text t =>
    if entries.any fun | (.text u, _) => u == t | _ => false then entries
    else (key, v) :: entries
  | _ => (key, v) :: entries

/-- The items before the first key of some lines, and the entries from there on.  Of two entries
with one key, the last counts. -/
def block : List Text → Option (List Value × List (Value × Value))
  | [] => some ([], [])
  | line :: lines => do
    let (pending, entries) ← block lines
    match lineItem? line with
    | some v => return (v :: pending, entries)
    | none =>
      let (key, rest) ← lineKey? line
      if isSpent rest then
        return ([], give key (if pending.isEmpty then .null else .items .list pending) entries)
      else if pending.isEmpty then return ([], give key (← lineValue? rest) entries)
      else none

/-- The value that a document holds; none if it is not of the subset. -/
def read? (document : Text) : Option Value :=
  let lines := (document.filter (· != '\r')).splitOn '\n' |>.filter fun t => !isSpent t
  match lines with
  | [] => some .null
  | [line] =>
    match lineValue? line with
    | some v => some v
    | none => ofBlock lines
  | _ => ofBlock lines
where
  /-- The value of the lines of a block. -/
  ofBlock (lines : List Text) : Option Value :=
    match block lines with
    | some (items, []) => some (.items .list items)
    | some ([], entries) => some (.mapping entries)
    | _ => none

end Permalink.Yaml
