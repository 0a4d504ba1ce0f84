import Mathlib.Order.Bounds.Basic
import Permalink.Proofs.Template.Reading

/-!
# Template — scanning, and the first offence

The scanner accepts a text just if its braces alternate (`Text.Alternates`), and then lists what
lies between each opening brace and the next closing one (`Region.Listed`).  Any other text it
rejects at its first offence (`Region.IsOffence`): the first character at which the text can no
longer go on to one that is accepted or, where no character is to blame, the brace left open.

The proofs follow what has been read when the scanner stands at an offset (`Region.Front`): written
parts and, if a region is open, the start of it.  A character leads from one front to the next,
unless it is a brace that does not fit, and there the scanner stops (`Region.Stops`).

Of a text that can be scanned, analysis rejects the leftmost region that makes no segment
(`exists_leftmost_of_analyze`).
-/

namespace Permalink

open Template

/-! ### Alternating braces -/

/-- The braces of a text, in order. -/
def Text.braces (t : Text) : Text := t.filter fun c => c == '{' || c == '}'

/-- So many pairs of an opening and a closing brace. -/
def Text.bracePairs (n : Nat) : Text := (List.replicate n ['{', '}']).flatten

/-- The braces of a text alternate, an opening one first and a closing one last. -/
def Text.Alternates (t : Text) : Prop := ∃ n, t.braces = bracePairs n

namespace Text

theorem braces_append (t u : Text) : braces (t ++ u) = braces t ++ braces u :=
  List.filter_append ..

theorem braces_open (t : Text) : braces ('{' :: t) = '{' :: braces t := rfl

theorem BraceFree.braces_eq {t : Text} (h : t.BraceFree) : braces t = [] := by
  refine List.filter_eq_nil_iff.2 fun c hc => ?_
  simp [h c hc]

theorem bracePairs_succ (n : Nat) : bracePairs (n + 1) = '{' :: '}' :: bracePairs n := rfl

/-- What stands behind pairs of braces in pairs of braces are pairs of braces. -/
theorem exists_bracePairs_of_append {n m : Nat} {u : Text}
    (h : bracePairs n ++ u = bracePairs m) : ∃ k, u = bracePairs k := by
  induction n generalizing m with
  | zero => exact ⟨m, h⟩
  | succ n ih =>
      cases m with
      | zero => cases h
      | succ m =>
          rw [bracePairs_succ, bracePairs_succ] at h
          exact ih (List.cons.inj (List.cons.inj h).2).2

end Text

/-- The braces of written parts are a pair for each region. -/
theorem Template.exists_braces_written : ∀ {parts : List Part}, (∀ p ∈ parts, p.BraceFree) →
    ∃ n, (written parts).braces = Text.bracePairs n
  | [], _ => ⟨0, rfl⟩
  | .plain t :: parts, h => by
      obtain ⟨ht, hparts⟩ := List.forall_mem_cons.1 h
      obtain ⟨n, hn⟩ := exists_braces_written hparts
      exact ⟨n, by rw [written_cons, Text.braces_append, Part.text, ht.braces_eq, hn]; rfl⟩
  | .region body :: parts, h => by
      obtain ⟨hbody, hparts⟩ := List.forall_mem_cons.1 h
      obtain ⟨n, hn⟩ := exists_braces_written hparts
      refine ⟨n + 1, ?_⟩
      rw [written_cons, Text.braces_append, Part.text, Text.braces_open, Text.braces_append,
        hbody.braces_eq, hn]
      rfl

namespace Region

/-! ### What has been read -/

/-- What the scanner has read when no region is open, or one from the given offset on. -/
inductive Front : Option Nat → Text → Prop where
  | outside {parts : List Part} : (∀ p ∈ parts, p.BraceFree) → Front none (written parts)
  | inside {parts : List Part} {body : Text} : (∀ p ∈ parts, p.BraceFree) → body.BraceFree →
      Front (some (written parts).length) (written parts ++ '{' :: body)

namespace Front

theorem nil : Front none [] := by
  have hparts : ∀ p ∈ ([] : List Part), p.BraceFree := nofun
  exact .outside hparts

/-- A character that is no brace is read inside a region and outside. -/
theorem concat {openAt : Option Nat} {front : Text} {c : Char} (h : Front openAt front)
    (hc : c ≠ '{' ∧ c ≠ '}') : Front openAt (front ++ [c]) := by
  cases h with
  | @outside parts hparts =>
      have hparts' : ∀ p ∈ parts ++ [.plain [c]], p.BraceFree :=
        List.forall_mem_append.2 ⟨hparts, List.forall_mem_singleton.2 (.singleton hc)⟩
      simpa [written_append, written, Part.text] using outside hparts'
  | @inside parts body hparts hbody =>
      have hbody' : (body ++ [c]).BraceFree :=
        Text.BraceFree.append_iff.2 ⟨hbody, .singleton hc⟩
      simpa using inside hparts hbody'

/-- An opening brace is read outside of regions. -/
theorem opened {front : Text} (h : Front none front) :
    Front (some front.length) (front ++ ['{']) := by
  cases h with
  | outside hparts => exact .inside hparts .nil

/-- A closing brace is read inside a region. -/
theorem closed {k : Nat} {front : Text} (h : Front (some k) front) :
    Front none (front ++ ['}']) := by
  cases h with
  | @inside parts body hparts hbody =>
      have hparts' : ∀ p ∈ parts ++ [.region body], p.BraceFree :=
        List.forall_mem_append.2 ⟨hparts, List.forall_mem_singleton.2 hbody⟩
      simpa [written_append, written, Part.text] using outside hparts'

/-- The scanner goes on behind what it has read. -/
theorem scanFrom_append {openAt : Option Nat} {front : Text} (h : Front openAt front)
    (rest : Text) : ∃ regions : List Region, scanFrom 0 none (front ++ rest) =
      (scanFrom front.length openAt rest).map (regions ++ ·) := by
  cases h with
  | @outside parts hparts =>
      refine ⟨regionsFrom 0 parts, ?_⟩
      rw [scanFrom_written_append 0 rest hparts, Nat.zero_add]
  | @inside parts body hparts hbody =>
      have hlength : (written parts ++ '{' :: body).length =
          (written parts).length + 1 + body.length := by simp; omega
      refine ⟨regionsFrom 0 parts, ?_⟩
      rw [List.append_assoc, List.cons_append, scanFrom_written_append 0 _ hparts, Nat.zero_add,
        scanFrom, scanFrom_plain _ _ _ hbody, hlength]

/-- The braces of what has been read are pairs and, in a region, one more that opens it. -/
theorem exists_braces {openAt : Option Nat} {front : Text} (h : Front openAt front) :
    ∃ n, front.braces = Text.bracePairs n ++ if openAt.isSome then ['{'] else [] := by
  cases h with
  | outside hparts =>
      obtain ⟨n, hn⟩ := exists_braces_written hparts
      exact ⟨n, by simp [hn]⟩
  | inside hparts hbody =>
      obtain ⟨n, hn⟩ := exists_braces_written hparts
      exact ⟨n, by simp [Text.braces_append, Text.braces_open, hn, hbody.braces_eq]⟩

end Front

/-! ### Where the scanner stops -/

/-- The text is rejected for the defect, at the offset: for a brace that does not fit behind what
has been read, or for the one that opens a region which does not end. -/
inductive Stops : Text → Defect → Nat → Prop where
  | unopened {front : Text} (rest : Text) : Front none front →
      Stops (front ++ '}' :: rest) .unopened front.length
  | nested {k : Nat} {front : Text} (rest : Text) : Front (some k) front →
      Stops (front ++ '{' :: rest) .nested front.length
  | unclosed {k : Nat} {front : Text} : Front (some k) front → Stops front .unclosed k

/-- **Step by step**, what has been read grows until the scanner stops. -/
theorem Front.stops {openAt : Option Nat} {front t : Text} {d : Defect} {i k : Nat}
    (h : Front openAt front) (hi : front.length = i)
    (herror : scanFrom i openAt t = .error (d, k)) : Stops (front ++ t) d k := by
  -- The cases are those of the scanner: the end, a brace that opens or closes, a character.
  fun_induction scanFrom i openAt t generalizing front with
  | case1 => cases herror
  | case2 i o =>
      cases herror
      rw [List.append_nil]
      exact .unclosed h
  | case3 i t ih =>
      subst hi
      have hstops := ih h.opened (List.length_append ..) herror
      rwa [List.append_assoc] at hstops
  | case4 i t o =>
      subst hi
      cases herror
      exact .nested t h
  | case5 i t =>
      subst hi
      cases herror
      exact .unopened t h
  | case6 i t o ih =>
      subst hi
      have hstops := ih h.closed (List.length_append ..) (Outcome.map_eq_error.1 herror)
      rwa [List.append_assoc] at hstops
  | case7 i openAt c t hopen hclose ih =>
      subst hi
      have hstops := ih (h.concat ⟨hopen, hclose⟩) (List.length_append ..) herror
      rwa [List.append_assoc] at hstops

theorem stops_of_scan {t : Text} {m : Malformed} (h : scan t = .error m) :
    ∃ d, ∃ k : Nat, m = ⟨t, d, some k⟩ ∧ Stops t d k := by
  rw [scan] at h
  cases hscan : scanFrom 0 none t with
  | ok regions =>
      rw [hscan] at h
      cases h
  | error e =>
      rw [hscan] at h
      cases h
      exact ⟨e.1, e.2, rfl, Front.nil.stops rfl hscan⟩

/-! ### Texts that can go on to one that is accepted -/

/-- Some text behind `t` makes it one of which the regions can be listed. -/
def Viable (t : Text) : Prop := ∃ (tail : Text) (regions : List Region),
  scan (t ++ tail) = .ok regions

theorem Viable.of_append {t tail : Text} (h : Viable (t ++ tail)) : Viable t := by
  obtain ⟨more, regions, h⟩ := h
  exact ⟨tail ++ more, regions, by rwa [← List.append_assoc]⟩

/-- What has been read can go on: a region that is open only has to be closed. -/
theorem Front.viable {openAt : Option Nat} {front : Text} (h : Front openAt front) :
    Viable front := by
  have haccepted : ∀ {front : Text}, Front none front → ∃ regions, scan front = .ok regions := by
    rintro _ ⟨hparts⟩
    exact ⟨_, scan_written hparts⟩
  cases openAt with
  | none => exact ⟨[], by simpa using haccepted h⟩
  | some k => exact ⟨['}'], haccepted h.closed⟩

/-- A text cannot go on behind a character for which the scanner stops. -/
theorem Front.not_viable {openAt : Option Nat} {front : Text} {c : Char} {e : Defect × Nat}
    (h : Front openAt front)
    (hstop : ∀ rest, scanFrom front.length openAt (c :: rest) = .error e) :
    ¬ Viable (front ++ [c]) := by
  rintro ⟨tail, regions, haccepted⟩
  obtain ⟨before, hscan⟩ := h.scanFrom_append (c :: tail)
  rw [scan, Outcome.mapError_eq_ok, List.append_assoc, List.singleton_append, hscan, hstop]
    at haccepted
  cases haccepted

/-- The first offence of a text: the last opening brace if the text can go on to one that is
accepted, and otherwise the first character with which it no longer can. -/
def IsOffence (t : Text) (i : Nat) : Prop :=
  (Viable t → IsGreatest {k | t[k]? = some '{'} i) ∧
    (¬ Viable t → IsLeast {k | ¬ Viable (t.take (k + 1))} i)

/-- A character that cannot go behind what has been read is the first offence. -/
theorem Front.isOffence {openAt : Option Nat} {front : Text} {c : Char} {e : Defect × Nat}
    (h : Front openAt front)
    (hstop : ∀ rest, scanFrom front.length openAt (c :: rest) = .error e) (rest : Text) :
    IsOffence (front ++ c :: rest) front.length := by
  have hdead : ¬ Viable (front ++ [c]) := h.not_viable hstop
  have htext : front ++ c :: rest = front ++ [c] ++ rest := by simp
  refine ⟨fun hviable => ?_, fun _ => ⟨?_, fun j hj => ?_⟩⟩
  · rw [htext] at hviable
    exact absurd hviable.of_append hdead
  · have htake : (front ++ c :: rest).take (front.length + 1) = front ++ [c] := by
      rw [htext]
      exact List.take_left' (List.length_append ..)
    rwa [Set.mem_ofPred_eq, htake]
  · -- Before that character, all has been read, and what has been read can go on.
    by_contra hlt
    have hshort : (front ++ c :: rest).take (j + 1) = front.take (j + 1) :=
      List.take_append_of_le_length (by omega)
    have hviable : Viable (front.take (j + 1) ++ front.drop (j + 1)) := by
      rw [List.take_append_drop]
      exact h.viable
    refine hj ?_
    rw [hshort]
    exact hviable.of_append

/-- An open region starts at the last opening brace. -/
theorem Front.isGreatest {k : Nat} {front : Text} (h : Front (some k) front) :
    IsGreatest {j | front[j]? = some '{'} k := by
  cases h with
  | @inside parts body hparts hbody =>
      refine ⟨by simp, fun j hj => ?_⟩
      by_contra hlt
      obtain ⟨n, rfl⟩ : ∃ n, j = (written parts).length + (n + 1) :=
        ⟨j - (written parts).length - 1, by omega⟩
      have hbrace : body[n]? = some '{' := by
        rwa [Set.mem_ofPred_eq, List.getElem?_append_right (by omega), Nat.add_sub_cancel_left,
          List.getElem?_cons_succ] at hj
      exact (hbody _ (List.mem_of_getElem? hbrace)).1 rfl

theorem Stops.isOffence {t : Text} {d : Defect} {k : Nat} (h : Stops t d k) : IsOffence t k := by
  cases h with
  | unopened rest hfront => exact hfront.isOffence (fun _ => rfl) rest
  | nested rest hfront => exact hfront.isOffence (fun _ => rfl) rest
  | unclosed hfront => exact ⟨fun _ => hfront.isGreatest, fun h => absurd hfront.viable h⟩

/-- A text that the scanner rejects has no alternating braces. -/
theorem Stops.not_alternates {t : Text} {d : Defect} {k : Nat} (h : Stops t d k) :
    ¬ t.Alternates := by
  rintro ⟨m, hm⟩
  cases h with
  | unopened rest hfront =>
      obtain ⟨n, hn⟩ := hfront.exists_braces
      rw [Text.braces_append, hn, List.append_assoc] at hm
      obtain ⟨_ | k, hk⟩ := Text.exists_bracePairs_of_append hm
      · cases hk
      · cases (List.cons.inj hk).1
  | nested rest hfront =>
      obtain ⟨n, hn⟩ := hfront.exists_braces
      rw [Text.braces_append, hn, List.append_assoc] at hm
      obtain ⟨_ | k, hk⟩ := Text.exists_bracePairs_of_append hm
      · cases hk
      · cases (List.cons.inj (List.cons.inj hk).2).1
  | unclosed hfront =>
      obtain ⟨n, hn⟩ := hfront.exists_braces
      rw [hn] at hm
      obtain ⟨_ | k, hk⟩ := Text.exists_bracePairs_of_append hm
      · cases hk
      · cases (List.cons.inj hk).2

theorem exists_scan_iff {t : Text} : (∃ regions, scan t = .ok regions) ↔ t.Alternates := by
  constructor
  · rintro ⟨regions, h⟩
    obtain ⟨parts, hparts, rfl, -⟩ := exists_parts_of_scan h
    exact exists_braces_written hparts
  · intro h
    cases hscan : scan t with
    | ok regions => exact ⟨regions, rfl⟩
    | error m =>
        obtain ⟨d, k, -, hstops⟩ := stops_of_scan hscan
        exact absurd h hstops.not_alternates

/-! ### The regions that are listed -/

/-- The region reaches from an opening brace of the text to the next closing one. -/
structure Spans (t : Text) (r : Region) : Prop where
  opens : t[r.start]? = some '{'
  closes : ∃ k, r.stop = k + 1 ∧ IsLeast {j | r.start < j ∧ t[j]? = some '}'} k

/-- The regions of a text: all that reach from an opening brace to the next closing one, one behind
the other, with no brace inside of them and none between them. -/
structure Listed (t : Text) (regions : List Region) : Prop where
  mem_iff : ∀ r, r ∈ regions ↔ Spans t r
  apart : regions.Pairwise fun a b => a.stop ≤ b.start
  /-- A brace opens or closes a region. -/
  ends : ∀ i c, t[i]? = some c → c = '{' ∨ c = '}' →
    ∃ r ∈ regions, i = r.start ∨ i + 1 = r.stop

/-- A region that is listed stands between the parts before and behind it. -/
theorem exists_of_mem_regionsFrom : ∀ {parts : List Part} {i : Nat} {r : Region},
    r ∈ regionsFrom i parts → ∃ before body after, parts = before ++ .region body :: after ∧
      r.start = i + (written before).length ∧ r.stop = r.start + (body.length + 2)
  | .plain t :: parts, i, r, h => by
      have hbehind : r ∈ regionsFrom (i + t.length) parts := h
      obtain ⟨before, body, after, hparts, hstart, hstop⟩ := exists_of_mem_regionsFrom hbehind
      refine ⟨.plain t :: before, body, after, congrArg _ hparts, ?_, hstop⟩
      rw [hstart, written_cons, List.length_append, Part.text, Nat.add_assoc]
  | .region body :: parts, i, r, h => by
      rcases List.mem_cons.1 h with rfl | h
      · exact ⟨[], body, parts, rfl, rfl, rfl⟩
      · obtain ⟨before, body', after, hparts, hstart, hstop⟩ := exists_of_mem_regionsFrom h
        refine ⟨.region body :: before, body', after, congrArg _ hparts, ?_, hstop⟩
        rw [hstart, written_cons, List.length_append, Part.length_text_region, Nat.add_assoc]

/-- A region of written parts reaches from its opening brace to the next closing one. -/
theorem spans_of_mem {parts : List Part} (hparts : ∀ p ∈ parts, p.BraceFree) {r : Region}
    (h : r ∈ regionsFrom 0 parts) : Spans (written parts) r := by
  obtain ⟨before, body, after, rfl, hstart, hstop⟩ := exists_of_mem_regionsFrom h
  rw [Nat.zero_add] at hstart
  have hbody : body.BraceFree := hparts (.region body) (by simp)
  have htext : written (before ++ .region body :: after) =
      written before ++ ('{' :: (body ++ '}' :: written after)) := by
    simp [written_append, written_cons, Part.text]
  refine ⟨by simp [htext, hstart], r.start + (body.length + 1), hstop, ⟨by omega, ?_⟩, ?_⟩
  · simp [htext, hstart]
  · rintro j ⟨hj, hclose⟩
    by_contra hlt
    obtain ⟨n, rfl⟩ : ∃ n, j = (written before).length + (n + 1) :=
      ⟨j - (written before).length - 1, by omega⟩
    rw [htext, List.getElem?_append_right (by omega), Nat.add_sub_cancel_left,
      List.getElem?_cons_succ, List.getElem?_append_left (by omega)] at hclose
    exact (hbody _ (List.mem_of_getElem? hclose)).2 rfl

/-- A brace of written parts opens or closes a region. -/
theorem exists_region_of_brace : ∀ {parts : List Part} {i j : Nat} {c : Char},
    (∀ p ∈ parts, p.BraceFree) → (written parts)[j]? = some c → c = '{' ∨ c = '}' →
      ∃ r ∈ regionsFrom i parts, i + j = r.start ∨ i + j + 1 = r.stop
  | .plain t :: parts, i, j, c, h, hj, hc => by
      obtain ⟨ht, hparts⟩ := List.forall_mem_cons.1 h
      rw [written_cons, Part.text] at hj
      by_cases hlt : j < t.length
      · rw [List.getElem?_append_left hlt] at hj
        obtain ⟨hopen, hclose⟩ := ht c (List.mem_of_getElem? hj)
        exact absurd hc (not_or.2 ⟨hopen, hclose⟩)
      · rw [List.getElem?_append_right (by omega)] at hj
        obtain ⟨r, hr, hends⟩ := exists_region_of_brace (i := i + t.length) hparts hj hc
        exact ⟨r, hr, by omega⟩
  | .region body :: parts, i, j, c, h, hj, hc => by
      obtain ⟨hbody, hparts⟩ := List.forall_mem_cons.1 h
      rw [written_cons] at hj
      by_cases hlt : j < body.length + 2
      · refine ⟨_, List.mem_cons_self, ?_⟩
        -- Between the braces of a region there are none.
        by_contra hends
        obtain ⟨hstart, hstop⟩ := not_or.1 hends
        dsimp only at hstart hstop
        obtain ⟨n, rfl⟩ : ∃ n, j = n + 1 := ⟨j - 1, by omega⟩
        have hn : n < body.length := by omega
        rw [List.getElem?_append_left (by rw [Part.length_text_region]; omega), Part.text,
          List.getElem?_cons_succ, List.getElem?_append_left hn] at hj
        obtain ⟨hopen, hclose⟩ := hbody c (List.mem_of_getElem? hj)
        exact absurd hc (not_or.2 ⟨hopen, hclose⟩)
      · rw [List.getElem?_append_right (by rw [Part.length_text_region]; omega),
          Part.length_text_region] at hj
        obtain ⟨r, hr, hends⟩ := exists_region_of_brace (i := i + (body.length + 2)) hparts hj hc
        exact ⟨r, List.mem_cons_of_mem _ hr, by omega⟩

/-- The regions of parts stand one behind the other. -/
theorem pairwise_regionsFrom : ∀ (parts : List Part) (i : Nat),
    (regionsFrom i parts).Pairwise fun a b => a.stop ≤ b.start
  | [], _ => .nil
  | .plain _ :: parts, _ => pairwise_regionsFrom parts _
  | .region body :: parts, i => by
      refine List.pairwise_cons.2 ⟨fun r hr => ?_, pairwise_regionsFrom parts _⟩
      obtain ⟨before, -, -, -, hstart, -⟩ := exists_of_mem_regionsFrom hr
      rw [hstart]
      exact Nat.le_add_right _ _

/-- **What is scanned** are the regions of the text. -/
theorem listed_of_scan {t : Text} {regions : List Region} (h : scan t = .ok regions) :
    Listed t regions := by
  obtain ⟨parts, hparts, rfl, rfl⟩ := exists_parts_of_scan h
  have hends : ∀ i c, (written parts)[i]? = some c → c = '{' ∨ c = '}' →
      ∃ r ∈ regionsFrom 0 parts, i = r.start ∨ i + 1 = r.stop := fun i c hi hc => by
    simpa using exists_region_of_brace (i := 0) hparts hi hc
  refine ⟨fun r => ⟨spans_of_mem hparts, fun hr => ?_⟩, pairwise_regionsFrom parts 0, hends⟩
  -- The opening brace of `r` is one of a listed region, and the next closing brace is one only.
  obtain ⟨k, hstop, hleast⟩ := hr.closes
  obtain ⟨r', hr', hstart | hclose⟩ := hends r.start '{' hr.opens (.inl rfl)
  · obtain ⟨k', hstop', hleast'⟩ := (spans_of_mem hparts hr').closes
    rw [← hstart] at hleast'
    have hsame : r = r' := by
      obtain ⟨start, stop⟩ := r
      obtain ⟨start', stop'⟩ := r'
      simp_all [hleast.unique hleast']
    rwa [hsame]
  · obtain ⟨k', hstop', hleast'⟩ := (spans_of_mem hparts hr').closes
    have hk : k' = r.start := by omega
    have hbrace := hleast'.1.2
    rw [hk, hr.opens] at hbrace
    cases hbrace

end Region

/-! ### Regions that make no segment -/

namespace Template

/-- Analysis rejects at a position what reading the segments rejects. -/
theorem readSegments_eq_error_of_analyze {given : Text} {m : Malformed} {p : Int}
    (h : analyze given = .error m) (hposition : m.position = some p) :
    readSegments (Path.withoutExtension given) = .error m := by
  rw [analyze] at h
  split at h
  · cases h
    cases hposition
  · rcases Outcome.bind_eq_error.1 h with hread | ⟨segments, -, h⟩
    · exact hread
    rcases Outcome.bind_eq_error.1 h with hshared | ⟨model, -, h⟩
    · rw [sharedModel] at hshared
      split at hshared
      · cases hshared
      · cases hshared
      · cases hshared
        cases hposition
    · cases h

/-- **The leftmost region** that makes no segment is where analysis rejects a text that can be
scanned. -/
theorem exists_leftmost_of_analyze {given : Text} {m : Malformed} {p : Int} {regions : List Region}
    (h : analyze given = .error m) (hposition : m.position = some p)
    (hscan : Region.scan (Path.withoutExtension given) = .ok regions) :
    ∃ before r after, regions = before ++ r :: after ∧ p = r.start ∧
      Segment.read (Path.withoutExtension given) r.start r.stop = .error m ∧
      ∀ b ∈ before, ∃ s, Segment.read (Path.withoutExtension given) b.start b.stop = .ok s := by
  have hread := readSegments_eq_error_of_analyze h hposition
  rw [readSegments, hscan] at hread
  obtain ⟨before, r, after, hregions, hbefore, hr⟩ := Outcome.mapM_eq_error.1 hread
  refine ⟨before, r, after, hregions, ?_, hr, hbefore⟩
  rw [Segment.read] at hr
  cases hraw : Segment.ofRaw (Text.slice (Path.withoutExtension given) r.start r.stop) r.start
      r.stop with
  | ok s =>
      rw [hraw] at hr
      cases hr
  | error d =>
      rw [hraw] at hr
      cases hr
      exact (Option.some.inj hposition).symm

end Template

namespace Region

/-- **Scanning is exact, and a rejection points at the first offence.**  A text is scanned just if
its braces alternate, and then its regions are listed: those from each opening brace to the next
closing one, in order.  Any other text is rejected at its first offence.  And what analysis rejects
at a position, though it can be scanned, it rejects at the start of the leftmost region that makes
no segment. -/
theorem scan_lists_or_points (t : Text) :
    ((∃ regions, scan t = .ok regions) ↔ t.Alternates) ∧
    (∀ regions, scan t = .ok regions → Listed t regions) ∧
    (∀ m, scan t = .error m → ∃ i : Nat, m.position = some (i : Int) ∧ IsOffence t i) ∧
    ∀ m p regions, Template.analyze t = .error m → m.position = some p →
      scan (Path.withoutExtension t) = .ok regions →
      ∃ before r after, regions = before ++ r :: after ∧ p = r.start ∧
        Segment.read (Path.withoutExtension t) r.start r.stop = .error m ∧
        ∀ b ∈ before, ∃ s, Segment.read (Path.withoutExtension t) b.start b.stop = .ok s := by
  refine ⟨exists_scan_iff, fun _ => listed_of_scan, fun m hm => ?_,
    fun _ _ _ => exists_leftmost_of_analyze⟩
  obtain ⟨d, k, rfl, hstops⟩ := stops_of_scan hm
  exact ⟨k, rfl, hstops.isOffence⟩

/-- The text `{a{b`. -/
def nestedText : Text := "\x7ba\x7bb".toList

/-- The text `{P.a}/{b`. -/
def unclosedText : Text := "\x7bP.a\x7d/\x7bb".toList

/-- The text `{P.a}/{P}-{.b}`, of which the last two regions make no segments. -/
def unreadText : Text := "\x7bP.a\x7d/\x7bP\x7d-\x7b.b\x7d".toList

/-- The first offence of `{a{b` is the second brace and that of `{P.a}/{b` the last one; and of
`{P.a}/{P}-{.b}.js` the region `{P}` is rejected. -/
theorem scan_lists_or_points_faulty :
    IsOffence nestedText 2 ∧ IsOffence unclosedText 6 ∧ ¬ Text.Alternates unclosedText ∧
    Listed unreadText [⟨0, 5⟩, ⟨6, 9⟩, ⟨10, 14⟩] ∧
    ∃ before r after, ([⟨0, 5⟩, ⟨6, 9⟩, ⟨10, 14⟩] : List Region) = before ++ r :: after ∧
      6 = (r.start : Int) ∧
      ∀ b ∈ before, ∃ s, Segment.read unreadText b.start b.stop = .ok s := by
  obtain ⟨-, -, hnested, -⟩ := scan_lists_or_points nestedText
  obtain ⟨haccept, -, hunclosed, -⟩ := scan_lists_or_points unclosedText
  obtain ⟨-, hlisted, -, -⟩ := scan_lists_or_points unreadText
  obtain ⟨-, -, -, hleftmost⟩ := scan_lists_or_points (unreadText ++ ".js".toList)
  have hunread : scan unreadText = .ok [⟨0, 5⟩, ⟨6, 9⟩, ⟨10, 14⟩] := by decide
  have hpath : Path.withoutExtension (unreadText ++ ".js".toList) = unreadText := by decide
  rw [hpath] at hleftmost
  refine ⟨?_, ?_, fun h => ?_, hlisted _ hunread, ?_⟩
  · obtain ⟨i, hi, h⟩ := hnested ⟨nestedText, .nested, some 2⟩ (by decide)
    cases hi
    exact h
  · obtain ⟨i, hi, h⟩ := hunclosed ⟨unclosedText, .unclosed, some 6⟩ (by decide)
    cases hi
    exact h
  · obtain ⟨regions, hregions⟩ := haccept.2 h
    cases hregions
  · obtain ⟨before, r, after, hregions, hstart, -, hbefore⟩ := hleftmost
      ⟨unreadText, .noPeriod "\x7bP\x7d".toList, some 6⟩ 6 _ (by decide) rfl hunread
    exact ⟨before, r, after, hregions, hstart, hbefore⟩

end Region
end Permalink
