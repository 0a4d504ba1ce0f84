import Mathlib.Data.List.Dedup
import Permalink.Proofs.Resolution.Filling
import Permalink.Proofs.Text.Replacing

/-!
# Resolution — substitution in the text

Resolution goes by offsets.  The same path comes of plain substitution: take the texts of the
segments that have a value, and replace each by its value wherever it occurs in the template, one
text after the other, in any order (`path_eq_foldl_replaceAll`).

A text with braces at its two ends and none within occurs in written parts at its own regions only,
since a region starts at an opening brace and ends at the next closing one.  So one replacement
fills the regions of one text (`replaceAll_written`).  Values bring no braces, so what is left is
again written by parts, and the replacements after that fill the other regions
(`foldl_replaceAll_written`): which replacement comes first makes no difference.
-/

namespace Permalink

/-! ### Replacing in written parts -/

namespace Template

/-- Two regions of which one starts the other are one region. -/
theorem eq_of_text_region_isPrefix {a b : Text} {rest : Text} (ha : a.BraceFree) (hb : b.BraceFree)
    (h : (Part.region a).text <+: (Part.region b).text ++ rest) : a = b := by
  obtain ⟨u, hu⟩ := h
  have hbody : a ++ '}' :: u = b ++ '}' :: rest := by simpa [Part.text] using hu
  -- Each body is what stands before the first closing brace.
  obtain ⟨hcut, -⟩ := Segment.span_append (p := (· != '}')) ('}' :: u)
    (fun c hc => bne_iff_ne.2 (ha c hc).2) (by simp)
  obtain ⟨hcut', -⟩ := Segment.span_append (p := (· != '}')) ('}' :: rest)
    (fun c hc => bne_iff_ne.2 (hb c hc).2) (by simp)
  rw [← hcut, hbody, hcut']

/-- A region of another text is kept. -/
theorem replaceAll_region_append {a b new : Text} (rest : Text) (ha : a.BraceFree)
    (hb : b.BraceFree) (hne : a ≠ b) :
    Text.replaceAll (Part.region a).text new ((Part.region b).text ++ rest) =
      (Part.region b).text ++ Text.replaceAll (Part.region a).text new rest := by
  have hstart : ¬ (Part.region a).text <+: '{' :: ((b ++ ['}']) ++ rest) := fun h =>
    hne (eq_of_text_region_isPrefix ha hb h)
  have hopen : '{' ∉ b ++ ['}'] := fun h => by
    rcases List.mem_append.1 h with h | h
    · exact (hb _ h).1 rfl
    · exact absurd h (by decide)
  calc Text.replaceAll (Part.region a).text new ((Part.region b).text ++ rest)
      = '{' :: Text.replaceAll (Part.region a).text new ((b ++ ['}']) ++ rest) :=
        Text.replaceAll_cons hstart
    _ = (Part.region b).text ++ Text.replaceAll (Part.region a).text new rest :=
        congrArg ('{' :: ·) (Text.replaceAll_append rest hopen)

/-- A value for the regions of one text. -/
def only (raw new : Text) : Text → Option Text := fun r => if r = raw then some new else none

theorem only_eq_some {raw new r t : Text} (h : only raw new r = some t) : t = new := by
  rw [only] at h
  split at h
  · exact (Option.some.inj h).symm
  · cases h

/-- **One replacement** fills the regions of its text. -/
theorem replaceAll_written {a new : Text} (ha : a.BraceFree) : ∀ {parts : List Part},
    (∀ p ∈ parts, p.BraceFree) →
    Text.replaceAll (Part.region a).text new (written parts) =
      written (fill (only (Part.region a).text new) parts)
  | [], _ => rfl
  | .plain t :: parts, h => by
      obtain ⟨ht, hparts⟩ := List.forall_mem_cons.1 h
      have hopen : '{' ∉ t := fun hmem => (ht _ hmem).1 rfl
      have ih : Text.replaceAll (Part.region a).text new (written parts) =
          written (fill (only (Part.region a).text new) parts) := replaceAll_written ha hparts
      rw [written_cons, Part.text, Part.text, Text.replaceAll_append _ hopen]
      exact congrArg (t ++ ·) ih
  | .region b :: parts, h => by
      obtain ⟨hb, hparts⟩ := List.forall_mem_cons.1 h
      have ih : Text.replaceAll (Part.region a).text new (written parts) =
          written (fill (only (Part.region a).text new) parts) := replaceAll_written ha hparts
      rw [written_cons, fill, List.map_cons, written_cons, text_fill_region, only]
      by_cases hab : a = b
      · subst hab
        have hne : (Part.region a).text ≠ [] := List.cons_ne_nil _ _
        rw [Text.replaceAll_self_append hne, ih, if_pos rfl]
        rfl
      · have hraw : (Part.region b).text ≠ (Part.region a).text := fun e =>
          hab (eq_of_text_region_isPrefix ha hb ⟨[], by rw [← e]⟩)
        rw [replaceAll_region_append _ ha hb hab, ih, if_neg hraw]
        rfl

theorem only_or_lookup (raw new : Text) (pairs : List (Text × Text)) (r : Text) :
    (only raw new r).or (pairs.lookup r) = ((raw, new) :: pairs).lookup r := by
  rw [List.lookup_cons, only]
  by_cases h : r = raw
  · subst h
    simp
  · have hne : (r == raw) = false := by simpa using h
    simp [h, hne]

/-- Does the pair replace a region, by a text without braces? -/
def Replaces (p : Text × Text) : Prop :=
  (∃ a : Text, a.BraceFree ∧ p.1 = (Part.region a).text) ∧ p.2.BraceFree

/-- **Replacements one after the other** fill the regions of their texts. -/
theorem foldl_replaceAll_written {pairs : List (Text × Text)} (hpairs : ∀ p ∈ pairs, Replaces p)
    {parts : List Part} (hparts : ∀ p ∈ parts, p.BraceFree) :
    pairs.foldl (fun text p => Text.replaceAll p.1 p.2 text) (written parts) =
      written (fill (pairs.lookup ·) parts) := by
  induction pairs generalizing parts with
  | nil => exact congrArg written (fill_none parts).symm
  | cons p pairs ih =>
      obtain ⟨raw, new⟩ := p
      obtain ⟨⟨⟨a, ha, rfl⟩, hnew⟩, hrest⟩ := List.forall_mem_cons.1 hpairs
      -- What one replacement leaves is written by parts again, since the value has no braces.
      have hfilled : ∀ q ∈ fill (only (Part.region a).text new) parts, q.BraceFree :=
        braceFree_fill (fun r t ht => (only_eq_some ht) ▸ hnew) hparts
      rw [List.foldl_cons, replaceAll_written ha hparts, ih hrest hfilled, fill_fill]
      exact congrArg (fun f => written (fill f parts)) (funext (only_or_lookup _ new pairs))

end Template

/-! ### The path by substitution -/

namespace Resolution

open Template

variable {o : SlugOptions} {record : Value}

/-- The texts of the segments that have a value, each once and with its value. -/
def substitutions (o : SlugOptions) (record : Value) (segments : List Segment) :
    List (Text × Text) :=
  (segments.filterMap fun s => (s.resolved? o record).map (s.raw, ·)).dedup

theorem mem_substitutions {segments : List Segment} {raw value : Text} :
    (raw, value) ∈ substitutions o record segments ↔
      ∃ s ∈ segments, s.raw = raw ∧ s.value o record = .ok (some value) := by
  rw [substitutions, List.mem_dedup, List.mem_filterMap]
  refine exists_congr fun s => and_congr_right fun _ => ?_
  rw [Option.map_eq_some_iff, ← Segment.resolved?_eq_some_iff]
  constructor
  · rintro ⟨v, hv, he⟩
    obtain ⟨rfl, rfl⟩ := Prod.mk.inj he
    exact ⟨rfl, hv⟩
  · rintro ⟨rfl, hv⟩
    exact ⟨value, hv, rfl⟩

/-- Of segments that are read from parts, the text decides the value. -/
theorem mem_substitutions_iff_valueOf {i : Nat} {parts : List Part} {segments : List Segment}
    (h : Reads i parts segments) {raw value : Text} :
    (raw, value) ∈ substitutions o record segments ↔
      raw ∈ regionTexts parts ∧ valueOf o record raw = some value := by
  rw [mem_substitutions, ← h.raws, List.mem_map]
  constructor
  · rintro ⟨s, hs, rfl, hv⟩
    refine ⟨⟨s, hs, rfl⟩, ?_⟩
    rw [valueOf_raw h hs, Segment.resolved?_eq_some_iff]
    exact hv
  · rintro ⟨⟨s, hs, rfl⟩, hv⟩
    rw [valueOf_raw h hs, Segment.resolved?_eq_some_iff] at hv
    exact ⟨s, hs, rfl, hv⟩

/-- No text is replaced by two values. -/
theorem nodup_substitutions {i : Nat} {parts : List Part} {segments : List Segment}
    (h : Reads i parts segments) :
    ((substitutions o record segments).map Prod.fst).Nodup := by
  refine List.Nodup.map_on ?_ (List.nodup_dedup _)
  rintro ⟨raw, value⟩ hp ⟨raw', value'⟩ hp' rfl
  obtain ⟨-, hv⟩ := (mem_substitutions_iff_valueOf h).1 hp
  obtain ⟨-, hv'⟩ := (mem_substitutions_iff_valueOf h).1 hp'
  rw [Option.some.inj (hv.symm.trans hv')]

/-- The substitutions in any order say of each region which value it has. -/
theorem lookup_substitutions {i : Nat} {parts : List Part} {segments : List Segment}
    (h : Reads i parts segments) {order : List (Text × Text)}
    (horder : order.Perm (substitutions o record segments)) {raw : Text}
    (hraw : raw ∈ regionTexts parts) : order.lookup raw = valueOf o record raw := by
  have hmem : ∀ {r v}, (r, v) ∈ order ↔ r ∈ regionTexts parts ∧ valueOf o record r = some v :=
    horder.mem_iff.trans (mem_substitutions_iff_valueOf h)
  -- A pair that is found is one of the substitutions; if none is found, the region has no value.
  cases hlookup : order.lookup raw with
  | some value =>
      obtain ⟨l₁, l₂, rfl, -⟩ := List.lookup_eq_some_iff.1 hlookup
      exact ((hmem.1 (by simp)).2).symm
  | none =>
      cases hvalue : valueOf o record raw with
      | none => rfl
      | some value =>
          have hne := List.lookup_eq_none_iff.1 hlookup _ (hmem.2 ⟨hraw, hvalue⟩)
          exact absurd rfl (bne_iff_ne.1 hne)

theorem replaces_of_mem_substitutions (hmark : o.separator.mark ≠ '{' ∧ o.separator.mark ≠ '}')
    {t : Template} {parts : List Part} (hlayout : Layout t parts) {p : Text × Text}
    (hp : p ∈ substitutions o record t.segments) : Replaces p := by
  obtain ⟨raw, value⟩ := p
  obtain ⟨hraw, hvalue⟩ := (mem_substitutions_iff_valueOf hlayout.reads).1 hp
  obtain ⟨body, hbody, rfl⟩ := mem_regionTexts.1 hraw
  exact ⟨⟨body, hlayout.braceFree _ hbody, rfl⟩, braceFree_of_valueOf hmark hvalue⟩

/-- **The path by substitution.**  The texts of the segments of an analyzed template that have a
value have just one; and if each is replaced by it, one after the other in any order and wherever it
occurs, then the template becomes the path, but for its slashes. -/
theorem path_eq_foldl_replaceAll (hmark : o.separator.mark ≠ '{' ∧ o.separator.mark ≠ '}')
    {given : Text} {t : Template} {d : Derived} (ht : analyze given = .ok t)
    (h : (ofTemplate o t record).result = .ok d) :
    ((substitutions o record t.segments).map Prod.fst).Nodup ∧
    (∀ raw value, (raw, value) ∈ substitutions o record t.segments ↔
      ∃ s ∈ t.segments, s.raw = raw ∧ s.value o record = .ok (some value)) ∧
    ∀ order : List (Text × Text), order.Perm (substitutions o record t.segments) →
      Path.collapseSlashes
        (order.foldl (fun text p => Text.replaceAll p.1 p.2 text) t.stripped) = d.path := by
  obtain ⟨parts, hlayout⟩ := exists_layout_of_analyze ht
  obtain ⟨hpath, -, -⟩ := result_ofTemplate hlayout h
  refine ⟨nodup_substitutions hlayout.reads, fun _ _ => mem_substitutions, fun order horder => ?_⟩
  have hreplaces : ∀ p ∈ order, Replaces p := fun p hp =>
    replaces_of_mem_substitutions hmark hlayout (horder.mem_iff.1 hp)
  rw [hpath, ← hlayout.written, foldl_replaceAll_written hreplaces hlayout.braceFree,
    fill_congr fun raw hraw => lookup_substitutions hlayout.reads horder hraw]

/-- The template `{P.a}-{P.b}/{P.a}.js`. -/
def alternating : Template :=
  let segment (field : Char) (start stop : Int) : Segment :=
    { raw := ['{', 'P', '.', field, '}'], start, stop, model := ['P'], field := [field]
      path := [[field]], markers := [] }
  { given := "\x7bP.a\x7d-\x7bP.b\x7d/\x7bP.a\x7d.js".toList
    stripped := "\x7bP.a\x7d-\x7bP.b\x7d/\x7bP.a\x7d".toList
    segments := [segment 'a' 0 5, segment 'b' 6 11, segment 'a' 12 17]
    model := some ['P'] }

/-- A record in which each of two texts is the other one's region. -/
def crossed : Value :=
  .mapping [(.text ['a'], .text "\x7bP.b\x7d/".toList), (.text ['b'], .text "\x7bP.a\x7d".toList)]

/-- The crossed texts do not replace each other. -/
theorem path_eq_foldl_replaceAll_crossed :
    analyze alternating.given = .ok alternating ∧
    (ofTemplate {} alternating crossed).result =
      .ok ⟨alternating.stripped, "p-b/-p-a/p-b/".toList, []⟩ ∧
    ((substitutions {} crossed alternating.segments).map Prod.fst).Nodup ∧
    (∀ raw value, (raw, value) ∈ substitutions {} crossed alternating.segments ↔
      ∃ s ∈ alternating.segments, s.raw = raw ∧ s.value {} crossed = .ok (some value)) ∧
    ∀ order : List (Text × Text), order.Perm (substitutions {} crossed alternating.segments) →
      Path.collapseSlashes
        (order.foldl (fun text p => Text.replaceAll p.1 p.2 text) alternating.stripped) =
      "p-b/-p-a/p-b/".toList := by
  have ht : analyze alternating.given = .ok alternating := by decide
  have h : (ofTemplate {} alternating crossed).result =
      .ok ⟨alternating.stripped, "p-b/-p-a/p-b/".toList, []⟩ := by
    rw [ofTemplate, resolve_of_pairwise (by decide)]
    decide +kernel
  exact ⟨ht, h, path_eq_foldl_replaceAll (by decide) ht h⟩

end Resolution
end Permalink
