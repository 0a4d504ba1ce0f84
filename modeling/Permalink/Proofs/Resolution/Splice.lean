import Permalink.Proofs.Outcome
import Permalink.Resolution.Basic

/-!
# Resolution — what a splice is

Splicing goes through the segments with a cursor and stops at the first fault.  When it ends without
one, what it gives can be said without the run:

* every segment *fits*: it starts at or behind the cursor, which is where the last one ended, and
  its text stands at its offsets (`FitsFrom`);
* every segment *settles*: it has a value, or it does not resolve and the record can be shown
  (`Segment.Settles`);
* the text is that of the template, each segment replaced by its value or kept (`splicedText`), and
  the errors are the segments that do not resolve, in order.

`result_spliceFrom` says that these are just the splices that end without a fault, and
`result_resolve` says it of a whole resolution.

Of its record a resolution reads no more than the values of the segments and, if one of them does
not resolve, the fault of showing it (`result_derive_congr`).
-/

namespace Permalink

namespace Segment

/-- The value of a segment: none if it does not resolve or the lookup or the slug fails. -/
def resolved? (o : SlugOptions) (record : Value) (s : Segment) : Option Text :=
  match s.value o record with
  | .ok v => v
  | .error _ => none

/-- What takes the place of a segment: its value or, if it has none, its own text. -/
def replacement (o : SlugOptions) (record : Value) (s : Segment) : Text :=
  (s.resolved? o record).getD s.raw

/-- Does a segment not resolve? -/
def isUnresolved (o : SlugOptions) (record : Value) (s : Segment) : Bool :=
  match s.value o record with
  | .ok none => true
  | _ => false

/-- A segment has a value, or it does not resolve and the record can be shown. -/
def Settles (o : SlugOptions) (record : Value) (s : Segment) : Prop :=
  (∃ text, s.value o record = .ok (some text)) ∨
    s.value o record = .ok none ∧ ∃ shown, record.serialize = .ok shown

theorem resolved?_eq_some_iff {o : SlugOptions} {record : Value} {s : Segment} {text : Text} :
    s.resolved? o record = some text ↔ s.value o record = .ok (some text) := by
  unfold resolved?
  split
  · next v hv => rw [hv, Except.ok.injEq]
  · next hv => simp [hv]

/-- A segment that settles does not resolve just if it has no value. -/
theorem Settles.isUnresolved_eq {o : SlugOptions} {record : Value} {s : Segment}
    (h : s.Settles o record) : s.isUnresolved o record = (s.resolved? o record).isNone := by
  rcases h with ⟨text, h⟩ | ⟨h, -⟩ <;> simp [isUnresolved, resolved?, h]

end Segment

namespace Resolution

/-! ### The text of a splice -/

/-- The text from `cursor` on, with a text in the place of each segment. -/
def splicedText (stripped : Text) (place : Segment → Text) (cursor : Int) : List Segment → Text
  | [] => stripped.sliceFrom cursor
  | s :: rest =>
    stripped.slice cursor s.start ++ place s ++ splicedText stripped place s.stop rest

theorem splicedText_congr {stripped : Text} {place place' : Segment → Text} {cursor : Int}
    {segments : List Segment} (h : ∀ s ∈ segments, place s = place' s) :
    splicedText stripped place cursor segments = splicedText stripped place' cursor segments := by
  induction segments generalizing cursor with
  | nil => rfl
  | cons s rest ih =>
      obtain ⟨hs, hrest⟩ := List.forall_mem_cons.1 h
      rw [splicedText, splicedText, hs, ih hrest]

/-- Each segment fits behind the one before it, the first behind `cursor`. -/
def FitsFrom (stripped : Text) (cursor : Int) : List Segment → Prop
  | [] => True
  | s :: rest => s.fits stripped cursor = true ∧ FitsFrom stripped s.stop rest

/-! ### Steps and runs -/

section Run

variable {o : SlugOptions} {stripped : Text} {record : Value}

/-- **A step.**  A splice gets past a segment that fits and settles, and no other. -/
theorem result_spliceFrom_cons {cursor : Int} {s : Segment} {rest : List Segment}
    {r : Text × List Segment} :
    (spliceFrom o stripped record cursor (s :: rest)).result = .ok r ↔
      s.fits stripped cursor = true ∧ s.Settles o record ∧
        ∃ r', (spliceFrom o stripped record s.stop rest).result = .ok r' ∧
          r = (stripped.slice cursor s.start ++ s.replacement o record ++ r'.1,
            if s.isUnresolved o record then s :: r'.2 else r'.2) := by
  rw [spliceFrom]
  by_cases hfits : s.fits stripped cursor = true
  · simp only [hfits, if_true, true_and]
    -- The value decides: a fault, a text, or none, and then whether the record can be shown.
    cases hvalue : s.value o record with
    | error fault =>
        simp [Segment.Settles, hvalue, Reported.silent]
    | ok v =>
        cases v with
        | some text =>
            simp only [Segment.Settles, Segment.replacement, Segment.resolved?,
              Segment.isUnresolved, hvalue, Reported.after, Outcome.map_eq_ok, Bool.false_eq_true,
              if_false]
            simp [eq_comm]
        | none =>
            cases hshown : record.serialize with
            | error fault => simp [Segment.Settles, hvalue, hshown]
            | ok shown =>
                simp only [Segment.Settles, Segment.replacement, Segment.resolved?,
                  Segment.isUnresolved, hvalue, hshown, Reported.after, Outcome.map_eq_ok, if_true]
                simp [eq_comm]
  · simp only [Bool.not_eq_true] at hfits
    simp [hfits, Reported.silent]

/-- **A run.**  The splices that end without a fault, and what they give. -/
theorem result_spliceFrom {cursor : Int} {segments : List Segment} {r : Text × List Segment} :
    (spliceFrom o stripped record cursor segments).result = .ok r ↔
      FitsFrom stripped cursor segments ∧ (∀ s ∈ segments, s.Settles o record) ∧
        r = (splicedText stripped (·.replacement o record) cursor segments,
          segments.filter (·.isUnresolved o record)) := by
  induction segments generalizing cursor r with
  | nil =>
      simp only [spliceFrom, Reported.silent, FitsFrom, splicedText, List.filter_nil,
        Except.ok.injEq]
      simp [eq_comm]
  | cons s rest ih =>
      rw [result_spliceFrom_cons, List.forall_mem_cons, FitsFrom]
      constructor
      · rintro ⟨hfits, hsettles, r', hr', rfl⟩
        obtain ⟨hrest, hall, rfl⟩ := ih.1 hr'
        refine ⟨⟨hfits, hrest⟩, ⟨hsettles, hall⟩, ?_⟩
        rw [splicedText, List.filter_cons]
      · rintro ⟨⟨hfits, hrest⟩, ⟨hsettles, hall⟩, rfl⟩
        refine ⟨hfits, hsettles, _, ih.2 ⟨hrest, hall, rfl⟩, ?_⟩
        rw [splicedText, List.filter_cons]

/-- **A resolution** that ends without a fault, and what it gives. -/
theorem result_resolve {segments : List Segment} {d : Derived} :
    (resolve o stripped segments record).result = .ok d ↔
      FitsFrom stripped 0 (inOrder segments) ∧ (∀ s ∈ inOrder segments, s.Settles o record) ∧
        d = { template := stripped
              path := Path.collapseSlashes
                (splicedText stripped (·.replacement o record) 0 (inOrder segments))
              errors := (inOrder segments).filter (·.isUnresolved o record) } := by
  simp only [resolve, Reported.after, Outcome.map_eq_ok, result_spliceFrom]
  constructor
  · rintro ⟨r, ⟨hfits, hall, rfl⟩, rfl⟩
    exact ⟨hfits, hall, rfl⟩
  · rintro ⟨hfits, hall, rfl⟩
    exact ⟨_, ⟨hfits, hall, rfl⟩, rfl⟩

end Run

/-! ### The order of segments -/

/-- Segments in order of their starts stay in that order. -/
theorem inOrder_of_pairwise {segments : List Segment}
    (h : segments.Pairwise fun a b => a.start ≤ b.start) : inOrder segments = segments :=
  List.mergeSort_of_pairwise (h.imp fun hab => by simpa using hab)

/-- Segments in order of their starts are spliced as they stand. -/
theorem resolve_of_pairwise {segments : List Segment}
    (h : segments.Pairwise fun a b => a.start ≤ b.start) (o : SlugOptions) (stripped : Text)
    (record : Value) :
    resolve o stripped segments record =
      (spliceFrom o stripped record 0 segments).after [] fun r =>
        { template := stripped, path := Path.collapseSlashes r.1, errors := r.2 } := by
  rw [resolve, inOrder_of_pairwise h]

theorem mem_inOrder {segments : List Segment} {s : Segment} :
    s ∈ inOrder segments ↔ s ∈ segments :=
  List.mem_mergeSort

theorem perm_inOrder (segments : List Segment) : (inOrder segments).Perm segments :=
  List.mergeSort_perm _ _

theorem start_le_trans (a b c : Segment) (hab : decide (a.start ≤ b.start) = true)
    (hbc : decide (b.start ≤ c.start) = true) : decide (a.start ≤ c.start) = true := by
  simp only [decide_eq_true_eq] at *
  omega

theorem start_le_total (a b : Segment) :
    (decide (a.start ≤ b.start) || decide (b.start ≤ a.start)) = true := by
  simp only [Bool.or_eq_true, decide_eq_true_eq]
  omega

theorem pairwise_inOrder (segments : List Segment) :
    (inOrder segments).Pairwise fun a b => a.start ≤ b.start :=
  (List.pairwise_mergeSort start_le_trans start_le_total segments).imp of_decide_eq_true

/-! ### Under a setting -/

theorem derive_eq_resolve {given : Text} {t : Template} (ht : Template.analyze given = .ok t)
    {setting : Option Value} {o : SlugOptions} (ho : SlugOptions.ofValue? setting = .ok o)
    (record : Value) :
    derive setting given record = resolve o t.stripped t.segments record := by
  rw [derive, ho, ht]
  rfl

/-- An analyzed template gives a path just if it does so under the options of a setting. -/
theorem result_derive_eq_ok {given : Text} {t : Template} (ht : Template.analyze given = .ok t)
    {setting : Option Value} {record : Value} {d : Derived} :
    (derive setting given record).result = .ok d ↔
      ∃ o, SlugOptions.ofValue? setting = .ok o ∧ (ofTemplate o t record).result = .ok d := by
  rw [derive, ht]
  cases SlugOptions.ofValue? setting with
  | error fault =>
      constructor
      · intro h
        cases h
      · rintro ⟨o, ⟨⟩, -⟩
  | ok o =>
      refine ⟨fun h => ⟨o, rfl, h⟩, ?_⟩
      rintro ⟨_, ⟨⟩, h⟩
      exact h

/-! ### What a resolution reads -/

section Reads

variable {o : SlugOptions} {stripped : Text} {record other : Value} {segments : List Segment}
  {s : Segment}

/-- The segments in front of `s` have values, and `s` does not resolve. -/
inductive FirstUnresolved (o : SlugOptions) (record : Value) : List Segment → Segment → Prop where
  | here {s : Segment} {rest : List Segment} : s.value o record = .ok none →
      FirstUnresolved o record (s :: rest) s
  | later {a s : Segment} {rest : List Segment} {text : Text} :
      a.value o record = .ok (some text) → FirstUnresolved o record rest s →
      FirstUnresolved o record (a :: rest) s

/-- **A splice over a record that cannot be shown** passes the segments with values, and stops at
the first that does not resolve with nothing but its line. -/
theorem spliceFrom_of_unshown {fault : Fault} (hshown : record.serialize = .error fault)
    {cursor : Int} (hfits : FitsFrom stripped cursor segments)
    (hfirst : FirstUnresolved o record segments s) :
    spliceFrom o stripped record cursor segments = ⟨[s.errorLine], .error fault⟩ := by
  induction hfirst generalizing cursor with
  | here hnone => rw [spliceFrom, if_pos hfits.1, hnone, hshown]
  | later hsome _ ih =>
      rw [spliceFrom, if_pos hfits.1, hsome]
      dsimp only
      -- Nothing is reported on it, and a fault behind it stays as it is.
      rw [ih hfits.2]
      rfl

/-- **A splice reads its record through the values of the segments**, and to show it if one of them
does not resolve. -/
theorem result_spliceFrom_congr {cursor : Int}
    (hvalue : ∀ s ∈ segments, s.value o other = s.value o record)
    (hshown : ∀ s, FirstUnresolved o record segments s →
      ∀ fault, other.serialize = .error fault ↔ record.serialize = .error fault) :
    (spliceFrom o stripped other cursor segments).result =
      (spliceFrom o stripped record cursor segments).result := by
  induction segments generalizing cursor with
  | nil => rfl
  | cons s rest ih =>
      obtain ⟨hs, hrest⟩ := List.forall_mem_cons.1 hvalue
      rw [spliceFrom, spliceFrom, hs]
      split
      · -- The value is the same, and whichever it is, the rest is spliced behind it.
        dsimp only
        split
        · rfl
        · next text hsome =>
          exact congrArg (Except.map _) (ih hrest fun s' hs' => hshown s' (.later hsome hs'))
        · next hnone =>
          have hsame := hshown s (.here hnone)
          cases hrecord : record.serialize with
          | error fault => rw [(hsame fault).2 hrecord]
          | ok shown =>
              cases hother : other.serialize with
              | error fault => exact absurd (hrecord.symm.trans ((hsame fault).1 hother)) nofun
              | ok shown' => exact congrArg (Except.map _) (ih hrest fun _ _ => hsame)
      · rfl

/-- **Two records with the same values for the segments** of a template have the same outcome by
it, if at the first one that does not resolve both can be shown or both fail alike. -/
theorem result_derive_congr {given : Text} {t : Template} (ht : Template.analyze given = .ok t)
    (setting : Option Value)
    (hvalue : ∀ (o : SlugOptions), ∀ s ∈ t.segments, s.value o other = s.value o record)
    (hshown : ∀ o s, SlugOptions.ofValue? setting = .ok o →
      FirstUnresolved o record (inOrder t.segments) s →
      ∀ fault, other.serialize = .error fault ↔ record.serialize = .error fault) :
    (derive setting given other).result = (derive setting given record).result := by
  rw [derive, derive, ht]
  split
  · rfl
  · next o ho =>
      have hvalue' : ∀ s ∈ inOrder t.segments, s.value o other = s.value o record := fun s hs =>
        hvalue o s (mem_inOrder.1 hs)
      exact congrArg (Except.map _) (result_spliceFrom_congr hvalue' fun s => hshown o s ho)

end Reads

end Resolution
end Permalink
