import Permalink.Proofs.Resolution.Faults
import Permalink.Proofs.Resolution.Placement

/-!
# Resolution — the trace

What a resolution reports can be said without the run.  The *trace* of some segments has two lines
for each: the line that names the segment, and then the record as it is shown (`Trace`).

* A resolution that ends without a fault adds the trace of the segments that do not resolve.  They
  are also the errors of the derived path.
* One that ends at a segment which does not fit adds the trace of those before it.

In both cases the segments are taken in order of their starts, those of one start in the order in
which they are given (`inStartOrder_inOrder`); and whatever the reporter held before stays in front
(`resolve_trace`).

The run passes over segments that fit and settle with just their trace (`spliceFrom_append`).  So
all there is to say is where it stops: behind the last segment, or at the first that does not fit or
does not settle (`passes_or_stops`).
-/

namespace Permalink

/-- What a reporter holds after `r`, if it held `earlier` before.  A reporter is only ever appended
to: nothing that it holds is read, moved or taken out. -/
def Reported.onto {α : Type} (earlier : List Report) (r : Reported α) : List Report :=
  earlier ++ r.reports

/-- What is derived fails if it has errors, with their texts. -/
theorem Derived.result_eq (d : Derived) :
    d.result = if d.errors = [] then .ok d.path
      else .error (.unresolved d.template (d.errors.map (·.raw))) :=
  if_congr List.isEmpty_iff rfl rfl

namespace Resolution

/-! ### The order of the segments -/

/-- `ordered` are the segments `given` in order of their starts, and those of one start in the order
in which they are given. -/
structure InStartOrder (given ordered : List Segment) : Prop where
  perm : ordered.Perm given
  sorted : ordered.Pairwise fun a b => a.start ≤ b.start
  stable : ∀ start : Int, ordered.filter (·.start = start) = given.filter (·.start = start)

/-- **Segments are put in order of their starts**, and no two of one start change places. -/
theorem inStartOrder_inOrder (segments : List Segment) :
    InStartOrder segments (inOrder segments) where
  perm := perm_inOrder segments
  sorted := pairwise_inOrder segments
  stable start := by
    have hordered : (segments.filter (·.start = start)).Pairwise
        fun a b => decide (a.start ≤ b.start) = true :=
      List.pairwise_filter.2 (List.pairwise_of_forall fun a b ha hb => by
        simp only [decide_eq_true_eq] at *
        omega)
    -- Segments of one start are in order already, and sorting keeps a sublist that is in order.
    have hsub : (segments.filter (·.start = start)).Sublist (inOrder segments) :=
      List.sublist_mergeSort start_le_trans start_le_total hordered List.filter_sublist
    have hsub := hsub.filter (·.start = start)
    simp only [List.filter_filter, Bool.and_self] at hsub
    exact (hsub.eq_of_length ((perm_inOrder segments).filter _).length_eq.symm).symm

/-! ### Traces -/

/-- The reports on some segments that do not resolve: on each the line that names it, and behind it
the record as it is shown. -/
inductive Trace (record : Value) : List Segment → List Report → Prop where
  | nil : Trace record [] []
  | cons {s : Segment} {segments : List Segment} {shown : Text} {reports : List Report} :
      record.serialize = .ok shown → Trace record segments reports →
      Trace record (s :: segments)
        (.error ("PagePath: ".toList ++ s.unresolvedMessage) :: .log shown :: reports)

section Run

variable {o : SlugOptions} {stripped : Text} {record : Value}

/-- **A run over segments that fit and settle** reports just their trace, and what comes of it is
for the segments behind them to say. -/
theorem spliceFrom_append {before : List Segment} {cursor : Int}
    (hfits : FitsFrom stripped cursor before) (hsettles : ∀ s ∈ before, s.Settles o record) :
    ∃ reports, Trace record (before.filter (·.isUnresolved o record)) reports ∧
      ∀ rest : List Segment,
        (spliceFrom o stripped record cursor (before ++ rest)).reports =
          reports ++ (spliceFrom o stripped record (endFrom cursor before) rest).reports ∧
        ∀ fault, (spliceFrom o stripped record cursor (before ++ rest)).result = .error fault ↔
          (spliceFrom o stripped record (endFrom cursor before) rest).result = .error fault := by
  induction before generalizing cursor with
  | nil => exact ⟨[], .nil, fun rest => ⟨rfl, fun _ => Iff.rfl⟩⟩
  | cons s before ih =>
      obtain ⟨hs, hsettles⟩ := List.forall_mem_cons.1 hsettles
      obtain ⟨reports, htrace, hrun⟩ := ih hfits.2 hsettles
      rcases hs with ⟨text, hvalue⟩ | ⟨hvalue, shown, hshown⟩
      · have hresolves : s.isUnresolved o record = false := by rw [Segment.isUnresolved, hvalue]
        refine ⟨reports, ?_, fun rest => ?_⟩
        · rwa [List.filter_cons, hresolves, if_neg Bool.false_ne_true]
        · obtain ⟨hreports, hresult⟩ := hrun rest
          rw [List.cons_append, spliceFrom, if_pos hfits.1, hvalue, endFrom]
          exact ⟨hreports, fun fault => Outcome.map_eq_error.trans (hresult fault)⟩
      · have hunresolved : s.isUnresolved o record = true := by rw [Segment.isUnresolved, hvalue]
        refine ⟨s.errorLine :: .log shown :: reports, ?_, fun rest => ?_⟩
        · rw [List.filter_cons, hunresolved, if_pos rfl]
          exact .cons hshown htrace
        · obtain ⟨hreports, hresult⟩ := hrun rest
          rw [List.cons_append, spliceFrom, if_pos hfits.1, hvalue, hshown, endFrom]
          exact ⟨congrArg (_ ++ ·) hreports,
            fun fault => Outcome.map_eq_error.trans (hresult fault)⟩

/-- **Where a run stops.**  All segments fit and settle, or there is a first that does not. -/
theorem passes_or_stops (o : SlugOptions) (stripped : Text) (record : Value) (cursor : Int) :
    ∀ segments : List Segment,
      (FitsFrom stripped cursor segments ∧ ∀ s ∈ segments, s.Settles o record) ∨
      ∃ before s after, segments = before ++ s :: after ∧ FitsFrom stripped cursor before ∧
        (∀ s ∈ before, s.Settles o record) ∧
        ¬ (s.fits stripped (endFrom cursor before) = true ∧ s.Settles o record) := by
  intro segments
  induction segments generalizing cursor with
  | nil => exact .inl ⟨trivial, by simp⟩
  | cons s segments ih =>
      by_cases hs : s.fits stripped cursor = true ∧ s.Settles o record
      · rcases ih s.stop with ⟨hfits, hsettles⟩ | ⟨before, t, after, rfl, hfits, hsettles, ht⟩
        · exact .inl ⟨⟨hs.1, hfits⟩, List.forall_mem_cons.2 ⟨hs.2, hsettles⟩⟩
        · exact .inr ⟨s :: before, t, after, rfl, ⟨hs.1, hfits⟩,
            List.forall_mem_cons.2 ⟨hs.2, hsettles⟩, ht⟩
      · exact .inr ⟨[], s, segments, rfl, trivial, by simp, hs⟩

/-- A run that finds the template malformed stops at a segment that does not fit. -/
theorem reports_of_malformed {segments : List Segment} {cursor : Int} {m : Malformed}
    (h : (spliceFrom o stripped record cursor segments).result = .error (.malformed m)) :
    ∃ before s after, segments = before ++ s :: after ∧ FitsFrom stripped cursor before ∧
      s.fits stripped (endFrom cursor before) = false ∧
      Fault.malformed m = s.misplacedIn stripped ∧
      Trace record (before.filter (·.isUnresolved o record))
        (spliceFrom o stripped record cursor segments).reports := by
  rcases passes_or_stops o stripped record cursor segments with
    ⟨hfits, hsettles⟩ | ⟨before, s, after, rfl, hfits, hsettles, hs⟩
  · rw [result_spliceFrom.2 ⟨hfits, hsettles, rfl⟩] at h
    cases h
  · obtain ⟨reports, htrace, hrun⟩ := spliceFrom_append hfits hsettles
    obtain ⟨hreports, hresult⟩ := hrun (s :: after)
    have hstop := (hresult _).1 h
    -- Had it fitted without settling, the fault would be another one.
    have hfit : ¬ s.fits stripped (endFrom cursor before) = true := fun hfit =>
      errorsIn_spliceFrom_cons hfit (fun hsettles => absurd ⟨hfit, hsettles⟩ hs) _ hstop m rfl
    rw [spliceFrom, if_neg hfit] at hstop
    refine ⟨before, s, after, rfl, hfits, Bool.not_eq_true _ ▸ hfit, ?_, ?_⟩
    · exact (Except.error.inj hstop).symm
    · rwa [hreports, spliceFrom, if_neg hfit, Reported.silent, List.append_nil]

/-- A run that ends without a fault reports the trace of its segments. -/
theorem reports_of_ok {segments : List Segment} {cursor : Int} {r : Text × List Segment}
    (h : (spliceFrom o stripped record cursor segments).result = .ok r) :
    Trace record (segments.filter (·.isUnresolved o record))
      (spliceFrom o stripped record cursor segments).reports := by
  obtain ⟨hfits, hsettles, -⟩ := result_spliceFrom.1 h
  obtain ⟨reports, htrace, hrun⟩ := spliceFrom_append hfits hsettles
  have hreports := (hrun []).1
  rw [List.append_nil, spliceFrom, Reported.silent, List.append_nil] at hreports
  rwa [hreports]

end Run

/-! ### The trace of a resolution -/

/-- **The trace of a resolution is exact.**  Segments are taken in order of their starts.  A
resolution that ends without a fault adds to what was reported the trace of the segments that do not
resolve; they are the errors of what is derived, which fails with their texts if there are any.  A
resolution that finds its template malformed adds the trace of those before the first segment that
does not fit. -/
theorem resolve_trace (o : SlugOptions) (stripped : Text) (segments : List Segment) (record : Value)
    (earlier : List Report) :
    InStartOrder segments (inOrder segments) ∧
    (∀ d, (resolve o stripped segments record).result = .ok d →
      (∃ trace, Trace record ((inOrder segments).filter (·.isUnresolved o record)) trace ∧
        (resolve o stripped segments record).onto earlier = earlier ++ trace) ∧
      d.errors = (inOrder segments).filter (·.isUnresolved o record) ∧
      d.result = if d.errors = [] then .ok d.path
        else .error (.unresolved stripped (d.errors.map (·.raw)))) ∧
    (∀ m, (resolve o stripped segments record).result = .error (.malformed m) →
      ∃ before s after, inOrder segments = before ++ s :: after ∧ FitsFrom stripped 0 before ∧
        s.fits stripped (endFrom 0 before) = false ∧
        Fault.malformed m = s.misplacedIn stripped ∧
        ∃ trace, Trace record (before.filter (·.isUnresolved o record)) trace ∧
          (resolve o stripped segments record).onto earlier = earlier ++ trace) := by
  refine ⟨inStartOrder_inOrder segments, fun d h => ?_, fun m h => ?_⟩
  · obtain ⟨r, hrun, -⟩ := Outcome.map_eq_ok.1 h
    obtain ⟨-, -, rfl⟩ := result_resolve.1 h
    exact ⟨⟨_, reports_of_ok hrun, rfl⟩, rfl, Derived.result_eq _⟩
  · obtain ⟨before, s, after, hsegments, hfits, hs, hm, htrace⟩ :=
      reports_of_malformed (Outcome.map_eq_error.1 h)
    exact ⟨before, s, after, hsegments, hfits, hs, hm, _, htrace, rfl⟩

/-- The template `a/{P.n}{P.m}//b`. -/
def tiedTemplate : Text := "a/\x7bP.n\x7d\x7bP.m\x7d//b".toList

/-- Its two segments, the last one first, and between them an empty one that starts where the first
one does. -/
def tied : List Segment :=
  [fieldSegment ['m'] "\x7bP.m\x7d".toList 7 12, fieldSegment ['k'] [] 2 2,
    fieldSegment ['n'] "\x7bP.n\x7d".toList 2 7]

theorem inOrder_tied : inOrder tied = [fieldSegment ['k'] [] 2 2,
    fieldSegment ['n'] "\x7bP.n\x7d".toList 2 7, fieldSegment ['m'] "\x7bP.m\x7d".toList 7 12] := by
  simp [inOrder, tied, List.mergeSort, fieldSegment]

theorem inOrder_cons_tied : inOrder (fieldSegment ['o'] ['m'] 10 11 :: tied) =
    inOrder tied ++ [fieldSegment ['o'] ['m'] 10 11] := by
  simp [inOrder, tied, List.mergeSort, fieldSegment]

/-- The segments at a record that lacks two of the fields, and with a fourth one that starts before
the third one ends. -/
theorem resolve_trace_tied :
    (∃ trace, Trace (fieldRecord ['X'])
        [fieldSegment ['k'] [] 2 2, fieldSegment ['m'] "\x7bP.m\x7d".toList 7 12] trace ∧
      (resolve {} tiedTemplate tied (fieldRecord ['X'])).onto [.log ['x']] = .log ['x'] :: trace) ∧
    (∃ before s after, inOrder (fieldSegment ['o'] ['m'] 10 11 :: tied) = before ++ s :: after ∧
      s.fits tiedTemplate (endFrom 0 before) = false ∧
      ∃ trace, Trace (fieldRecord ['X']) (before.filter (·.isUnresolved {} (fieldRecord ['X'])))
          trace ∧
        (resolve {} tiedTemplate (fieldSegment ['o'] ['m'] 10 11 :: tied)
          (fieldRecord ['X'])).onto [.log ['x']] = .log ['x'] :: trace) := by
  have hok : (resolve {} tiedTemplate tied (fieldRecord ['X'])).result =
      .ok ⟨tiedTemplate, "a/x\x7bP.m\x7d/b".toList,
        [fieldSegment ['k'] [] 2 2, fieldSegment ['m'] "\x7bP.m\x7d".toList 7 12]⟩ := by
    rw [resolve, inOrder_tied]
    decide +kernel
  have hmalformed : (resolve {} tiedTemplate (fieldSegment ['o'] ['m'] 10 11 :: tied)
      (fieldRecord ['X'])).result =
      .error (.malformed ⟨tiedTemplate, .misplaced ['m'], some 10⟩) := by
    rw [resolve, inOrder_cons_tied, inOrder_tied]
    decide +kernel
  obtain ⟨htrace, herrors, -⟩ :=
    (resolve_trace {} tiedTemplate tied (fieldRecord ['X']) [.log ['x']]).2.1 _ hok
  obtain ⟨before, s, after, horder, -, hs, -, hstop⟩ :=
    (resolve_trace {} tiedTemplate (fieldSegment ['o'] ['m'] 10 11 :: tied) (fieldRecord ['X'])
      [.log ['x']]).2.2 _ hmalformed
  rw [← herrors] at htrace
  exact ⟨htrace, before, s, after, horder, hs, hstop⟩

end Resolution
end Permalink
