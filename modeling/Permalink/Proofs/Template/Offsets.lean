import Mathlib.Data.List.Nodup
import Permalink.Proofs.Template.Reading

/-!
# Template — where segments stand

The segments of an analyzed template stand in it one behind the other: each takes up part of the
text, which is its own text, and ends before the next one starts (`Layout.placed`).  Some of the
segments stand in the template in the same way (`Placed.sublist`), and where a segment starts says
which it is (`Placed.pairwise_start`).
-/

namespace Permalink.Template

/-- The segments stand in the text one behind the other, none of them empty. -/
structure Placed (text : Text) (segments : List Segment) : Prop where
  /-- A segment takes up part of the text. -/
  inside : ∀ s ∈ segments, 0 ≤ s.start ∧ s.start < s.stop ∧ s.stop ≤ text.length
  /-- Its text stands at its offsets. -/
  inPlace : ∀ s ∈ segments, text.slice s.start s.stop = s.raw
  /-- It ends before those behind it start. -/
  apart : segments.Pairwise fun a b => a.stop ≤ b.start

namespace Placed

variable {text : Text} {s : Segment} {segments l : List Segment}

theorem sublist (h : Placed text segments) (hl : l.Sublist segments) : Placed text l where
  inside s hs := h.inside s (hl.subset hs)
  inPlace s hs := h.inPlace s (hl.subset hs)
  apart := h.apart.sublist hl

theorem cons_iff : Placed text (s :: segments) ↔
    ((0 ≤ s.start ∧ s.start < s.stop ∧ s.stop ≤ text.length) ∧
      text.slice s.start s.stop = s.raw ∧ ∀ b ∈ segments, s.stop ≤ b.start) ∧
    Placed text segments := by
  constructor
  · intro h
    obtain ⟨hinside, hinside'⟩ := List.forall_mem_cons.1 h.inside
    obtain ⟨hraw, hraw'⟩ := List.forall_mem_cons.1 h.inPlace
    obtain ⟨hapart, hapart'⟩ := List.pairwise_cons.1 h.apart
    exact ⟨⟨hinside, hraw, hapart⟩, hinside', hraw', hapart'⟩
  · rintro ⟨⟨hinside, hraw, hapart⟩, h⟩
    exact ⟨List.forall_mem_cons.2 ⟨hinside, h.inside⟩, List.forall_mem_cons.2 ⟨hraw, h.inPlace⟩,
      List.pairwise_cons.2 ⟨hapart, h.apart⟩⟩

/-- A segment starts before those behind it. -/
theorem pairwise_start (h : Placed text segments) :
    segments.Pairwise fun a b => a.start < b.start := by
  refine h.apart.imp_of_mem fun {a b} ha _ hab => ?_
  exact Int.lt_of_lt_of_le (h.inside a ha).2.1 hab

theorem nodup (h : Placed text segments) : segments.Nodup := by
  refine h.pairwise_start.imp fun {a b} hab => ?_
  rintro rfl
  exact Int.lt_irrefl _ hab

theorem eq_of_start_eq (h : Placed text segments) {a b : Segment} (ha : a ∈ segments)
    (hb : b ∈ segments) (hstart : a.start = b.start) : a = b := by
  have hnodup : (segments.map (·.start)).Nodup :=
    List.pairwise_map.2 (h.pairwise_start.imp Int.ne_of_lt)
  exact List.inj_on_of_nodup_map hnodup ha hb hstart

end Placed

/-- Segments that are read from parts stand in what the parts write. -/
theorem Reads.placed {i : Nat} {parts : List Part} {segments : List Segment}
    (h : Reads i parts segments) :
    ∀ before : Text, before.length = i → Placed (before ++ written parts) segments := by
  induction h with
  | nil => exact fun _ _ => ⟨by simp, by simp, .nil⟩
  | @plain i t parts segments _ ih =>
      rintro before rfl
      have ih := ih (before ++ t) (List.length_append ..)
      rwa [List.append_assoc] at ih
  | @region i body parts s segments hread hrest ih =>
      rintro before rfl
      obtain ⟨⟨hraw, hstart, hstop⟩, -⟩ := Segment.ofRaw_eq_ok_iff.1 hread
      have hlength := Part.length_text_region body
      have ih := ih (before ++ (Part.region body).text) (by rw [List.length_append, hlength])
      rw [List.append_assoc] at ih
      have hinside : 0 ≤ s.start ∧ s.start < s.stop ∧
          s.stop ≤ ((before ++ ((Part.region body).text ++ written parts)).length : Int) := by
        rw [hstart, hstop, List.length_append, List.length_append, hlength]
        omega
      have hslice : Text.slice (before ++ ((Part.region body).text ++ written parts))
          s.start s.stop = s.raw := by
        rw [hstart, hstop, hraw, ← hlength, slice_append_append]
      rw [written_cons]
      exact Placed.cons_iff.2 ⟨⟨hinside, hslice, fun b hb => hstop ▸ hrest.start_le b hb⟩, ih⟩

/-- The segments of a text stand in it. -/
theorem placed_of_readSegments {text : Text} {segments : List Segment}
    (h : readSegments text = .ok segments) : Placed text segments := by
  obtain ⟨parts, -, rfl, hreads⟩ := readSegments_eq_ok_iff.1 h
  exact hreads.placed [] rfl

/-- **The segments of an analyzed template stand in it**, one behind the other. -/
theorem Layout.placed {t : Template} {parts : List Part} (h : Layout t parts) :
    Placed t.stripped t.segments := by
  have hplaced := h.reads.placed [] rfl
  rwa [List.nil_append, h.written] at hplaced

end Permalink.Template
