import Permalink.Proofs.Template.Parts
import Permalink.Template.Path

/-!
# Template — collapsing slashes in written parts

Collapsing slashes passes over text without slashes (`collapseSlashes_append`).  So if no region of
some parts has a slash in it, then what is written is collapsed to a text that is again written by
parts, with the same regions (`exists_parts_collapseSlashes`).

Collapsing two texts before they are put together makes no difference to what is collapsed in the
end (`collapseSlashes_append_slash`).
-/

namespace Permalink

namespace Text

/-! ### Squeezing in steps -/

section Squeeze

variable {p : Char → Bool} {c : Char}

theorem any_head?_append {a : Text} (ha : a.head?.any p = true) (b : Text) :
    (a ++ b).head?.any p = true := by
  cases a with
  | nil => cases ha
  | cons x a => exact ha

/-- What is squeezed starts with a character of the class just if the text does. -/
theorem any_head?_squeeze_append (hc : p c = true) (a b : Text) :
    (squeeze p c a ++ b).head?.any p = (a ++ b).head?.any p := by
  induction a with
  | nil => rfl
  | cons x a ih =>
      rw [squeeze]
      by_cases hx : p x = true
      · rw [if_pos hx]
        split
        · next ha =>
          exact ih.trans ((any_head?_append ha b).trans hx.symm)
        · exact hc.trans hx.symm
      · rw [if_neg hx]
        rfl

theorem any_head?_squeeze (hc : p c = true) (t : Text) :
    (squeeze p c t).head?.any p = t.head?.any p := by
  have hhead := any_head?_squeeze_append hc t []
  rwa [List.append_nil, List.append_nil] at hhead

/-- Squeezing the first of two texts before the whole makes no difference. -/
theorem squeeze_squeeze_append (hc : p c = true) (a b : Text) :
    squeeze p c (squeeze p c a ++ b) = squeeze p c (a ++ b) := by
  induction a with
  | nil => rfl
  | cons x a ih =>
      have hhead := any_head?_squeeze_append hc a b
      rw [List.cons_append, squeeze, squeeze]
      by_cases hx : p x = true
      · rw [if_pos hx, if_pos hx]
        -- Of a run only the last character is written, and it may end in the second text.
        split
        · next ha =>
          rw [if_pos (any_head?_append ha b), ih]
        · rw [List.cons_append, squeeze, if_pos hc, hhead, ih]
      · rw [if_neg hx, if_neg hx, List.cons_append, squeeze, if_neg hx, ih]

/-- Nor does squeezing the second. -/
theorem squeeze_append_squeeze (hc : p c = true) (a b : Text) :
    squeeze p c (a ++ squeeze p c b) = squeeze p c (a ++ b) := by
  induction a with
  | nil =>
      have hb := squeeze_squeeze_append hc b []
      rwa [List.append_nil, List.append_nil] at hb
  | cons x a ih =>
      have hhead : (a ++ squeeze p c b).head?.any p = (a ++ b).head?.any p := by
        cases a with
        | nil => exact any_head?_squeeze hc b
        | cons y a => rfl
      rw [List.cons_append, List.cons_append, squeeze, squeeze, hhead, ih]

end Squeeze

end Text

namespace Path

/-- Text without slashes is passed over. -/
theorem collapseSlashes_append : ∀ {t : Text} (rest : Text), '/' ∉ t →
    collapseSlashes (t ++ rest) = t ++ collapseSlashes rest
  | [], _, _ => rfl
  | c :: t, rest, h => by
      obtain ⟨hc, ht⟩ := not_or.1 (mt List.mem_cons.2 h)
      have ih := collapseSlashes_append rest ht
      have hne : (c == '/') = false := by simpa using Ne.symm hc
      rw [collapseSlashes] at ih ⊢
      rw [List.cons_append, Text.squeeze, hne, ih]
      rfl

/-- **Collapsing before and after** two paths are put together is collapsing after. -/
theorem collapseSlashes_append_slash (a b : Text) :
    collapseSlashes (collapseSlashes a ++ '/' :: collapseSlashes b) =
      collapseSlashes (a ++ '/' :: b) := by
  calc collapseSlashes (collapseSlashes a ++ '/' :: collapseSlashes b)
      = collapseSlashes (a ++ '/' :: collapseSlashes b) :=
        Text.squeeze_squeeze_append (p := (· == '/')) rfl a _
    _ = collapseSlashes ((a ++ ['/']) ++ collapseSlashes b) := by rw [List.append_cons]
    _ = collapseSlashes ((a ++ ['/']) ++ b) :=
        Text.squeeze_append_squeeze (p := (· == '/')) rfl _ b
    _ = collapseSlashes (a ++ '/' :: b) := by rw [← List.append_cons]

end Path

namespace Template

/-- Collapsed, the text is written by parts with the regions `raws`. -/
def CollapsesTo (raws : List Text) (t : Text) : Prop :=
  ∃ parts : List Part, (∀ p ∈ parts, p.BraceFree) ∧ written parts = Path.collapseSlashes t ∧
    regionTexts parts = raws

/-- One more character in front is kept, or is the first of two slashes and dropped. -/
theorem CollapsesTo.cons {raws : List Text} {t : Text} {c : Char} (hc : c ≠ '{' ∧ c ≠ '}')
    (h : CollapsesTo raws t) : CollapsesTo raws (c :: t) := by
  obtain ⟨parts, hparts, hwritten, hraws⟩ := h
  have hkeep : ∀ a : Char, a ≠ '{' ∧ a ≠ '}' →
      Path.collapseSlashes (c :: t) = a :: Path.collapseSlashes t →
      CollapsesTo raws (c :: t) := fun a ha e =>
    ⟨.plain [a] :: parts, List.forall_mem_cons.2 ⟨.singleton ha, hparts⟩,
      by rw [written_cons, hwritten, e]; rfl, hraws⟩
  -- Only a slash with a slash behind it is dropped.
  by_cases hslash : (c == '/') = true
  · by_cases hnext : t.head?.any (· == '/') = true
    · refine ⟨parts, hparts, ?_, hraws⟩
      rw [hwritten, Path.collapseSlashes, Path.collapseSlashes, Text.squeeze, if_pos hslash,
        if_pos hnext]
    · refine hkeep '/' (by decide) ?_
      rw [Path.collapseSlashes, Path.collapseSlashes, Text.squeeze, if_pos hslash, if_neg hnext]
  · refine hkeep c hc ?_
    rw [Path.collapseSlashes, Path.collapseSlashes, Text.squeeze, if_neg hslash]

theorem CollapsesTo.append {raws : List Text} {u : Text} (h : CollapsesTo raws u) :
    ∀ {t : Text}, t.BraceFree → CollapsesTo raws (t ++ u)
  | [], _ => h
  | _ :: _, ht =>
      let ⟨hc, ht⟩ := Text.BraceFree.cons_iff.1 ht
      (h.append ht).cons hc

/-- **Collapsing slashes keeps regions** that have no slashes. -/
theorem exists_parts_collapseSlashes : ∀ {parts : List Part}, (∀ p ∈ parts, p.BraceFree) →
    (∀ raw ∈ regionTexts parts, '/' ∉ raw) → CollapsesTo (regionTexts parts) (written parts)
  | [], _, _ => ⟨[], by simp, rfl, rfl⟩
  | .plain t :: parts, h, hraws => by
      obtain ⟨ht, hparts⟩ := List.forall_mem_cons.1 h
      exact (exists_parts_collapseSlashes hparts hraws).append ht
  | .region body :: parts, h, hraws => by
      obtain ⟨hbody, hparts⟩ := List.forall_mem_cons.1 h
      obtain ⟨hslash, hraws⟩ := List.forall_mem_cons.1 hraws
      obtain ⟨parts', hparts', hwritten, hregions⟩ := exists_parts_collapseSlashes hparts hraws
      refine ⟨.region body :: parts', List.forall_mem_cons.2 ⟨hbody, hparts'⟩, ?_, ?_⟩
      · rw [written_cons, written_cons, hwritten, Path.collapseSlashes_append _ hslash]
      · rw [regionTexts_region, regionTexts_region, hregions]

end Template
end Permalink
