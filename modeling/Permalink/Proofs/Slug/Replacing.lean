import Mathlib.Data.List.Basic
import Permalink.Proofs.Outcome
import Permalink.Proofs.Text.Replacing
import Permalink.Slug.Basic

/-!
# Slug — replacements of text by text

Options can hold replacements whose parts are no text; making one fails.  If all parts are text then
the replacements are made, and a slug fails only of the separator that cannot be inserted
(`exists_slug`).

* Replacements of which each misses some character in the text leave it alone
  (`replace_eq_self`).
* Replacements of single characters put together replace character by character, and a character
  that none replaces stays (`exists_replace_eq_flatMap`); the options by default spell out the
  ampersand (`replace_default`).
-/

namespace Permalink

/-- The replacement puts the text `new` for the text `old`. -/
structure Replacement.Puts (r : Replacement) (old new : Text) : Prop where
  old_eq : r.old = .text old
  new_eq : r.new = .text new

namespace Replacement

variable {r : Replacement} {old new : Text}

theorem Puts.apply_eq (h : r.Puts old new) (t : Text) :
    r.apply t = .ok (Text.replaceAll old new t) := by
  rw [apply, h.old_eq, h.new_eq]

/-- What a replacement puts in place of a single character. -/
theorem Puts.apply_singleton {k : Char} (h : r.Puts [k] new) (t : Text) :
    r.apply t = .ok (t.flatMap fun a => if a = k then new else [a]) := by
  rw [h.apply_eq, Text.replaceAll_singleton]

/-! ### Replacements one after the other -/

variable {rs : List Replacement}

theorem exists_foldlM_apply (h : ∀ r ∈ rs, ∃ old new, r.Puts old new) (t : Text) :
    ∃ u, rs.foldlM (fun t r => r.apply t) t = .ok u := by
  induction rs generalizing t with
  | nil => exact ⟨t, rfl⟩
  | cons r rs ih =>
      obtain ⟨⟨old, new, hr⟩, hrs⟩ := List.forall_mem_cons.1 h
      obtain ⟨u, hu⟩ := ih hrs (Text.replaceAll old new t)
      refine ⟨u, ?_⟩
      rw [List.foldlM_cons, hr.apply_eq]
      exact hu

theorem foldlM_apply_eq_self {t : Text}
    (h : ∀ r ∈ rs, ∃ old new, r.Puts old new ∧ ∃ c ∈ old, c ∉ t) :
    rs.foldlM (fun t r => r.apply t) t = .ok t := by
  induction rs with
  | nil => rfl
  | cons r rs ih =>
      obtain ⟨⟨old, new, hr, c, hc, hct⟩, hrs⟩ := List.forall_mem_cons.1 h
      rw [List.foldlM_cons, hr.apply_eq, Text.replaceAll_of_not_mem hc hct]
      exact ih hrs

theorem exists_foldlM_apply_eq_flatMap (h : ∀ r ∈ rs, ∃ k new, r.Puts [k] new) :
    ∃ f : Char → Text, (∀ t : Text, rs.foldlM (fun t r => r.apply t) t = .ok (t.flatMap f)) ∧
      ∀ c, (∀ r ∈ rs, r.old ≠ .text [c]) → f c = [c] := by
  induction rs with
  | nil =>
      refine ⟨fun a => [a], fun t => ?_, fun _ _ => rfl⟩
      rw [List.flatMap_singleton']
      rfl
  | cons r rs ih =>
      obtain ⟨⟨k, new, hr⟩, hrs⟩ := List.forall_mem_cons.1 h
      obtain ⟨f, hf, hkept⟩ := ih hrs
      -- The other replacements are made in what the first one has put there.
      refine ⟨fun a => (if a = k then new else [a]).flatMap f, fun t => ?_, fun c hc => ?_⟩
      · rw [List.foldlM_cons, hr.apply_singleton, ← List.flatMap_assoc]
        exact hf _
      · obtain ⟨hne, hcs⟩ := List.forall_mem_cons.1 hc
        have hck : c ≠ k := fun he => hne (by rw [hr.old_eq, he])
        simpa [hck] using hkept c hcs

end Replacement

namespace SlugOptions

variable {o : SlugOptions}

/-- Both parts of every replacement are text. -/
def TextReplacements (o : SlugOptions) : Prop :=
  ∀ r ∈ o.replacements, ∃ old new, r.Puts old new

/-- With the replacements made, a slug fails only of its separator. -/
theorem slug_of_replace (hmark : o.separator.mark ≠ '\\') {t u : Text} (h : o.replace t = .ok u) :
    o.slug t = .ok (o.replacedSlug u) :=
  Outcome.bind_eq_ok.2 ⟨u, h, if_neg hmark⟩

/-- **A slug is made** if replacements are of text by text and the separator can be inserted. -/
theorem exists_slug (h : o.TextReplacements) (hmark : o.separator.mark ≠ '\\') (t : Text) :
    ∃ u, o.replace t = .ok u ∧ o.slug t = .ok (o.replacedSlug u) := by
  obtain ⟨u, hu⟩ := Replacement.exists_foldlM_apply h t
  exact ⟨u, hu, slug_of_replace hmark hu⟩

/-- **Text in which something of each key is missing** has nothing replaced. -/
theorem replace_eq_self {t : Text}
    (h : ∀ r ∈ o.replacements, ∃ old new, r.Puts old new ∧ ∃ c ∈ old, c ∉ t) :
    o.replace t = .ok t :=
  Replacement.foldlM_apply_eq_self h

/-- **Replacements of single characters** replace character by character, one for all, and keep
what none of them replaces. -/
theorem exists_replace_eq_flatMap (h : ∀ r ∈ o.replacements, ∃ k new, r.Puts [k] new) :
    ∃ f : Char → Text, (∀ t, o.replace t = .ok (t.flatMap f)) ∧
      ∀ c, (∀ r ∈ o.replacements, r.old ≠ .text [c]) → f c = [c] :=
  Replacement.exists_foldlM_apply_eq_flatMap h

/-- What is put for a character by default. -/
def ampersandSpelled (c : Char) : Text := if c = '&' then [' ', 'a', 'n', 'd', ' '] else [c]

/-- **By default** the ampersand is spelled out, and nothing else replaced. -/
theorem replace_default (t : Text) :
    ({} : SlugOptions).replace t = .ok (t.flatMap ampersandSpelled) := by
  have hputs : Replacement.Puts ⟨.text ['&'], .text [' ', 'a', 'n', 'd', ' '], rfl⟩ ['&']
      [' ', 'a', 'n', 'd', ' '] := ⟨rfl, rfl⟩
  have hmade := hputs.apply_singleton t
  rw [replace, List.foldlM_cons, hmade]
  rfl

end SlugOptions
end Permalink
