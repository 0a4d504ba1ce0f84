import Permalink.Proofs.Slug.Grammar

/-!
# Slug — what the separator and the case do not change

Two options are used only when the words of a slug are there.

* The words do not depend on the separator, and no word has it.  So **a slug with another separator
  is the slug, split at its own separator and joined by the other** (`slug_separator`), whatever
  else the options say.
* Where text is folded, all that is put in lower case is ASCII.  So **a slug in lower case is the
  slug as it is otherwise, with its ASCII capitals lowered** (`slug_lowercase`), and it has its
  words in the same places.

The first is read off the words of slugs for all text.  The second needs the fold: without it a
capital can become two characters, of which one is dropped.
-/

namespace Permalink

namespace Slug

/-- Words joined by a character that none of them has. -/
theorem splitOn_intercalate_words {mark : Char} {words : List Text}
    (h : ∀ w ∈ words, mark ∉ w) :
    (List.intercalate [mark] words).splitOn mark = if words = [] then [[]] else words := by
  split
  · next hnil =>
    subst hnil
    rfl
  · next hne => exact List.splitOn_intercalate mark h hne

theorem word_true_eq_map (w : Text) : word true w = (word false w).map Char.toLower := by
  rw [word, if_pos rfl, word, if_neg Bool.false_ne_true, List.filter_map]
  exact congrArg _ (List.filter_congr fun a _ => isAlphanum_toLower a)

/-- What is put in lower case is the same words. -/
theorem filter_map_word_true (ws : List Text) : (ws.map (word true)).filter (· ≠ []) =
    ((ws.map (word false)).filter (· ≠ [])).map (List.map Char.toLower) := by
  have hmap : ws.map (word true) = (ws.map (word false)).map (List.map Char.toLower) := by
    rw [List.map_map]
    exact List.map_congr_left fun w _ => word_true_eq_map w
  rw [hmap, List.filter_map]
  exact congrArg _ (List.filter_congr fun w _ => by simp)

end Slug

namespace SlugOptions

open Slug

variable {o : SlugOptions}

theorem slug_eq_map (hmark : o.separator.mark ≠ '\\') (t : Text) :
    o.slug t = (o.replace t).map o.replacedSlug := by
  cases h : o.replace t with
  | ok u => exact slug_of_replace hmark h
  | error e =>
      rw [slug, h]
      rfl

theorem mark_not_mem_slugWords {t w : Text} (hw : w ∈ o.slugWords t) : o.separator.mark ∉ w :=
  fun hmem => ne_mark_of_isAlnum ((isAlnum_of_mem_slugWords hw).2 _ hmem) rfl

/-! ### The separator -/

theorem replacedSlug_separator (s : Separator) (t : Text) :
    ({ o with separator := s } : SlugOptions).replacedSlug t =
      List.intercalate [s.mark] ((o.replacedSlug t).splitOn o.separator.mark) := by
  rw [replacedSlug_eq_intercalate o, splitOn_intercalate_words fun w => mark_not_mem_slugWords,
    replacedSlug_eq_intercalate]
  have hwords : ({ o with separator := s } : SlugOptions).slugWords t = o.slugWords t := rfl
  rw [hwords]
  split
  · next hnil => rw [hnil]; rfl
  · rfl

/-- **The words do not depend on the separator.**  Let two options differ only in their separators,
neither of them a backslash.  Then the slug of a text by the one is the slug by the other, split at
its separator and joined by the first; where one is not made the other is not, with the same fault,
and replacements of text by text are always made. -/
theorem slug_separator {s : Separator} (hmark : o.separator.mark ≠ '\\') (hmark' : s.mark ≠ '\\')
    (t : Text) :
    (o.TextReplacements → ∃ x, o.slug t = .ok x) ∧
    ({ o with separator := s } : SlugOptions).slug t =
      (o.slug t).map fun x => List.intercalate [s.mark] (x.splitOn o.separator.mark) := by
  refine ⟨fun h => ?_, ?_⟩
  · obtain ⟨u, -, hslug⟩ := exists_slug h hmark t
    exact ⟨_, hslug⟩
  · have hreplace : ({ o with separator := s } : SlugOptions).replace t = o.replace t := rfl
    rw [slug_eq_map hmark, slug_eq_map hmark', hreplace]
    cases o.replace t with
    | ok u => exact congrArg Except.ok (replacedSlug_separator s u)
    | error e => rfl

/-- A text with underscores and hyphens, of which each separates words, and with either as the
separator. -/
theorem slug_separator_underscore :
    '-' ≠ '\\' ∧ '_' ≠ '\\' ∧ ∃ x, ({} : SlugOptions).slug "Foo_bar--4.2 fooBar".toList = .ok x ∧
      ({ separator := ⟨'_', by decide, by decide⟩ } : SlugOptions).slug
          "Foo_bar--4.2 fooBar".toList = .ok (List.intercalate ['_'] (x.splitOn '-')) := by
  obtain ⟨hmade, hslug⟩ := slug_separator (o := {}) (s := ⟨'_', by decide, by decide⟩) (by decide)
    (by decide) "Foo_bar--4.2 fooBar".toList
  obtain ⟨x, hx⟩ := hmade textReplacements_default
  refine ⟨by decide, by decide, x, hx, ?_⟩
  rw [hx] at hslug
  exact hslug

/-! ### The case -/

section Case

variable {on off : Value}

theorem slugWords_lowercase (hfold : o.stripDiacritics.truthy = true) (hon : on.truthy = true)
    (hoff : off.truthy = false) (t : Text) :
    ({ o with lowercase := on } : SlugOptions).slugWords t =
      (({ o with lowercase := off } : SlugOptions).slugWords t).map (List.map Char.toLower) := by
  rw [slugWords_of_fold (by exact hfold), slugWords_of_fold (by exact hfold)]
  show ((Text.runs isWordBreak (Fold.toAscii (o.parted t))).map (word on.truthy)).filter _ =
    (((Text.runs isWordBreak (Fold.toAscii (o.parted t))).map (word off.truthy)).filter _).map _
  rw [hon, hoff]
  exact filter_map_word_true _

theorem not_isAlphanum_mark (o : SlugOptions) : o.separator.mark.isAlphanum = false := by
  rw [Bool.eq_false_iff]
  intro hletter
  have halnum := o.separator.not_alnum
  rw [Text.isAlnum_of_ascii (Text.toNat_lt_of_isAlphanum hletter), hletter] at halnum
  cases halnum

/-- No letter is lowered to the separator but the separator itself. -/
theorem toLower_eq_mark {a : Char} : a.toLower = o.separator.mark ↔ a = o.separator.mark := by
  have hmark := not_isAlphanum_mark o
  have hkept : ∀ b : Char, b.isAlphanum = false → b.toLower = b := fun b hb =>
    (toLower_eq_or b).resolve_right fun h => by
      rw [Char.isAlphanum, h.1] at hb
      cases hb
  constructor
  · intro he
    have ha : a.isAlphanum = false := by rw [← isAlphanum_toLower, he, hmark]
    rw [← he, hkept a ha]
  · rintro rfl
    exact hkept _ hmark

theorem replacedSlug_lowercase (hfold : o.stripDiacritics.truthy = true) (hon : on.truthy = true)
    (hoff : off.truthy = false) (t : Text) :
    ({ o with lowercase := on } : SlugOptions).replacedSlug t =
      (({ o with lowercase := off } : SlugOptions).replacedSlug t).map Char.toLower := by
  rw [replacedSlug_eq_intercalate, replacedSlug_eq_intercalate, slugWords_lowercase hfold hon hoff,
    Text.map_intercalate, toLower_eq_mark.2 rfl]

/-- A slug in lower case is split as the slug is. -/
theorem splitOn_map_toLower (o : SlugOptions) (t : Text) :
    ((o.replacedSlug t).map Char.toLower).splitOn o.separator.mark =
      ((o.replacedSlug t).splitOn o.separator.mark).map (List.map Char.toLower) := by
  have hlowered : ∀ w ∈ (o.slugWords t).map (List.map Char.toLower), o.separator.mark ∉ w := by
    intro w hw hmem
    obtain ⟨v, hv, rfl⟩ := List.mem_map.1 hw
    obtain ⟨a, ha, he⟩ := List.mem_map.1 hmem
    rw [toLower_eq_mark] at he
    exact mark_not_mem_slugWords hv (he ▸ ha)
  rw [replacedSlug_eq_intercalate, Text.map_intercalate, toLower_eq_mark.2 rfl,
    splitOn_intercalate_words hlowered, splitOn_intercalate_words fun w => mark_not_mem_slugWords]
  simp only [List.map_eq_nil_iff]
  split
  · rfl
  · rfl

/-- **Lower case changes letters only.**  Let the options fold text, with any separator but a
backslash.  Then the slug of a text in lower case is the slug without, each ASCII capital lowered
and all else kept, and it is split into the same words; where one is not made the other is not, with
the same fault, and replacements of text by text are always made. -/
theorem slug_lowercase (hfold : o.stripDiacritics.truthy = true)
    (hmark : o.separator.mark ≠ '\\') (hon : on.truthy = true) (hoff : off.truthy = false)
    (t : Text) :
    (o.TextReplacements → ∃ x, ({ o with lowercase := off } : SlugOptions).slug t = .ok x) ∧
    ({ o with lowercase := on } : SlugOptions).slug t =
      (({ o with lowercase := off } : SlugOptions).slug t).map (List.map Char.toLower) ∧
    ∀ x, ({ o with lowercase := off } : SlugOptions).slug t = .ok x →
      (x.map Char.toLower).splitOn o.separator.mark =
        (x.splitOn o.separator.mark).map (List.map Char.toLower) := by
  have hslug : ∀ v, ({ o with lowercase := v } : SlugOptions).slug t =
      (o.replace t).map ({ o with lowercase := v } : SlugOptions).replacedSlug := fun v =>
    slug_eq_map (o := { o with lowercase := v }) hmark t
  refine ⟨fun h => ?_, ?_, fun x hx => ?_⟩
  · obtain ⟨u, -, hmade⟩ := exists_slug (o := { o with lowercase := off }) h hmark t
    exact ⟨_, hmade⟩
  · rw [hslug, hslug]
    cases o.replace t with
    | ok u => exact congrArg Except.ok (replacedSlug_lowercase hfold hon hoff u)
    | error e => rfl
  · rw [hslug] at hx
    obtain ⟨u, -, rfl⟩ := Outcome.map_eq_ok.1 hx
    exact splitOn_map_toLower { o with lowercase := off } u

/-- Capitals with accents, and one that is two in lower case. -/
theorem slug_lowercase_capitals :
    ({} : SlugOptions).stripDiacritics.truthy = true ∧ (Value.bool true).truthy = true ∧
    (Value.bool false).truthy = false ∧
    ∃ x, ({ lowercase := .bool false } : SlugOptions).slug "ÉA İstanbul ΣΑΣ".toList = .ok x ∧
      ({ lowercase := .bool true } : SlugOptions).slug "ÉA İstanbul ΣΑΣ".toList =
        .ok (x.map Char.toLower) := by
  have hon : (Value.bool true).truthy = true := rfl
  have hoff : (Value.bool false).truthy = false := rfl
  obtain ⟨hmade, hslug, -⟩ := slug_lowercase (o := {}) rfl (by decide) hon hoff
    "ÉA İstanbul ΣΑΣ".toList
  obtain ⟨x, hx⟩ := hmade textReplacements_default
  refine ⟨rfl, hon, hoff, x, hx, ?_⟩
  rw [hx] at hslug
  exact hslug

end Case

end SlugOptions
end Permalink
