import Permalink.Proofs.Slug.Replacing
import Permalink.Proofs.Slug.Words

/-!
# Slug — punctuation separates words

Where text is folded, every pass does what stands before a punctuation character and what stands
behind it on their own.  So **the words of two texts with punctuation between are the words of the
one and the words of the other** (`slugWords_append_cons`), whatever stands at the ends of the two:
further punctuation or blanks, half of a camel-case word, or a mark without the letter it belongs
to.  Their slug is the two slugs with one separator between, or one of the two if the other is empty
(`slug_append_cons`).

Replacements are made before, and those of longer keys could reach across the character; so the
keys must be single characters, and not this one.
-/

namespace Permalink

namespace Slug

/-- Is `c` turned into a blank where punctuation is dropped? -/
def isPunctuation (c : Char) : Bool := !Text.isWord c && !Text.isBlank c && !isApostrophe c

theorem dropPunctuation_append_cons {c : Char} (hc : isPunctuation c = true) (a b : Text) :
    dropPunctuation (a ++ c :: b) = dropPunctuation a ++ ' ' :: dropPunctuation b := by
  simp only [isPunctuation, Bool.and_eq_true, Bool.not_eq_true'] at hc
  obtain ⟨⟨hword, hblank⟩, hapostrophe⟩ := hc
  have hsingle : dropPunctuation [c] = [' '] := by
    simp [dropPunctuation_singleton, hword, hblank, hapostrophe]
  rw [← List.singleton_append, dropPunctuation_append, dropPunctuation_append, hsingle,
    List.singleton_append]

/-- Two slugs with the separator between; an empty one leaves the other alone. -/
def joined (mark : Char) (a b : Text) : Text :=
  if a = [] then b else if b = [] then a else a ++ mark :: b

theorem intercalate_append_eq_joined {mark : Char} {us vs : List Text} (hus : ∀ u ∈ us, u ≠ [])
    (hvs : ∀ v ∈ vs, v ≠ []) : List.intercalate [mark] (us ++ vs) =
      joined mark (List.intercalate [mark] us) (List.intercalate [mark] vs) := by
  by_cases hu : us = []
  · subst hu
    rfl
  · rw [joined, if_neg (Text.intercalate_ne_nil hu hus)]
    by_cases hv : vs = []
    · subst hv
      simp
    · rw [if_neg (Text.intercalate_ne_nil hv hvs), Text.intercalate_append hu hv]

end Slug

namespace SlugOptions

open Slug

variable {o : SlugOptions} {c : Char}

theorem parted_append_cons (hc : isPunctuation c = true) (a b : Text) :
    o.parted (a ++ c :: b) = o.parted a ++ ' ' :: o.parted b := by
  rw [parted, parted, parted, dropPunctuation_append_cons hc]
  split
  · rw [Camel.split_append_cons (by decide) (by decide)]
  · rfl

/-- **The words of two texts** with punctuation between. -/
theorem slugWords_append_cons (hfold : o.stripDiacritics.truthy = true)
    (hc : isPunctuation c = true) (a b : Text) :
    o.slugWords (a ++ c :: b) = o.slugWords a ++ o.slugWords b := by
  have hblank : Fold.toAscii [' '] = [' '] :=
    Fold.toAscii_of_ascii (by simp)
  have hfolded : Fold.toAscii (o.parted (a ++ c :: b)) =
      Fold.toAscii (o.parted a) ++ ' ' :: Fold.toAscii (o.parted b) := by
    rw [parted_append_cons hc, ← List.singleton_append, Fold.toAscii_append, Fold.toAscii_append,
      hblank, List.singleton_append]
  rw [slugWords_of_fold hfold, slugWords_of_fold hfold, slugWords_of_fold hfold, hfolded,
    Text.runs_append_cons (by decide), List.map_append, List.filter_append]

theorem replacedSlug_append_cons (hfold : o.stripDiacritics.truthy = true)
    (hc : isPunctuation c = true) (a b : Text) : o.replacedSlug (a ++ c :: b) =
      joined o.separator.mark (o.replacedSlug a) (o.replacedSlug b) := by
  have hne : ∀ t, ∀ w ∈ o.slugWords t, w ≠ [] := fun _ _ hw => (isAlnum_of_mem_slugWords hw).1
  rw [replacedSlug_eq_intercalate, replacedSlug_eq_intercalate, replacedSlug_eq_intercalate,
    slugWords_append_cons hfold hc, intercalate_append_eq_joined (hne a) (hne b)]

/-- **Punctuation separates words.**  Let the options fold text, with any separator but a backslash
and replacements of single characters.  Then the slug of two texts with a character between that is
punctuation, and that is not replaced, is the slugs of the two with the separator between, or one
of them if the other is empty. -/
theorem slug_append_cons (hfold : o.stripDiacritics.truthy = true)
    (hmark : o.separator.mark ≠ '\\')
    (hkeys : ∀ r ∈ o.replacements, ∃ k new, r.Puts [k] new)
    (hc : isPunctuation c = true) (hkept : ∀ r ∈ o.replacements, r.old ≠ .text [c]) (a b : Text) :
    ∃ sa sb, o.slug a = .ok sa ∧ o.slug b = .ok sb ∧
      o.slug (a ++ c :: b) = .ok (joined o.separator.mark sa sb) := by
  obtain ⟨f, hreplace, hsame⟩ := exists_replace_eq_flatMap hkeys
  refine ⟨o.replacedSlug (a.flatMap f), o.replacedSlug (b.flatMap f),
    slug_of_replace hmark (hreplace a), slug_of_replace hmark (hreplace b), ?_⟩
  have hreplaced : (a ++ c :: b).flatMap f = a.flatMap f ++ c :: b.flatMap f := by
    rw [List.flatMap_append, List.flatMap_cons, hsame c hkept, List.singleton_append]
  rw [slug_of_replace hmark (hreplace _), hreplaced, replacedSlug_append_cons hfold hc]

/-- A full stop between two halves of what would be one camel-case word. -/
theorem slug_append_cons_default : isPunctuation '.' = true ∧
    (∀ r ∈ ({} : SlugOptions).replacements, ∃ k new, r.Puts [k] new) ∧
    (∀ r ∈ ({} : SlugOptions).replacements, r.old ≠ .text ['.']) ∧
    ∃ sa sb, ({} : SlugOptions).slug "XMLPa".toList = .ok sa ∧
      ({} : SlugOptions).slug "rser & ´".toList = .ok sb ∧
      ({} : SlugOptions).slug "XMLPa.rser & ´".toList = .ok (joined '-' sa sb) := by
  have hkeys : ∀ r ∈ ({} : SlugOptions).replacements, ∃ k new, r.Puts [k] new := fun r hr => by
    rw [List.mem_singleton.1 hr]
    exact ⟨'&', " and ".toList, rfl, rfl⟩
  have hkept : ∀ r ∈ ({} : SlugOptions).replacements, r.old ≠ .text ['.'] := fun r hr => by
    rw [List.mem_singleton.1 hr]
    intro he
    cases he
  exact ⟨by decide, hkeys, hkept,
    slug_append_cons rfl (by decide) hkeys (by decide) hkept "XMLPa".toList "rser & ´".toList⟩

end SlugOptions
end Permalink
