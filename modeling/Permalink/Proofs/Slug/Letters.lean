import Permalink.Proofs.Slug.Replacing
import Permalink.Proofs.Slug.Words

/-!
# Slug — letters and digits are kept

Where text is folded and put in lower case, **a slug without its separators is what the word
characters of the text are folded to, one after the other** (`slug_letters`): of each the letters
and digits, in lower case.  None of them is dropped, moved or written twice, nothing is added, and
no markup is taken out.

The word characters pass unchanged as far as the fold: dropping punctuation and taking camel case
apart change only what is between them (`filter_parted`).  The fold does each character on its own,
and of a blank it leaves no letter.  Behind the fold only breaks are dropped, and what is neither a
letter nor a digit (`flatten_slugWords`).
-/

namespace Permalink

namespace Slug

/-- The letters and digits that a character is folded to, in lower case. -/
def letters (c : Char) : Text := ((Fold.toAscii [c]).filter Char.isAlphanum).map Char.toLower

/-! ### Up to the fold -/

/-- Dropping punctuation keeps the word characters. -/
theorem filter_dropPunctuation (t : Text) :
    (dropPunctuation t).filter Text.isWord = t.filter Text.isWord := by
  have hblank : Text.isWord ' ' = false := by decide
  induction t with
  | nil => rfl
  | cons c t ih =>
      have hc : (dropPunctuation [c]).filter Text.isWord = [c].filter Text.isWord := by
        rw [dropPunctuation_singleton]
        cases hword : Text.isWord c with
        | true => simp [not_isApostrophe_of_isWord hword]
        | false =>
            rw [List.filter_cons_of_neg (by simp [hword])]
            split
            · rfl
            · split
              · simp [hword]
              · simp [hblank]
      rw [← List.singleton_append, dropPunctuation_append, List.filter_append, ih, hc,
        ← List.filter_append]

theorem flatMap_filter {f : Char → Text} {p : Char → Bool} {t : Text}
    (h : ∀ a ∈ t, p a = false → f a = []) : (t.filter p).flatMap f = t.flatMap f := by
  induction t with
  | nil => rfl
  | cons a t ih =>
      obtain ⟨ha, ht⟩ := List.forall_mem_cons.1 h
      cases hp : p a with
      | true => rw [List.filter_cons_of_pos hp, List.flatMap_cons, List.flatMap_cons, ih ht]
      | false =>
          rw [List.filter_cons_of_neg (by simp [hp]), ih ht, List.flatMap_cons, ha hp,
            List.nil_append]

/-! ### Behind the fold -/

theorem word_true (w : Text) : word true w = (w.filter Char.isAlphanum).map Char.toLower := by
  rw [word, if_pos rfl, List.filter_map]
  exact congrArg _ (List.filter_congr fun a _ => isAlphanum_toLower a)

/-- The words of runs together are the letters and digits of the text. -/
theorem flatten_map_word_runs (t : Text) :
    ((Text.runs isWordBreak t).map (word true)).flatten =
      (t.filter Char.isAlphanum).map Char.toLower := by
  have hflatten : ((Text.runs isWordBreak t).map (word true)).flatten =
      word true (Text.runs isWordBreak t).flatten := by
    rw [word_true, List.filter_flatten, List.map_flatten, List.map_map]
    exact congrArg _ (List.map_congr_left fun w _ => word_true w)
  rw [hflatten, Text.flatten_runs, word_true, List.filter_filter]
  refine congrArg _ (List.filter_congr fun a _ => ?_)
  cases hletter : a.isAlphanum with
  | true => rw [not_isWordBreak_of_isAlphanum hletter]; rfl
  | false => rfl

end Slug

namespace SlugOptions

open Slug

variable {o : SlugOptions}

theorem filter_parted (o : SlugOptions) (t : Text) :
    (o.parted t).filter Text.isWord = t.filter Text.isWord := by
  rw [parted]
  split
  · rw [Camel.filter_split (by decide), filter_dropPunctuation]
  · exact filter_dropPunctuation t

/-- The letters and digits of the folded text are those of its word characters. -/
theorem filter_folded (o : SlugOptions) (t : Text) :
    (Fold.toAscii (o.parted t)).filter Char.isAlphanum =
      (t.filter Text.isWord).flatMap fun c => (Fold.toAscii [c]).filter Char.isAlphanum := by
  rw [Fold.toAscii_eq_flatMap, List.filter_flatMap, ← filter_parted o t, flatMap_filter]
  intro c hc hword
  have hblank : Text.isBlank c = true :=
    (isWord_or_isBlank_of_mem_parted hc).resolve_left (by simp [hword])
  rw [List.filter_eq_nil_iff]
  intro a ha
  rw [Text.not_isAlphanum_of_isBlank (Fold.isBlank_of_mem_toAscii hblank ha)]
  exact Bool.false_ne_true

theorem flatten_slugWords (hfold : o.stripDiacritics.truthy = true)
    (hlower : o.lowercase.truthy = true) (t : Text) :
    (o.slugWords t).flatten = (t.filter Text.isWord).flatMap letters := by
  rw [slugWords_of_fold hfold, List.flatten_filter_ne_nil, hlower, flatten_map_word_runs,
    filter_folded, List.map_flatMap]
  rfl

/-- A slug without its separators is its words. -/
theorem filter_replacedSlug (o : SlugOptions) (t : Text) :
    (o.replacedSlug t).filter (· != o.separator.mark) = (o.slugWords t).flatten := by
  rw [replacedSlug_eq_intercalate, Text.filter_intercalate_flatten (by simp), List.filter_eq_self]
  intro a ha
  obtain ⟨w, hw, ha⟩ := List.mem_flatten.1 ha
  exact bne_iff_ne.2 (ne_mark_of_isAlnum ((isAlnum_of_mem_slugWords hw).2 a ha))

/-- **Letters and digits are kept.**  Let the options fold and lower text, with any separator but a
backslash.  Where the replacements are made, as replacements of text by text always are, there is a
slug, and without its separators it is the letters and digits that the word characters of the text
are folded to, in their order and in lower case; and dropping markup drops nothing. -/
theorem slug_letters (hfold : o.stripDiacritics.truthy = true)
    (hlower : o.lowercase.truthy = true) (hmark : o.separator.mark ≠ '\\') (t : Text) :
    (o.TextReplacements → ∃ u, o.replace t = .ok u) ∧
    ∀ u, o.replace t = .ok u → ∃ s, o.slug t = .ok s ∧
      s.filter (· != o.separator.mark) = (u.filter Text.isWord).flatMap letters ∧
      dropTags (Text.composed (o.words u)) = Text.composed (o.words u) := by
  refine ⟨fun htext => ?_, fun u hu => ⟨o.replacedSlug u, slug_of_replace hmark hu, ?_, ?_⟩⟩
  · obtain ⟨u, hu, -⟩ := exists_slug htext hmark t
    exact ⟨u, hu⟩
  · rw [filter_replacedSlug, flatten_slugWords hfold hlower]
  · exact dropTags_composed_words hfold u

/-- What looks like a tag is kept, a capital with an accent and a fraction are folded, and the word
put for the ampersand counts as text. -/
theorem slug_letters_markup :
    ({} : SlugOptions).replace "<É>&½".toList = .ok "<É> and ½".toList ∧
    ("<É> and ½".toList.filter Text.isWord).flatMap letters = "eand12".toList ∧
    ∃ s, ({} : SlugOptions).slug "<É>&½".toList = .ok s ∧
      s.filter (· != '-') = "eand12".toList := by
  have hreplaced : ({} : SlugOptions).replace "<É>&½".toList = .ok "<É> and ½".toList := rfl
  have hletters : ("<É> and ½".toList.filter Text.isWord).flatMap letters = "eand12".toList := by
    decide +kernel
  obtain ⟨s, hs, hkept, -⟩ := (slug_letters rfl rfl (by decide) _).2 _ hreplaced
  exact ⟨hreplaced, hletters, s, hs, hkept.trans hletters⟩

end SlugOptions
end Permalink
