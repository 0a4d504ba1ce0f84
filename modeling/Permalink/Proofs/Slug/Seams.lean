import Mathlib.Data.List.DropRight
import Permalink.Proofs.Slug.Words

/-!
# Slug — where two texts meet

Folded text is in words (`foldedWords`), and the words of two texts put together are the words of
the one and of the other, unless the last of the one and the first of the other run together
(`foldedWords_seam`).  So **nothing is lost where two texts meet just if one of them has no letter
or digit at the seam** (`foldedWords_append_iff`): none behind its last break (`wordEnd`), or none
before its first (`wordStart`).

Where words run together there are fewer of them, and nothing else is lost.  Counted by `size`, the
words of the whole are never more than the words of its parts (`size_foldedWords_append_le`).
-/

namespace Permalink

namespace Slug

/-- The words of folded text. -/
def foldedWords (lowercase : Bool) (t : Text) : List Text :=
  ((Text.runs isWordBreak t).map (word lowercase)).filter (· ≠ [])

/-- The letters and digits behind the last break. -/
def wordEnd (t : Text) : Text := (t.rtakeWhile fun a => !isWordBreak a).filter Char.isAlphanum

/-- The letters and digits before the first break. -/
def wordStart (t : Text) : Text := (t.takeWhile fun a => !isWordBreak a).filter Char.isAlphanum

/-- The number of characters and of words. -/
def size (ws : List Text) : Nat := ws.flatten.length + ws.length

theorem size_append (us vs : List Text) : size (us ++ vs) = size us + size vs := by
  simp only [size, List.flatten_append, List.length_append]
  omega

variable {lowercase : Bool} {a b w : Text}

theorem word_append (u v : Text) :
    word lowercase (u ++ v) = word lowercase u ++ word lowercase v := by
  rw [word, word, word]
  split
  · rw [List.map_append, List.filter_append]
  · rw [List.filter_append]

theorem word_eq_nil : word lowercase w = [] ↔ w.filter Char.isAlphanum = [] := by
  rw [word, List.filter_eq_nil_iff, List.filter_eq_nil_iff]
  split
  · simp [isAlphanum_toLower]
  · rfl

/-! ### Words and breaks -/

theorem foldedWords_nil : foldedWords lowercase [] = [] := rfl

/-- **A break** keeps apart what stands before it and what stands behind it. -/
theorem foldedWords_append_cons {c : Char} (hc : isWordBreak c = true) (a b : Text) :
    foldedWords lowercase (a ++ c :: b) = foldedWords lowercase a ++ foldedWords lowercase b := by
  rw [foldedWords, Text.runs_append_cons hc, List.map_append, List.filter_append]
  rfl

theorem foldedWords_append_blank (a b : Text) : foldedWords lowercase (a ++ ' ' :: b) =
    foldedWords lowercase a ++ foldedWords lowercase b :=
  foldedWords_append_cons (by decide) a b

theorem foldedWords_of_forall (h : ∀ a ∈ w, isWordBreak a = false) :
    foldedWords lowercase w = [word lowercase w].filter (· ≠ []) := by
  rw [foldedWords, Text.runs_of_forall h]
  by_cases hw : w = []
  · subst hw
    cases lowercase <;> rfl
  · simp [hw]

/-- The text is empty, or its last character is a break. -/
def EndsInBreak (t : Text) : Prop := t = [] ∨ ∃ x c, t = x ++ [c] ∧ isWordBreak c = true

/-- The text is empty, or its first character is a break. -/
def StartsWithBreak (t : Text) : Prop := t = [] ∨ ∃ c y, t = c :: y ∧ isWordBreak c = true

theorem foldedWords_append_of_endsInBreak (ha : EndsInBreak a) (b : Text) :
    foldedWords lowercase (a ++ b) = foldedWords lowercase a ++ foldedWords lowercase b := by
  rcases ha with rfl | ⟨x, c, rfl, hc⟩
  · rfl
  · rw [List.append_assoc, List.singleton_append, foldedWords_append_cons hc,
      foldedWords_append_cons hc, foldedWords_nil, List.append_nil]

theorem foldedWords_append_of_startsWithBreak (a : Text) (hb : StartsWithBreak b) :
    foldedWords lowercase (a ++ b) = foldedWords lowercase a ++ foldedWords lowercase b := by
  rcases hb with rfl | ⟨c, y, rfl, hc⟩
  · rw [List.append_nil, foldedWords_nil, List.append_nil]
  · have hcons : foldedWords lowercase (c :: y) = foldedWords lowercase y :=
      foldedWords_append_cons hc [] y
    rw [foldedWords_append_cons hc, hcons]

/-- Every text has a last word, perhaps empty, behind its last break. -/
theorem exists_last (t : Text) : ∃ x w, t = x ++ w ∧ EndsInBreak x ∧
    (∀ c ∈ w, isWordBreak c = false) ∧ wordEnd t = w.filter Char.isAlphanum := by
  refine ⟨_, _, List.rdropWhile_append_rtakeWhile.symm, ?_, fun c hc => ?_, rfl⟩
  · by_cases h : t.rdropWhile (fun a => !isWordBreak a) = []
    · exact .inl h
    · refine .inr ⟨_, _, (List.dropLast_concat_getLast h).symm, ?_⟩
      simpa using List.rdropWhile_last_not (fun a => !isWordBreak a) t h
  · simpa using List.mem_rtakeWhile_imp hc

/-- And a first word before its first break. -/
theorem exists_first (t : Text) : ∃ w y, t = w ++ y ∧ StartsWithBreak y ∧
    (∀ c ∈ w, isWordBreak c = false) ∧ wordStart t = w.filter Char.isAlphanum := by
  refine ⟨_, _, List.takeWhile_append_dropWhile.symm, ?_, fun c hc => ?_, rfl⟩
  · cases h : t.dropWhile fun a => !isWordBreak a with
    | nil => exact .inl rfl
    | cons c y =>
        have hc := List.dropWhile_get_zero_not (fun a => !isWordBreak a) t (by simp [h])
        exact .inr ⟨c, y, rfl, by simpa [h] using hc⟩
  · simpa using List.mem_takeWhile_imp hc

/-! ### The seam -/

/-- **Where two texts meet**, the word that ends the one and the word that starts the other become
one word, and all other words stay. -/
theorem foldedWords_seam (lowercase : Bool) (a b : Text) : ∃ xs ys u v,
    foldedWords lowercase a = xs ++ [u].filter (· ≠ []) ∧
    foldedWords lowercase b = [v].filter (· ≠ []) ++ ys ∧
    foldedWords lowercase (a ++ b) = xs ++ [u ++ v].filter (· ≠ []) ++ ys ∧
    (u = [] ↔ wordEnd a = []) ∧ (v = [] ↔ wordStart b = []) := by
  obtain ⟨x, w, rfl, hx, hw, hend⟩ := exists_last a
  obtain ⟨w', y, rfl, hy, hw', hstart⟩ := exists_first b
  refine ⟨foldedWords lowercase x, foldedWords lowercase y, word lowercase w, word lowercase w',
    ?_, ?_, ?_, ?_, ?_⟩
  · rw [foldedWords_append_of_endsInBreak hx, foldedWords_of_forall hw]
  · rw [foldedWords_append_of_startsWithBreak _ hy, foldedWords_of_forall hw']
  · rw [List.append_assoc x, ← List.append_assoc w, foldedWords_append_of_endsInBreak hx,
      foldedWords_append_of_startsWithBreak _ hy,
      foldedWords_of_forall (List.forall_mem_append.2 ⟨hw, hw'⟩), word_append, List.append_assoc]
  · rw [word_eq_nil, hend]
  · rw [word_eq_nil, hstart]

/-- Nothing runs together at a seam where one side has no letter or digit. -/
theorem foldedWords_append (lowercase : Bool) (h : wordEnd a = [] ∨ wordStart b = []) :
    foldedWords lowercase (a ++ b) = foldedWords lowercase a ++ foldedWords lowercase b := by
  obtain ⟨xs, ys, u, v, ha, hb, hab, hu, hv⟩ := foldedWords_seam lowercase a b
  rw [ha, hb, hab]
  rcases h with h | h
  · simp [hu.2 h]
  · simp [hv.2 h]

/-- Otherwise there is a word less. -/
theorem size_foldedWords_append_lt (lowercase : Bool) (ha : wordEnd a ≠ [])
    (hb : wordStart b ≠ []) : size (foldedWords lowercase (a ++ b)) <
      size (foldedWords lowercase a) + size (foldedWords lowercase b) := by
  obtain ⟨xs, ys, u, v, hwa, hwb, hwab, hu, hv⟩ := foldedWords_seam lowercase a b
  have hu := mt hu.1 ha
  have hv := mt hv.1 hb
  have hsingle : ∀ w : Text, w ≠ [] → size ([w].filter (· ≠ [])) = w.length + 1 := fun w hw => by
    simp [size, hw]
  rw [hwa, hwb, hwab]
  simp only [size_append]
  rw [hsingle u hu, hsingle v hv, hsingle (u ++ v) (by simp [hu]), List.length_append]
  omega

/-- **Putting texts together** adds no words. -/
theorem size_foldedWords_append_le (lowercase : Bool) (a b : Text) :
    size (foldedWords lowercase (a ++ b)) ≤
      size (foldedWords lowercase a) + size (foldedWords lowercase b) := by
  by_cases h : wordEnd a = [] ∨ wordStart b = []
  · rw [foldedWords_append lowercase h, size_append]
  · rw [not_or] at h
    exact (size_foldedWords_append_lt lowercase h.1 h.2).le

/-- **Nothing runs together** just if one side has no letter or digit at the seam. -/
theorem foldedWords_append_iff : foldedWords lowercase (a ++ b) =
    foldedWords lowercase a ++ foldedWords lowercase b ↔ wordEnd a = [] ∨ wordStart b = [] := by
  refine ⟨fun h => ?_, foldedWords_append lowercase⟩
  by_contra hnot
  rw [not_or] at hnot
  have hlt := size_foldedWords_append_lt lowercase hnot.1 hnot.2
  rw [h, size_append] at hlt
  exact lt_irrefl _ hlt

end Slug

namespace SlugOptions

open Slug

variable {o : SlugOptions}

/-- The text as it is folded, before its breaks are squeezed. -/
def folded (o : SlugOptions) (t : Text) : Text := Fold.toAscii (o.parted t)

theorem slugWords_eq_foldedWords (hfold : o.stripDiacritics.truthy = true) (t : Text) :
    o.slugWords t = foldedWords o.lowercase.truthy (o.folded t) :=
  slugWords_of_fold hfold t

/-- **Slugs are the same** just if their words are. -/
theorem replacedSlug_inj {t t' : Text} :
    o.replacedSlug t = o.replacedSlug t' ↔ o.slugWords t = o.slugWords t' := by
  have hruns : ∀ t, Text.runs (· == o.separator.mark) (o.replacedSlug t) = o.slugWords t := by
    intro t
    have hne : ∀ w ∈ o.slugWords t, w ≠ [] := fun w hw => (isAlnum_of_mem_slugWords hw).1
    rw [replacedSlug_eq_intercalate, Text.runs_intercalate (by simp) fun w hw a ha => ?_]
    · rw [List.filter_eq_self]
      simpa using hne
    · simpa using ne_mark_of_isAlnum ((isAlnum_of_mem_slugWords hw).2 a ha)
  constructor
  · intro h
    rw [← hruns t, h, hruns t']
  · intro h
    rw [replacedSlug_eq_intercalate, replacedSlug_eq_intercalate, h]

end SlugOptions
end Permalink
