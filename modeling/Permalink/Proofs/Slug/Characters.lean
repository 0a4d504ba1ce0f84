import Permalink.Proofs.Outcome
import Permalink.Slug.Basic

/-!
# Slug — the characters of slugs

Which characters a slug can have, whatever the text and the options: the separator, word characters
and hyphens (`mem_slug`), and in the slugs of a path slashes besides (`mem_pathSlug`).
-/

namespace Permalink

namespace Text

/-- A character left by squeezing is the one that runs are written as, or one outside the class. -/
theorem mem_squeeze {p : Char → Bool} {c a : Char} :
    ∀ {t : Text}, a ∈ squeeze p c t → a = c ∨ a ∈ t ∧ p a = false
  | [], h => absurd h List.not_mem_nil
  | b :: t, h => by
      have ih : a ∈ squeeze p c t → a = c ∨ a ∈ b :: t ∧ p a = false := fun h =>
        (mem_squeeze h).imp_right fun h => ⟨List.mem_cons_of_mem _ h.1, h.2⟩
      rw [squeeze] at h
      split at h
      · split at h
        · exact ih h
        · rcases List.mem_cons.1 h with rfl | h
          · exact .inl rfl
          · exact ih h
      · next hb =>
        rcases List.mem_cons.1 h with rfl | h
        · exact .inr ⟨List.mem_cons_self, by simpa using hb⟩
        · exact ih h

theorem mem_trim {p : Char → Bool} {a : Char} {t : Text} (h : a ∈ trim p t) : a ∈ t := by
  rw [trim, List.mem_reverse] at h
  have h := (List.dropWhile_sublist p).subset h
  exact (List.dropWhile_sublist p).subset (List.mem_reverse.1 h)

/-- A character of texts put together with `x` between them. -/
theorem mem_intercalate_singleton {x a : Char} :
    ∀ {ts : List Text}, a ∈ List.intercalate [x] ts → a = x ∨ ∃ t ∈ ts, a ∈ t
  | [], h => absurd h List.not_mem_nil
  | [t], h => .inr ⟨t, List.mem_singleton_self t, by simpa using h⟩
  | t :: u :: ts, h => by
      rw [List.intercalate_cons_cons, List.append_assoc, List.mem_append] at h
      rcases h with h | h
      · exact .inr ⟨t, List.mem_cons_self, h⟩
      rcases List.mem_cons.1 h with rfl | h
      · exact .inl rfl
      rcases mem_intercalate_singleton h with rfl | ⟨v, hv, ha⟩
      · exact .inl rfl
      · exact .inr ⟨v, List.mem_cons_of_mem _ hv, ha⟩

end Text

namespace Slug

/-- Separating leaves no blank and adds nothing but the separator. -/
theorem mem_separate {mark a : Char} {t : Text} (h : a ∈ separate mark t) :
    a = mark ∨ a ∈ t ∧ a ≠ ' ' := by
  rcases Text.mem_squeeze (Text.mem_trim h) with rfl | ⟨h, -⟩
  · exact .inl rfl
  · obtain ⟨b, hb, rfl⟩ := List.mem_map.1 h
    by_cases hblank : b = ' '
    · exact .inl (by simp [hblank])
    · exact .inr (by simpa [hblank] using hb)

end Slug

namespace SlugOptions

variable {o : SlugOptions}

theorem mem_replacedSlug {t : Text} {a : Char} (h : a ∈ o.replacedSlug t) :
    a = o.separator.mark ∨ Text.isWord a = true ∨ a = '-' := by
  refine (Slug.mem_separate h).imp_right fun ⟨ha, hblank⟩ => ?_
  have hchar := Slug.isSlugChar_of_mem_clean ha
  simpa [Slug.isSlugChar, hblank] using hchar

/-- **The characters of a slug** are the separator, word characters and hyphens. -/
theorem mem_slug {t s : Text} (h : o.slug t = .ok s) {a : Char} (ha : a ∈ s) :
    a = o.separator.mark ∨ Text.isWord a = true ∨ a = '-' := by
  obtain ⟨u, -, h⟩ := Outcome.bind_eq_ok.1 h
  split at h
  · cases h
  · cases h
    exact mem_replacedSlug ha

/-- The slugs of a value have the characters of slugs, and slashes between. -/
theorem mem_pathSlug {v : Value} {s : Text} (h : o.pathSlug v = .ok s) {a : Char} (ha : a ∈ s) :
    a = '/' ∨ a = o.separator.mark ∨ Text.isWord a = true ∨ a = '-' := by
  obtain ⟨t, -, h⟩ := Outcome.bind_eq_ok.1 h
  obtain ⟨slugs, hslugs, h⟩ := Outcome.bind_eq_ok.1 h
  cases h
  rcases Text.mem_intercalate_singleton ha with rfl | ⟨slug, hslug, ha⟩
  · exact .inl rfl
  · obtain ⟨piece, -, hpiece⟩ := Outcome.exists_of_mem_mapM hslugs hslug
    exact .inr (mem_slug hpiece ha)

end SlugOptions
end Permalink
