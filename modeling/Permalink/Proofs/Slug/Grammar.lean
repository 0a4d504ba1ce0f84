import Permalink.Proofs.Slug.Replacing
import Permalink.Proofs.Slug.Words

/-!
# Slug — the grammar of slugs

A text is *in words* of a class if it is a list of nonempty words with one character between each
two (`InWords`); the empty text is the list without words.  If that character is not of the class
then it stands neither at an end nor beside itself (`InWords.not_doubled`, `InWords.ends`).

**Every slug is in words** (`exists_grammatical_slug`): of alphanumeric characters whatever the text
and the options are, of ASCII letters and digits if text is folded, and of small letters and digits
if it is put in lower case besides.  So no slug has a slash, and none has a brace unless the braces
are what separates its words (`braces_between_words`).
-/

namespace Permalink

namespace Slug

/-- A small letter or digit of ASCII. -/
def isPlain (c : Char) : Bool := c.isLower || c.isDigit

/-- The text is nonempty words of a class with one `mark` between each two. -/
def InWords (mark : Char) (inWord : Char → Bool) (s : Text) : Prop :=
  ∃ words : List Text, (∀ w ∈ words, w ≠ [] ∧ ∀ a ∈ w, inWord a = true) ∧
    s = List.intercalate [mark] words

namespace InWords

variable {mark : Char} {inWord : Char → Bool} {s : Text}

theorem mem (h : InWords mark inWord s) {a : Char} (ha : a ∈ s) : a = mark ∨ inWord a = true := by
  obtain ⟨words, hwords, rfl⟩ := h
  exact (Text.mem_intercalate_singleton ha).imp_right fun ⟨w, hw, ha⟩ => (hwords w hw).2 a ha

/-- The mark does not stand beside itself: there is no empty word. -/
theorem not_doubled (h : InWords mark inWord s) (hmark : inWord mark = false) :
    ¬ [mark, mark] <:+: s := by
  obtain ⟨words, hwords, rfl⟩ := h
  rintro ⟨a, b, hab⟩
  have hsplit : (List.intercalate [mark] words).splitOn mark =
      a.splitOn mark ++ [] :: b.splitOn mark := by
    rw [← hab, List.append_assoc]
    exact (List.splitOn_append_cons_self a (mark :: b)).trans
      (congrArg _ (List.splitOn_append_cons_self [] b))
  have hne : words ≠ [] := by
    rintro rfl
    simp at hab
  have hfree : ∀ w ∈ words, mark ∉ w := fun w hw hmem => by
    rw [(hwords w hw).2 mark hmem] at hmark
    cases hmark
  rw [List.splitOn_intercalate mark hfree hne] at hsplit
  exact (hwords [] (by simp [hsplit])).1 rfl

/-- Nor does it stand at an end. -/
theorem ends (h : InWords mark inWord s) (hmark : inWord mark = false) :
    s.head? ≠ some mark ∧ s.getLast? ≠ some mark := by
  obtain ⟨words, hwords, rfl⟩ := h
  by_cases hnil : words = []
  · subst hnil
    exact ⟨nofun, nofun⟩
  · have hne : ∀ a, (!inWord a) = false → a ≠ mark := by
      rintro a ha rfl
      rw [hmark] at ha
      cases ha
    obtain ⟨⟨a, x, ha, hfirst⟩, b, y, hb, hlast⟩ :=
      Text.ends_intercalate (p := fun a => !inWord a) (c := mark) hnil fun w hw =>
        ⟨(hwords w hw).1, fun a ha => by rw [(hwords w hw).2 a ha]; rfl⟩
    constructor
    · rw [hfirst]
      exact fun h => hne a ha (Option.some.inj h)
    · rw [hlast, List.getLast?_concat]
      exact fun h => hne b hb (Option.some.inj h)

end InWords

/-- What holds of every slug that the options make. -/
structure Grammatical (o : SlugOptions) (s : Text) : Prop where
  inWords : InWords o.separator.mark Text.isAlnum s
  folded : o.stripDiacritics.truthy = true → InWords o.separator.mark Char.isAlphanum s
  plain : o.stripDiacritics.truthy = true → o.lowercase.truthy = true →
    InWords o.separator.mark isPlain s
  no_slash : '/' ∉ s
  no_brace : ∀ c ∈ s, c = '{' ∨ c = '}' → c = o.separator.mark
  not_doubled : ¬ [o.separator.mark, o.separator.mark] <:+: s
  not_first : s.head? ≠ some o.separator.mark
  not_last : s.getLast? ≠ some o.separator.mark

theorem isPlain_of_isAlphanum {c : Char} (h : c.isAlphanum = true) :
    isPlain c.toLower = true := by
  have hlower := isAlphanum_toLower c
  rw [h, Text.isAlphanum_eq, Text.isUpper_toLower] at hlower
  exact hlower

/-- The letters and digits of a word in lower case. -/
theorem isPlain_of_mem_word {w : Text} {a : Char} (h : a ∈ word true w) : isPlain a = true := by
  obtain ⟨hmem, hletter⟩ := List.mem_filter.1 h
  obtain ⟨b, -, rfl⟩ := List.mem_map.1 hmem
  rw [isAlphanum_toLower] at hletter
  exact isPlain_of_isAlphanum hletter

end Slug

namespace SlugOptions

open Slug

variable {o : SlugOptions}

theorem inWords_replacedSlug (o : SlugOptions) (t : Text) :
    InWords o.separator.mark Text.isAlnum (o.replacedSlug t) :=
  ⟨o.slugWords t, fun _ hw => isAlnum_of_mem_slugWords hw, replacedSlug_eq_intercalate o t⟩

/-- A word of folded text is what is left of one of its runs. -/
theorem exists_word_of_mem_slugWords (h : o.stripDiacritics.truthy = true) {t w : Text}
    (hw : w ∈ o.slugWords t) : w ≠ [] ∧ ∃ v, word o.lowercase.truthy v = w := by
  rw [slugWords_of_fold h] at hw
  obtain ⟨hmem, hne⟩ := List.mem_filter.1 hw
  obtain ⟨v, -, hv⟩ := List.mem_map.1 hmem
  exact ⟨by simpa using hne, v, hv⟩

theorem inWords_replacedSlug_of_fold (h : o.stripDiacritics.truthy = true) (t : Text) :
    InWords o.separator.mark Char.isAlphanum (o.replacedSlug t) := by
  refine ⟨o.slugWords t, fun w hw => ?_, replacedSlug_eq_intercalate o t⟩
  obtain ⟨hne, v, rfl⟩ := exists_word_of_mem_slugWords h hw
  exact ⟨hne, fun a ha => (List.mem_filter.1 ha).2⟩

theorem inWords_replacedSlug_of_lower (h : o.stripDiacritics.truthy = true)
    (hlower : o.lowercase.truthy = true) (t : Text) :
    InWords o.separator.mark isPlain (o.replacedSlug t) := by
  refine ⟨o.slugWords t, fun w hw => ?_, replacedSlug_eq_intercalate o t⟩
  obtain ⟨hne, v, rfl⟩ := exists_word_of_mem_slugWords h hw
  rw [hlower] at hne ⊢
  exact ⟨hne, fun a ha => isPlain_of_mem_word ha⟩

theorem grammatical_replacedSlug (o : SlugOptions) (t : Text) :
    Grammatical o (o.replacedSlug t) where
  inWords := inWords_replacedSlug o t
  folded h := inWords_replacedSlug_of_fold h t
  plain h hlower := inWords_replacedSlug_of_lower h hlower t
  no_slash h := by
    rcases (inWords_replacedSlug o t).mem h with h | h
    · exact o.separator.ne_slash h.symm
    · exact absurd h (by decide)
  no_brace c hc hbrace := by
    refine ((inWords_replacedSlug o t).mem hc).resolve_right fun h => ?_
    rcases hbrace with rfl | rfl
    · exact absurd h (by decide)
    · exact absurd h (by decide)
  not_doubled := (inWords_replacedSlug o t).not_doubled o.separator.not_alnum
  not_first := ((inWords_replacedSlug o t).ends o.separator.not_alnum).1
  not_last := ((inWords_replacedSlug o t).ends o.separator.not_alnum).2

/-- **The grammar of slugs.**  Replacements of text by text and any separator but a backslash make
a slug of every text.  It is in words with the separator between each two: alphanumeric words; if
text is folded, words of ASCII letters and digits; and if it is put in lower case besides, without
capitals.  So there is no slash, no brace but as the separator, and no separator at an end or beside
another. -/
theorem exists_grammatical_slug (hreplacements : o.TextReplacements)
    (hmark : o.separator.mark ≠ '\\') (t : Text) :
    ∃ s, o.slug t = .ok s ∧ Grammatical o s := by
  obtain ⟨u, -, hslug⟩ := exists_slug hreplacements hmark t
  exact ⟨o.replacedSlug u, hslug, grammatical_replacedSlug o u⟩

theorem textReplacements_default : ({} : SlugOptions).TextReplacements := fun r hr => by
  rw [List.mem_singleton.1 hr]
  exact ⟨['&'], " and ".toList, rfl, rfl⟩

/-- A text of which almost every character is dropped, folded or turned into a break. -/
theorem exists_grammatical_slug_default :
    ({} : SlugOptions).TextReplacements ∧ ({} : SlugOptions).separator.mark ≠ '\\' ∧
    ∃ s, ({} : SlugOptions).slug " <b>Don't</b> _½ Čapek & \x7bXMLParser\x7d- ".toList = .ok s ∧
      Grammatical {} s :=
  ⟨textReplacements_default, by decide,
    exists_grammatical_slug textReplacements_default (by decide) _⟩

/-- Options that separate words by a brace, and replace nothing. -/
def braced : SlugOptions where
  separator := ⟨'{', by decide, by decide⟩
  replacements := []

/-- **A brace in a slug**: if a brace separates words then slugs have braces. -/
theorem braces_between_words :
    braced.TextReplacements ∧ braced.separator.mark ≠ '\\' ∧
    braced.slug ['a', ' ', 'b'] = .ok ['a', '{', 'b'] ∧ '{' ∈ ['a', '{', 'b'] := by
  refine ⟨nofun, by decide, ?_, by decide⟩
  rfl

end SlugOptions
end Permalink
