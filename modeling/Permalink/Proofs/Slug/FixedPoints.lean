import Permalink.Proofs.Slug.Grammar

/-!
# Slug — slugs are the fixed points

Take options that fold text and put it in lower case, with an ASCII separator, and let each
replaced text have some character that no slug has.  Then **a text is its own slug just if it is in
words of small letters and digits** (`slug_eq_self_iff_inWords`), so the slug of a slug is that
slug.

That the slug of any text is in such words is the grammar of slugs.  For the converse each pass is
followed over words that are joined by the separator.  Nothing is replaced in them.  The separator
is itself a break, or is punctuation and becomes a blank (`dropPunctuation_intercalate`): either way
the words stay apart, and no later pass changes a word (`slugWords_intercalate`).
-/

namespace Permalink

namespace Slug

/-! ### What small letters and digits are -/

section Plain

variable {c : Char}

theorem isAlphanum_of_isPlain (h : isPlain c = true) : c.isAlphanum = true := by
  rcases Bool.or_eq_true_iff.1 h with h | h
  · exact Text.isAlphanum_of_isLower h
  · simp [Char.isAlphanum, h]

theorem toNat_lt_of_isPlain (h : isPlain c = true) : c.toNat < 0x80 :=
  Text.toNat_lt_of_isAlphanum (isAlphanum_of_isPlain h)

theorem isWord_of_isPlain (h : isPlain c = true) : Text.isWord c = true := by
  refine Text.isWord_of_isAlnum ?_
  rw [Text.isAlnum_of_ascii (toNat_lt_of_isPlain h)]
  exact isAlphanum_of_isPlain h

theorem not_isUpper_of_isPlain (h : isPlain c = true) : c.isUpper = false := by
  rw [Bool.eq_false_iff]
  intro hupper
  have hcapital := Text.isUpper_iff.1 hupper
  rcases Bool.or_eq_true_iff.1 h with h | h
  · have hsmall := Text.isLower_iff.1 h
    omega
  · have hdigit := Char.isDigit_iff_toNat.1 h
    exact absurd (Nat.le_trans hcapital.1 hdigit.2) (by decide)

theorem not_isWordBreak_of_isPlain (h : isPlain c = true) : isWordBreak c = false :=
  not_isWordBreak_of_isAlphanum (isAlphanum_of_isPlain h)

end Plain

/-- A word of small letters and digits is kept. -/
theorem word_of_plain {w : Text} (h : ∀ a ∈ w, isPlain a = true) : word true w = w := by
  have hlower : w.map Char.toLower = w := Text.map_eq_self fun a ha =>
    Text.toLower_of_not_isUpper (Bool.eq_false_iff.1 (not_isUpper_of_isPlain (h a ha)))
  rw [word, if_pos rfl, hlower, List.filter_eq_self]
  exact fun a ha => isAlphanum_of_isPlain (h a ha)

/-! ### The passes over joined words -/

theorem not_isUpper_of_isWordBreak {c : Char} (h : isWordBreak c = true) : c.isUpper = false := by
  rw [Bool.eq_false_iff]
  intro hupper
  rw [not_isWordBreak_of_isAlphanum (Text.isAlphanum_of_isUpper hupper)] at h
  cases h

/-- Joined words stay, and what joins them stays or becomes a blank. -/
theorem dropPunctuation_intercalate {mark : Char} (hmark : isApostrophe mark = false)
    {words : List Text} (h : ∀ w ∈ words, ∀ a ∈ w, Text.isWord a = true) :
    dropPunctuation (List.intercalate [mark] words) =
      List.intercalate [if Text.isWord mark || Text.isBlank mark then mark else ' '] words := by
  have hkept : words.map (List.map fun c =>
      if Text.isWord c || Text.isBlank c || isApostrophe c then c else ' ') = words := by
    refine Text.map_eq_self fun w hw => Text.map_eq_self fun a ha => ?_
    rw [h w hw a ha]
    rfl
  have hfilter : words.map (List.filter fun c => !isApostrophe c) = words := by
    refine Text.map_eq_self fun w hw => List.filter_eq_self.2 fun a ha => ?_
    rw [not_isApostrophe_of_isWord (h w hw a ha)]
    rfl
  rw [dropPunctuation, Text.map_intercalate, hkept, hmark, Bool.or_false,
    Text.filter_intercalate, hfilter]
  split
  · rw [hmark]
    rfl
  · rfl

/-- What is left between joined words when punctuation is dropped is a break of ASCII. -/
theorem exists_dropPunctuation_intercalate {mark : Char} (halnum : Text.isAlnum mark = false)
    (hascii : mark.toNat < 0x80) (hquote : mark ≠ '\'') {words : List Text}
    (h : ∀ w ∈ words, ∀ a ∈ w, Text.isWord a = true) :
    ∃ m, isWordBreak m = true ∧ m.toNat < 0x80 ∧
      dropPunctuation (List.intercalate [mark] words) = List.intercalate [m] words := by
  have hmark : isApostrophe mark = false := by
    rw [isApostrophe, beq_false_of_ne hquote, Bool.false_or, beq_eq_false_iff_ne]
    intro he
    rw [he] at hascii
    exact absurd hascii (by decide)
  refine ⟨_, ?_, ?_, dropPunctuation_intercalate hmark h⟩
  · split
    · next hkept =>
      rcases Bool.or_eq_true_iff.1 hkept with hword | hblank
      · have hlow : mark = '_' := by simpa [Text.isWord, halnum] using hword
        rw [hlow]
        decide
      · exact isWordBreak_of_isBlank hblank
    · decide
  · split
    · exact hascii
    · decide

end Slug

namespace SlugOptions

open Slug

variable {o : SlugOptions}

/-- Words of small letters and digits with a break between are the words of the slug. -/
theorem slugWords_of_parted (hfold : o.stripDiacritics.truthy = true)
    (hlower : o.lowercase.truthy = true) {t : Text} {m : Char} {words : List Text}
    (hm : isWordBreak m = true) (hascii : m.toNat < 0x80)
    (h : ∀ w ∈ words, w ≠ [] ∧ ∀ a ∈ w, isPlain a = true)
    (ht : o.parted t = List.intercalate [m] words) : o.slugWords t = words := by
  have hfolded : Fold.toAscii (List.intercalate [m] words) = List.intercalate [m] words := by
    refine Fold.toAscii_of_ascii fun a ha => ?_
    rcases Text.mem_intercalate_singleton ha with rfl | ⟨w, hw, ha⟩
    · exact hascii
    · exact toNat_lt_of_isPlain ((h w hw).2 a ha)
  have hkept : words.filter (· ≠ []) = words :=
    List.filter_eq_self.2 fun w hw => by simpa using (h w hw).1
  have hruns : Text.runs isWordBreak (List.intercalate [m] words) = words :=
    (Text.runs_intercalate hm fun w hw a ha =>
      not_isWordBreak_of_isPlain ((h w hw).2 a ha)).trans hkept
  have hword : words.map (word true) = words :=
    Text.map_eq_self fun w hw => word_of_plain (h w hw).2
  rw [slugWords_of_fold hfold, ht, hfolded, hruns, hlower, hword, hkept]

/-- **The words of joined words** are these words. -/
theorem slugWords_intercalate (hfold : o.stripDiacritics.truthy = true)
    (hlower : o.lowercase.truthy = true) (hascii : o.separator.mark.toNat < 0x80)
    (hquote : o.separator.mark ≠ '\'') {words : List Text}
    (h : ∀ w ∈ words, w ≠ [] ∧ ∀ a ∈ w, isPlain a = true) :
    o.slugWords (List.intercalate [o.separator.mark] words) = words := by
  obtain ⟨m, hm, hmascii, hdropped⟩ :=
    exists_dropPunctuation_intercalate o.separator.not_alnum hascii hquote fun w hw a ha =>
      isWord_of_isPlain ((h w hw).2 a ha)
  refine slugWords_of_parted hfold hlower hm hmascii h ?_
  -- There are no capitals, so no camel case is taken apart.
  rw [parted, hdropped, Camel.split_of_forall, ite_self]
  intro a ha
  rcases Text.mem_intercalate_singleton ha with rfl | ⟨w, hw, ha⟩
  · exact not_isUpper_of_isWordBreak hm
  · exact not_isUpper_of_isPlain ((h w hw).2 a ha)

theorem replacedSlug_eq_self (hfold : o.stripDiacritics.truthy = true)
    (hlower : o.lowercase.truthy = true) (hascii : o.separator.mark.toNat < 0x80)
    (hquote : o.separator.mark ≠ '\'') {s : Text} (h : InWords o.separator.mark isPlain s) :
    o.replacedSlug s = s := by
  obtain ⟨words, hwords, rfl⟩ := h
  rw [replacedSlug_eq_intercalate, slugWords_intercalate hfold hlower hascii hquote hwords]

/-- Each replacement puts text for a text with a character that no slug has. -/
def ReplacesNoSlug (o : SlugOptions) : Prop :=
  ∀ r ∈ o.replacements, ∃ old new, r.Puts old new ∧
    ∃ c ∈ old, isPlain c = false ∧ c ≠ o.separator.mark

theorem ReplacesNoSlug.textReplacements (h : o.ReplacesNoSlug) : o.TextReplacements :=
  fun r hr => by
    obtain ⟨old, new, hputs, -⟩ := h r hr
    exact ⟨old, new, hputs⟩

/-- In words of small letters and digits nothing is replaced. -/
theorem ReplacesNoSlug.replace_eq_self (h : o.ReplacesNoSlug) {s : Text}
    (hs : InWords o.separator.mark isPlain s) : o.replace s = .ok s := by
  refine SlugOptions.replace_eq_self fun r hr => ?_
  obtain ⟨old, new, hputs, c, hc, hplain, hmark⟩ := h r hr
  refine ⟨old, new, hputs, c, hc, fun hcs => ?_⟩
  rcases hs.mem hcs with he | he
  · exact hmark he
  · rw [hplain] at he
    cases he

/-- **The slugs are the fixed points.**  If the options fold and lower text, the separator is an
ASCII character other than the apostrophe and the backslash, and no replacement applies to a slug,
then a text is its own slug just if it is words of small letters and digits with the separator
between each two.  The slug of every text is one of them, so making the slug of it changes
nothing. -/
theorem slug_eq_self_iff_inWords (hfold : o.stripDiacritics.truthy = true)
    (hlower : o.lowercase.truthy = true) (hascii : o.separator.mark.toNat < 0x80)
    (hquote : o.separator.mark ≠ '\'') (hescape : o.separator.mark ≠ '\\')
    (hreplacements : o.ReplacesNoSlug) :
    (∀ x, o.slug x = .ok x ↔ InWords o.separator.mark isPlain x) ∧
      ∀ x, ∃ s, o.slug x = .ok s ∧ o.slug s = .ok s := by
  have hslug : ∀ x, ∃ s, o.slug x = .ok s ∧ InWords o.separator.mark isPlain s := by
    intro x
    obtain ⟨u, -, hs⟩ := exists_slug hreplacements.textReplacements hescape x
    exact ⟨o.replacedSlug u, hs, inWords_replacedSlug_of_lower hfold hlower u⟩
  have hfixed : ∀ x, InWords o.separator.mark isPlain x → o.slug x = .ok x := by
    intro x hx
    rw [slug_of_replace hescape (hreplacements.replace_eq_self hx),
      replacedSlug_eq_self hfold hlower hascii hquote hx]
  refine ⟨fun x => ⟨fun hx => ?_, hfixed x⟩, fun x => ?_⟩
  · obtain ⟨s, hs, hwords⟩ := hslug x
    rw [hx] at hs
    exact Except.ok.inj hs ▸ hwords
  · obtain ⟨s, hs, hwords⟩ := hslug x
    exact ⟨s, hs, hfixed s hwords⟩

theorem replacesNoSlug_default : ({} : SlugOptions).ReplacesNoSlug := fun r hr => by
  rw [List.mem_singleton.1 hr]
  exact ⟨['&'], " and ".toList, ⟨rfl, rfl⟩, '&', by decide, by decide, by decide⟩

/-- The options by default are such: no slug has an ampersand. -/
theorem slug_eq_self_iff_inWords_default :
    ({} : SlugOptions).ReplacesNoSlug ∧
    (∀ x, ({} : SlugOptions).slug x = .ok x ↔ InWords '-' isPlain x) ∧
      ∀ x, ∃ s, ({} : SlugOptions).slug x = .ok s ∧ ({} : SlugOptions).slug s = .ok s :=
  ⟨replacesNoSlug_default,
    slug_eq_self_iff_inWords rfl rfl (by decide) (by decide) (by decide) replacesNoSlug_default⟩

end SlugOptions
end Permalink
