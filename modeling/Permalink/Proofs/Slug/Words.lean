import Permalink.Proofs.Slug.Camel
import Permalink.Proofs.Slug.Characters
import Permalink.Proofs.Slug.Fold
import Permalink.Proofs.Text.Runs

/-!
# Slug — the words of a slug

A slug is a list of words with the separator between each two (`replacedSlug_eq_intercalate`).  The
words are the runs between the blanks of what is cleaned (`slugWords`), and they are alphanumeric
(`isAlnum_of_mem_slugWords`): the hyphens and underscores of the text have become blanks before, and
neither composing nor lowering brings one back.  Which separator is asked for has no part in them.

Where text is folded to ASCII the words can be read off the folded text (`slugWords_of_fold`).  They
are its runs between word breaks, of which each is freed of what is no letter or digit and put in
lower case if so wanted, and those of which nothing is left are passed over.  Composing does nothing
to ASCII text, and there is no tag to be dropped: a `<` is punctuation, and no word character or
blank is folded to one (`angle_not_mem_folded`).
-/

namespace Permalink

namespace Text

theorem trim_congr {p q : Char → Bool} {t : Text} (h : ∀ a ∈ t, p a = q a) :
    trim p t = trim q t := by
  have hdrop : ∀ t : Text, (∀ a ∈ t, p a = q a) → t.dropWhile p = t.dropWhile q := by
    intro t
    induction t with
    | nil => exact fun _ => rfl
    | cons a t ih =>
        intro h
        obtain ⟨ha, ht⟩ := List.forall_mem_cons.1 h
        rw [List.dropWhile_cons, List.dropWhile_cons, ha, ih ht]
  rw [trim, trim, hdrop t h, hdrop]
  exact fun a ha => h a ((List.dropWhile_sublist q).subset (List.mem_reverse.1 ha))

end Text

/-! ### Tags, breaks and letters -/

namespace Slug

theorem dropTagsFrom_sublist (inside : Bool) (t : Text) : (dropTagsFrom inside t).Sublist t := by
  induction t generalizing inside with
  | nil => exact List.Sublist.refl []
  | cons c t ih =>
      rw [dropTagsFrom]
      split
      · exact (ih _).cons c
      · split
        · exact (ih _).cons c
        · exact (ih _).cons_cons c

/-- **Text without a `<`** has no tags. -/
theorem dropTags_of_not_mem {t : Text} (h : '<' ∉ t) : dropTags t = t := by
  rw [dropTags]
  induction t with
  | nil => rfl
  | cons c t ih =>
      obtain ⟨hc, ht⟩ := not_or.1 (mt List.mem_cons.2 h)
      have hopen : (c == '<') = false := by simpa using Ne.symm hc
      simp [dropTagsFrom, hopen, ih ht]

theorem isWordBreak_of_isBlank {c : Char} (h : Text.isBlank c = true) : isWordBreak c = true := by
  simp [isWordBreak, h]

theorem not_isWordBreak {c : Char} (h : isWordBreak c = false) :
    Text.isBlank c = false ∧ c ≠ '_' ∧ c ≠ '-' := by
  simpa [isWordBreak, and_assoc] using h

theorem not_isWordBreak_of_isAlphanum {c : Char} (h : c.isAlphanum = true) :
    isWordBreak c = false := by
  rw [Bool.eq_false_iff]
  intro hbreak
  simp only [isWordBreak, Bool.or_eq_true, beq_iff_eq] at hbreak
  rcases hbreak with (hblank | rfl) | rfl
  · rw [Text.not_isAlphanum_of_isBlank hblank] at h
    cases h
  · exact absurd h (by decide)
  · exact absurd h (by decide)

theorem ne_blank_of_not_isWordBreak {c : Char} (h : isWordBreak c = false) : c ≠ ' ' := by
  rintro rfl
  exact absurd (not_isWordBreak h).1 (by decide)

/-- What may stay in a slug and is no break is alphanumeric. -/
theorem isAlnum_of_isSlugChar {c : Char} (h : isSlugChar c = true) (hlow : c ≠ '_')
    (hhyphen : c ≠ '-') (hblank : c ≠ ' ') : Text.isAlnum c = true := by
  simpa [isSlugChar, Text.isWord, hlow, hhyphen, hblank] using h

theorem not_isApostrophe_of_isWord {c : Char} (h : Text.isWord c = true) :
    isApostrophe c = false := by
  rw [Bool.eq_false_iff]
  intro hc
  simp only [isApostrophe, Bool.or_eq_true, beq_iff_eq] at hc
  rcases hc with rfl | rfl
  · exact absurd h (by decide)
  · exact absurd h (by decide +kernel)

theorem dropPunctuation_append (a b : Text) :
    dropPunctuation (a ++ b) = dropPunctuation a ++ dropPunctuation b := by
  simp only [dropPunctuation, List.map_append, List.filter_append]

theorem dropPunctuation_singleton (c : Char) : dropPunctuation [c] =
    if isApostrophe c then [] else if Text.isWord c || Text.isBlank c then [c] else [' '] := by
  have hblank : isApostrophe ' ' = false := rfl
  rw [dropPunctuation, List.map_singleton]
  cases hc : isApostrophe c with
  | true => simp [hc]
  | false =>
      rw [Bool.or_false, if_neg Bool.false_ne_true]
      split
      · simp [hc]
      · simp [hblank]

/-- Without punctuation there are word characters and blanks. -/
theorem isWord_or_isBlank_of_mem_dropPunctuation {t : Text} {a : Char} (h : a ∈ dropPunctuation t) :
    Text.isWord a = true ∨ Text.isBlank a = true := by
  obtain ⟨hmem, hapostrophe⟩ := List.mem_filter.1 h
  obtain ⟨c, -, rfl⟩ := List.mem_map.1 hmem
  split
  · next hc =>
    rw [if_pos hc, Bool.not_eq_true'] at hapostrophe
    simpa [hapostrophe] using hc
  · exact .inr (by decide)

theorem breaks_not_in_canonicalTable : (Text.canonicalTable.all fun d =>
    !d.2.contains '_'.toNat && !d.2.contains '-'.toNat) = true := by
  decide +kernel

/-- **Cleaning brings forth no underscore and no hyphen.** -/
theorem mem_of_mem_clean {lowercase : Bool} {t : Text} {a : Char} (h : a ∈ clean lowercase t)
    (ha : a = '_' ∨ a = '-') : a ∈ t := by
  have hlt : a.toNat < 0x60 := by rcases ha with rfl | rfl <;> decide
  have hzero : a.toNat ≠ 0 := by rcases ha with rfl | rfl <;> decide
  have htrim : a ∈ (dropTags (Text.composed t)).trim Text.isBlank := by
    have h := (List.mem_filter.1 h).1
    split at h
    · exact Text.mem_of_mem_lower h hlt hzero
    · exact h
  have hcomposed : a ∈ Text.composed t := (dropTagsFrom_sublist _ _).subset (Text.mem_trim htrim)
  obtain ⟨c, hc, hac⟩ :=
    Text.exists_mem_canonical_of_mem_composed hcomposed (by omega) hzero
  rcases Text.mem_canonical hac (by omega) hzero with rfl | ⟨d, hd, -, hmem⟩
  · exact hc
  · have hentry := List.all_eq_true.1 breaks_not_in_canonicalTable d hd
    rw [Bool.and_eq_true, Bool.not_eq_true', Bool.not_eq_true'] at hentry
    rcases ha with rfl | rfl
    · rw [List.contains_iff_mem.2 hmem] at hentry
      exact absurd hentry.1 (by decide)
    · rw [List.contains_iff_mem.2 hmem] at hentry
      exact absurd hentry.2 (by decide)

/-- **Separated, a text is its words** with the separator between each two. -/
theorem separate_eq_intercalate {mark : Char} {t : Text} (h : ∀ a ∈ t, a ≠ ' ' → a ≠ mark) :
    separate mark t = List.intercalate [mark] (Text.runs (· == ' ') t) := by
  rw [separate, Text.trim_squeeze (by simp)]
  refine congrArg _ (Text.runs_map (fun a _ ha => by simp_all) fun a ha hblank => ?_)
  have hblank : a ≠ ' ' := by simpa using hblank
  simpa [hblank] using h a ha hblank

end Slug

/-! ### The words of a slug -/

namespace SlugOptions

variable {o : SlugOptions} {t : Text}

/-- The words of the slug of a text in which the replacements have been made. -/
def slugWords (o : SlugOptions) (t : Text) : List Text :=
  Text.runs (· == ' ') (Slug.clean o.lowercase.truthy (o.words t))

theorem isAlnum_of_mem_clean {a : Char} (h : a ∈ Slug.clean o.lowercase.truthy (o.words t))
    (hblank : a ≠ ' ') : Text.isAlnum a = true := by
  -- Of the text that is cleaned, the breaks have become blanks.
  have hbreak : ∀ b ∈ o.words t, b = ' ' ∨ Slug.isWordBreak b = false := fun b hb =>
    (Text.mem_squeeze hb).imp_right And.right
  have hkept : ∀ b, b = '_' ∨ b = '-' → a ≠ b := by
    rintro b hb rfl
    rcases hbreak a (Slug.mem_of_mem_clean h hb) with he | he
    · exact hblank he
    · rcases hb with rfl | rfl
      · exact (Slug.not_isWordBreak he).2.1 rfl
      · exact (Slug.not_isWordBreak he).2.2 rfl
  exact Slug.isAlnum_of_isSlugChar (Slug.isSlugChar_of_mem_clean h) (hkept '_' (.inl rfl))
    (hkept '-' (.inr rfl)) hblank

/-- **The words of a slug** are alphanumeric, and none is empty. -/
theorem isAlnum_of_mem_slugWords {w : Text} (hw : w ∈ o.slugWords t) :
    w ≠ [] ∧ ∀ a ∈ w, Text.isAlnum a = true := by
  refine ⟨Text.ne_nil_of_mem_runs hw, fun a ha => ?_⟩
  obtain ⟨hmem, hblank⟩ := Text.mem_of_mem_runs hw ha
  exact isAlnum_of_mem_clean hmem (by simpa using hblank)

theorem ne_mark_of_isAlnum {a : Char} (h : Text.isAlnum a = true) : a ≠ o.separator.mark := by
  rintro rfl
  rw [o.separator.not_alnum] at h
  cases h

/-- **A slug is its words** with the separator between each two. -/
theorem replacedSlug_eq_intercalate (o : SlugOptions) (t : Text) :
    o.replacedSlug t = List.intercalate [o.separator.mark] (o.slugWords t) :=
  Slug.separate_eq_intercalate fun _ ha hblank =>
    ne_mark_of_isAlnum (isAlnum_of_mem_clean ha hblank)

end SlugOptions

/-! ### Folded text -/

namespace Slug

/-- The letters and digits of a word, in lower case if so wanted. -/
def word (lowercase : Bool) (w : Text) : Text :=
  (if lowercase then w.map Char.toLower else w).filter Char.isAlphanum

theorem toLower_eq_or (c : Char) : c.toLower = c ∨ c.isAlpha = true ∧ c.toLower.isLower = true := by
  by_cases hc : c.isUpper = true
  · have hbounds := Text.isUpper_iff.1 hc
    have hlower := Text.toNat_toLower_of_isUpper hc
    have halpha : c.isAlpha = true := Bool.or_eq_true_iff.2 (.inl hc)
    exact .inr ⟨halpha, Text.isLower_iff.2 (by omega)⟩
  · exact .inl (Text.toLower_of_not_isUpper hc)

theorem isAlphanum_toLower (c : Char) : c.toLower.isAlphanum = c.isAlphanum := by
  rcases toLower_eq_or c with h | ⟨halpha, hlower⟩
  · rw [h]
  · have hletter : c.isAlphanum = true := Bool.or_eq_true_iff.2 (.inl halpha)
    rw [hletter, Text.isAlphanum_of_isLower hlower]

/-- Of ASCII characters that are no breaks, those that stay are the letters and digits. -/
theorem isSlugChar_eq_isAlphanum {c : Char} (hascii : c.toNat < 0x80)
    (hbreak : isWordBreak c = false) : isSlugChar c = c.isAlphanum := by
  obtain ⟨-, hlow, hhyphen⟩ := not_isWordBreak hbreak
  have hblank := ne_blank_of_not_isWordBreak hbreak
  rw [isSlugChar, Text.isWord, Text.isAlnum_of_ascii hascii, beq_false_of_ne hlow,
    beq_false_of_ne hhyphen, beq_false_of_ne hblank]
  simp only [Bool.or_false]

theorem isSlugChar_toLower_eq_isAlphanum {c : Char} (hascii : c.toNat < 0x80)
    (hbreak : isWordBreak c = false) : isSlugChar c.toLower = c.toLower.isAlphanum := by
  rcases toLower_eq_or c with h | ⟨-, hlower⟩
  · rw [h, isSlugChar_eq_isAlphanum hascii hbreak]
  · have hletter := Text.isAlphanum_of_isLower hlower
    have hlt := Text.toNat_lt_of_isAlphanum hletter
    simp [isSlugChar, Text.isWord, Text.isAlnum_of_ascii hlt, hletter]

theorem filter_word {lowercase : Bool} {w : Text}
    (h : ∀ a ∈ w, a.toNat < 0x80 ∧ isWordBreak a = false) :
    (if lowercase then w.map Char.toLower else w).filter isSlugChar = word lowercase w := by
  rw [word]
  refine List.filter_congr fun a ha => ?_
  split at ha
  · obtain ⟨b, hb, rfl⟩ := List.mem_map.1 ha
    exact isSlugChar_toLower_eq_isAlphanum (h b hb).1 (h b hb).2
  · exact isSlugChar_eq_isAlphanum (h a ha).1 (h a ha).2

theorem composed_squeeze {t : Text} (h : ∀ a ∈ t, a.toNat < 0x80) :
    Text.composed (t.squeeze isWordBreak ' ') = t.squeeze isWordBreak ' ' := by
  refine Text.composed_of_ascii fun a ha => ?_
  rcases Text.mem_squeeze ha with rfl | ⟨ha, -⟩
  · decide
  · exact h a ha

theorem dropTags_squeeze {t : Text} (h : '<' ∉ t) :
    dropTags (t.squeeze isWordBreak ' ') = t.squeeze isWordBreak ' ' := by
  refine dropTags_of_not_mem fun hmem => ?_
  rcases Text.mem_squeeze hmem with he | ⟨hmem, -⟩
  · exact absurd he (by decide)
  · exact h hmem

/-- ASCII words are put in lower case one by one. -/
theorem lower_intercalate {lowercase : Bool} {words : List Text}
    (h : ∀ w ∈ words, ∀ a ∈ w, a.toNat < 0x80) :
    (if lowercase then Text.lower (List.intercalate [' '] words)
      else List.intercalate [' '] words) =
      List.intercalate [' '] (words.map fun w => if lowercase then w.map Char.toLower else w) := by
  cases lowercase with
  | false => simp
  | true =>
      have hjoined : ∀ a ∈ List.intercalate [' '] words, a.toNat < 0x80 := by
        intro a ha
        rcases Text.mem_intercalate_singleton ha with rfl | ⟨w, hw, ha⟩
        · decide
        · exact h w hw a ha
      rw [if_pos rfl, Text.lower_of_ascii hjoined, Text.map_intercalate]
      rfl

/-- **ASCII text without a `<`** is cleaned word by word. -/
theorem clean_squeeze {lowercase : Bool} {t : Text} (hascii : ∀ a ∈ t, a.toNat < 0x80)
    (hangle : '<' ∉ t) : clean lowercase (t.squeeze isWordBreak ' ') =
      List.intercalate [' '] ((Text.runs isWordBreak t).map (word lowercase)) := by
  -- Breaks are squeezed and only blanks are trimmed, but of the breaks only blanks are left.
  have htrim : (t.squeeze isWordBreak ' ').trim Text.isBlank =
      List.intercalate [' '] (Text.runs isWordBreak t) := by
    rw [← Text.trim_squeeze (by decide)]
    refine Text.trim_congr fun a ha => ?_
    rcases Text.mem_squeeze ha with rfl | ⟨-, ha⟩
    · decide
    · rw [ha, (not_isWordBreak ha).1]
  have hruns : ∀ w ∈ Text.runs isWordBreak t, ∀ a ∈ w, a.toNat < 0x80 ∧ isWordBreak a = false :=
    fun w hw a ha => ⟨hascii a (Text.mem_of_mem_runs hw ha).1, (Text.mem_of_mem_runs hw ha).2⟩
  rw [clean, composed_squeeze hascii, dropTags_squeeze hangle, htrim,
    lower_intercalate fun w hw a ha => (hruns w hw a ha).1, Text.filter_intercalate (by decide),
    List.map_map]
  exact congrArg _ (List.map_congr_left fun w hw => filter_word (hruns w hw))

end Slug

namespace SlugOptions

variable {o : SlugOptions} {t : Text}

/-- The text without punctuation, its camel case taken apart if so wanted. -/
def parted (o : SlugOptions) (t : Text) : Text :=
  if o.decamelize.truthy then Camel.split (Slug.dropPunctuation t) else Slug.dropPunctuation t

theorem words_of_fold (h : o.stripDiacritics.truthy = true) :
    o.words t = (Fold.toAscii (o.parted t)).squeeze Slug.isWordBreak ' ' := by
  rw [words, if_pos h]
  rfl

theorem isWord_or_isBlank_of_mem_parted {a : Char} (h : a ∈ o.parted t) :
    Text.isWord a = true ∨ Text.isBlank a = true := by
  rw [parted] at h
  split at h
  · rcases Camel.mem_split h with rfl | h
    · exact .inr (by decide)
    · exact Slug.isWord_or_isBlank_of_mem_dropPunctuation h
  · exact Slug.isWord_or_isBlank_of_mem_dropPunctuation h

/-- **No `<` is left** when text is folded. -/
theorem angle_not_mem_folded (o : SlugOptions) (t : Text) : '<' ∉ Fold.toAscii (o.parted t) := by
  intro h
  obtain ⟨c, hc, hangle⟩ := Fold.mem_toAscii.1 h
  rcases isWord_or_isBlank_of_mem_parted hc with hword | hblank
  · rw [Fold.isWord_eq_false_of_mem_toAscii hangle] at hword
    cases hword
  · exact absurd (Fold.isBlank_of_mem_toAscii hblank hangle) (by decide)

theorem ascii_folded (o : SlugOptions) (t : Text) :
    ∀ a ∈ Fold.toAscii (o.parted t), a.toNat < 0x80 := fun _ ha =>
  Fold.isAscii_iff.1 (Fold.isAscii_of_mem_toAscii ha)

/-- **No markup is dropped** where text is folded. -/
theorem dropTags_composed_words (h : o.stripDiacritics.truthy = true) (t : Text) :
    Slug.dropTags (Text.composed (o.words t)) = Text.composed (o.words t) := by
  rw [words_of_fold h, Slug.composed_squeeze (ascii_folded o t),
    Slug.dropTags_squeeze (angle_not_mem_folded o t)]

/-- **The words of a slug of folded text** are the letters and digits of its words. -/
theorem slugWords_of_fold (h : o.stripDiacritics.truthy = true) (t : Text) :
    o.slugWords t = ((Text.runs Slug.isWordBreak (Fold.toAscii (o.parted t))).map
      (Slug.word o.lowercase.truthy)).filter (· ≠ []) := by
  rw [slugWords, words_of_fold h,
    Slug.clean_squeeze (ascii_folded o t) (angle_not_mem_folded o t)]
  refine Text.runs_intercalate (by decide) fun w hw a ha => ?_
  obtain ⟨v, -, rfl⟩ := List.mem_map.1 hw
  have hletter : a.isAlphanum = true := (List.mem_filter.1 ha).2
  refine beq_eq_false_iff_ne.2 fun he => ?_
  rw [he] at hletter
  exact absurd hletter (by decide)

end SlugOptions
end Permalink
