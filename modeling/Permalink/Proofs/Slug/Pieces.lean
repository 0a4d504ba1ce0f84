import Permalink.Proofs.Slug.Grammar

/-!
# Slug — the pieces of a path

A value becomes part of a path piece by piece: the text of the value is split at its slashes, and
between the slugs of the pieces the slashes are put back.

No slug has a slash (`slash_not_mem_slug`): it would have to be the separator or a character of a
word, whatever the replacements have put into the text and whatever folding makes of it.  So **the
result is split at its slashes into the slugs of the pieces, each at its place, and has as many
slashes as the text** (`splitOn_pathSlug`).
-/

namespace Permalink

namespace Text

/-- A text is split into one piece more than it has marks. -/
theorem length_splitOn (c : Char) (t : Text) : (t.splitOn c).length = t.count c + 1 := by
  induction t with
  | nil => rfl
  | cons a t ih =>
      rw [List.splitOn_cons_eq_if_modifyHead, List.count_cons]
      split
      · rw [List.length_cons, ih]
      · rw [List.length_modifyHead, ih, Nat.add_zero]

end Text

namespace SlugOptions

variable {o : SlugOptions}

/-- **No slug has a slash.** -/
theorem slash_not_mem_slug {t s : Text} (h : o.slug t = .ok s) : '/' ∉ s := by
  intro hmem
  rcases mem_slug h hmem with hmark | hword | hhyphen
  · exact o.separator.ne_slash hmark.symm
  · exact absurd hword (by decide)
  · exact absurd hhyphen (by decide)

/-- **The hierarchy of a path is kept.**  Let replacements be of text by text, and the separator no
backslash.  Then every value that has a text is made part of a path, which is split at its slashes
into the slugs of the pieces of that text, in their order; so it has as many slashes as the text.  A
value without a text fails as its text does. -/
theorem splitOn_pathSlug (hreplacements : o.TextReplacements) (hmark : o.separator.mark ≠ '\\')
    (v : Value) :
    (∀ fault, v.toText = .error fault → o.pathSlug v = .error fault) ∧
    ∀ t, v.toText = .ok t → ∃ p, o.pathSlug v = .ok p ∧
      List.Forall₂ (fun piece s => o.slug piece = .ok s) (t.splitOn '/') (p.splitOn '/') ∧
      p.count '/' = t.count '/' := by
  refine ⟨fun fault ht => Outcome.bind_eq_error.2 (.inl ht), fun t ht => ?_⟩
  obtain ⟨slugs, hslugs⟩ : ∃ slugs, (t.splitOn '/').mapM o.slug = .ok slugs := by
    rw [Outcome.exists_mapM_iff]
    intro piece _
    obtain ⟨u, -, hslug⟩ := exists_slug hreplacements hmark piece
    exact ⟨o.replacedSlug u, hslug⟩
  have hpieces := Outcome.mapM_eq_ok.1 hslugs
  have hsplit : (List.intercalate ['/'] slugs).splitOn '/' = slugs := by
    refine List.splitOn_intercalate '/' (fun s hs => ?_) ?_
    · obtain ⟨piece, -, hpiece⟩ := Outcome.exists_of_mem_mapM hslugs hs
      exact slash_not_mem_slug hpiece
    · rintro rfl
      exact List.splitOn_ne_nil _ _ (List.forall₂_nil_right_iff.1 hpieces)
  refine ⟨List.intercalate ['/'] slugs, ?_, ?_, ?_⟩
  · exact Outcome.bind_eq_ok.2 ⟨t, ht, Outcome.bind_eq_ok.2 ⟨slugs, hslugs, rfl⟩⟩
  · rw [hsplit]
    exact hpieces
  · have hlength := hpieces.length_eq
    rw [← hsplit, Text.length_splitOn, Text.length_splitOn] at hlength
    exact (Nat.succ.inj hlength).symm

/-- Options that put a slash for a plus sign. -/
def slashed : SlugOptions where
  separator := ⟨'~', by decide, by decide⟩
  replacements := [⟨.text ['+'], .text ['/'], rfl⟩]

/-- A list whose text starts with a slash and has two together, with a fraction and with a plus sign
for which a slash is put. -/
theorem splitOn_pathSlug_slashed :
    slashed.TextReplacements ∧ slashed.separator.mark ≠ '\\' ∧
    ∃ p, slashed.pathSlug (.items .list [.text "/A+B".toList, .text "½//".toList]) = .ok p ∧
      List.Forall₂ (fun piece s => slashed.slug piece = .ok s)
        [[], "A+B,½".toList, [], []] (p.splitOn '/') ∧
      p.count '/' = 3 := by
  have hreplacements : slashed.TextReplacements := by
    intro r hr
    rw [List.mem_singleton.1 hr]
    exact ⟨['+'], ['/'], rfl, rfl⟩
  exact ⟨hreplacements, by decide, splitOn_pathSlug hreplacements (by decide)
    (.items .list [.text "/A+B".toList, .text "½//".toList]) |>.2 _ rfl⟩

end SlugOptions
end Permalink
