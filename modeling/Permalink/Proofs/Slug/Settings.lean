import Permalink.Proofs.Slug.Grammar

/-!
# Slug — options that a setting gives

A setting is checked when options are made of it, and not again when they are used.  Here it is one
of which the separator is a text and the replacements are pairs of texts, as far as it gives them
(`PlainSetting.WrittenIn`); its switches can be anything.

* `exists_ofValue_iff`: of such a setting options are made just if the separator is one character,
  no slash and not alphanumeric, and nothing is put for the empty text (`PlainSetting.Valid`).
* `exists_slug_of_setting_iff`: **of what is accepted just the backslash fails later**, and it does
  so for every text: it can be matched and trimmed as any character can, but not be inserted.  With
  any other separator each text has a slug.
* `backslash_accepted`: a setting that names it is accepted.
-/

namespace Permalink

/-! ### Reading the parts of a setting -/

/-- A separator is given by the text of its one character. -/
theorem Separator.ofValue_text_eq_ok {t : Text} {s : Separator} :
    ofValue (.text t) = .ok s ↔ t = [s.mark] := by
  constructor
  · intro h
    unfold ofValue at h
    split at h
    · next c he =>
      obtain rfl := Value.text.inj he
      split at h
      · cases h
      · split at h
        · cases h
        · cases h
          rfl
    · cases h
  · rintro rfl
    have halnum : ¬ Text.isAlnum s.mark = true := by
      rw [s.not_alnum]
      exact Bool.false_ne_true
    simp only [ofValue, dif_neg s.ne_slash, dif_neg halnum]

/-- Parts that are no replacement are a fault, also where they cannot be shown. -/
theorem Replacement.invalid_ne_ok (parts : List Value) (r : Replacement) :
    invalid parts ≠ .ok r := by
  intro h
  obtain ⟨shown, -, h⟩ := Outcome.bind_eq_ok.1 h
  cases h

/-- A replacement is given by two texts, of which the first is not empty. -/
theorem Replacement.ofParts_texts_eq_ok {old new : Text} {r : Replacement} :
    ofParts [.text old, .text new] = .ok r ↔ old ≠ [] ∧ r.Puts old new := by
  have htruthy : (Value.text old).truthy = true ↔ old ≠ [] := by
    simp [Value.truthy]
  simp only [ofParts]
  constructor
  · intro h
    split at h
    · next hold =>
      cases h
      exact ⟨htruthy.1 hold, rfl, rfl⟩
    · exact absurd h (invalid_ne_ok _ r)
  · rintro ⟨hold, hputs⟩
    rw [dif_pos (htruthy.2 hold)]
    obtain ⟨rold, rnew, hr⟩ := r
    obtain ⟨rfl, rfl⟩ := hputs
    rfl

namespace SlugOptions

/-- The parts of the replacements that a setting gives, if it gives them. -/
def givenParts (entries : List (Value × Value)) : Except Fault (Option (List (List Value))) :=
  match Value.keyed? "replacements" entries with
  | none => .ok none
  | some v => do
    let parts ← (← v.itemsOf).mapM Value.partsOf
    return some parts

/-- The separator that a setting gives, if it gives one. -/
def givenSeparator (entries : List (Value × Value)) : Except Fault (Option Separator) :=
  match Value.keyed? "separator" entries with
  | none => .ok none
  | some v => ((Separator.ofValue v).map some).mapError Fault.option

/-- The replacements of given parts. -/
def ofParts? : Option (List (List Value)) → Except Fault (Option (List Replacement))
  | none => .ok none
  | some parts => (parts.mapM Replacement.ofParts).map some

/-- The options with what is given, and the rest of `o`. -/
def filled (o : SlugOptions) (entries : List (Value × Value)) (separator : Option Separator)
    (replacements : Option (List Replacement)) : SlugOptions where
  lowercase := (Value.keyed? "lowercase" entries).getD o.lowercase
  separator := separator.getD o.separator
  stripDiacritics := (Value.keyed? "strip_diacritics" entries).getD o.stripDiacritics
  decamelize := (Value.keyed? "decamelize" entries).getD o.decamelize
  replacements := replacements.getD o.replacements

/-- **The options of a setting**, in the order in which its parts are read. -/
theorem ofValue_mapping (entries : List (Value × Value)) : ofValue (.mapping entries) = do
    let parts ← givenParts entries
    let separator ← givenSeparator entries
    let replacements ← ofParts? parts
    return filled {} entries separator replacements := by
  unfold givenParts givenSeparator ofParts? filled ofValue
  -- What is read next is read in either case, so the cases are taken apart before.
  cases hreplacements : Value.keyed? "replacements" entries with
  | none =>
      cases hseparator : Value.keyed? "separator" entries with
      | none => simp only [hreplacements, hseparator]; rfl
      | some v => simp only [hreplacements, hseparator]; rfl
  | some v =>
      cases hseparator : Value.keyed? "separator" entries with
      | none => simp only [hreplacements, hseparator, bind_assoc]; rfl
      | some v => simp only [hreplacements, hseparator, bind_assoc]; rfl

theorem ofValue_mapping_eq_ok {entries : List (Value × Value)} {o : SlugOptions} :
    ofValue (.mapping entries) = .ok o ↔ ∃ parts separator replacements,
      givenParts entries = .ok parts ∧ givenSeparator entries = .ok separator ∧
        ofParts? parts = .ok replacements ∧ filled {} entries separator replacements = o := by
  rw [ofValue_mapping, Outcome.bind_eq_ok]
  refine exists_congr fun parts => ?_
  simp only [Outcome.bind_eq_ok, exists_and_left]
  refine and_congr_right fun _ => exists_congr fun separator => and_congr_right fun _ =>
    exists_congr fun replacements => and_congr_right fun _ => ?_
  exact ⟨Except.ok.inj, congrArg Except.ok⟩

end SlugOptions

/-! ### Settings of the right kinds -/

/-- What a setting gives, each part if it gives it: the text of the separator, and pairs of a text
and what is put for it. -/
structure PlainSetting where
  separator : Option Text
  replacements : Option (List (Text × Text))

namespace PlainSetting

/-- The entries of a setting give these parts.  The pairs are any kind of collection. -/
structure WrittenIn (entries : List (Value × Value)) (p : PlainSetting) : Prop where
  separator : Value.keyed? "separator" entries = p.separator.map Value.text
  no_replacements : p.replacements = none → Value.keyed? "replacements" entries = none
  replacements : ∀ pairs ∈ p.replacements, ∃ kind items,
    Value.keyed? "replacements" entries = some (.items kind items) ∧
      List.Forall₂ (fun pair v => ∃ kind, v = .items kind [.text pair.1, .text pair.2]) pairs items

/-- The separator is one character, no slash and not alphanumeric, and nothing is put for the empty
text. -/
structure Valid (p : PlainSetting) : Prop where
  separator : ∀ t ∈ p.separator, ∃ c, t = [c] ∧ c ≠ '/' ∧ Text.isAlnum c = false
  replacements : ∀ pairs ∈ p.replacements, ∀ pair ∈ pairs, pair.1 ≠ []

variable {entries : List (Value × Value)} {p : PlainSetting}

theorem WrittenIn.givenSeparator_eq_ok (h : WrittenIn entries p) {separator : Option Separator} :
    SlugOptions.givenSeparator entries = .ok separator ↔
      p.separator = separator.map fun s => [s.mark] := by
  rw [SlugOptions.givenSeparator, h.separator]
  cases hp : p.separator with
  | none =>
      cases separator with
      | none => simp
      | some s => simp
  | some t =>
      rw [Option.map_some]
      dsimp only
      rw [Outcome.mapError_eq_ok, Outcome.map_eq_ok]
      simp only [Separator.ofValue_text_eq_ok]
      cases separator with
      | none => simp
      | some s => simp

/-- The two parts of a pair. -/
def partsOf (pair : Text × Text) : List Value := [.text pair.1, .text pair.2]

theorem WrittenIn.givenParts_eq (h : WrittenIn entries p) :
    SlugOptions.givenParts entries = .ok (p.replacements.map (List.map partsOf)) := by
  cases hp : p.replacements with
  | none =>
      rw [SlugOptions.givenParts, h.no_replacements hp]
      rfl
  | some pairs =>
      obtain ⟨kind, items, hitems, hpairs⟩ := h.replacements pairs hp
      have hparts : items.mapM Value.partsOf = .ok (pairs.map partsOf) := by
        rw [Outcome.mapM_eq_ok, List.forall₂_map_right_iff]
        refine hpairs.flip.imp fun v pair hv => ?_
        obtain ⟨kind, rfl⟩ := hv
        rfl
      rw [SlugOptions.givenParts, hitems]
      show (items.mapM Value.partsOf >>= fun parts => pure (some parts)) = _
      rw [hparts]
      rfl

/-- A replacement of given pairs puts the second text of one of them for the first. -/
theorem puts_of_mem {pairs : List (Text × Text)} {replacements : List Replacement}
    (h : (pairs.map partsOf).mapM Replacement.ofParts = .ok replacements) {r : Replacement}
    (hr : r ∈ replacements) : ∃ old new, r.Puts old new := by
  obtain ⟨parts, hparts, hread⟩ := Outcome.exists_of_mem_mapM h hr
  obtain ⟨pair, -, rfl⟩ := List.mem_map.1 hparts
  exact ⟨pair.1, pair.2, (Replacement.ofParts_texts_eq_ok.1 hread).2⟩

/-- Pairs can be read if each has a first part. -/
theorem exists_ofParts_iff {pairs : List (Text × Text)} :
    (∃ replacements, (pairs.map partsOf).mapM Replacement.ofParts = .ok replacements) ↔
      ∀ pair ∈ pairs, pair.1 ≠ [] := by
  rw [Outcome.exists_mapM_iff, List.forall_mem_map]
  refine forall₂_congr fun pair _ => ?_
  rw [partsOf]
  simp only [Replacement.ofParts_texts_eq_ok]
  constructor
  · rintro ⟨r, hold, -⟩
    exact hold
  · intro hold
    exact ⟨⟨.text pair.1, .text pair.2, by simpa [Value.truthy] using hold⟩, hold, rfl, rfl⟩

/-- **What the options of a setting are**: those of a separator and of replacements that can be
read. -/
theorem WrittenIn.ofValue_eq_ok_iff (h : WrittenIn entries p) {o : SlugOptions} :
    SlugOptions.ofValue (.mapping entries) = .ok o ↔ ∃ separator replacements,
      p.separator = separator.map (fun s : Separator => [s.mark]) ∧
      SlugOptions.ofParts? (p.replacements.map (List.map partsOf)) = .ok replacements ∧
      SlugOptions.filled {} entries separator replacements = o := by
  simp only [SlugOptions.ofValue_mapping_eq_ok, h.givenParts_eq, h.givenSeparator_eq_ok,
    Except.ok.injEq, exists_and_left, exists_eq_left']

/-- **Which settings are accepted.** -/
theorem WrittenIn.exists_ofValue_iff (h : WrittenIn entries p) :
    (∃ o, SlugOptions.ofValue (.mapping entries) = .ok o) ↔ p.Valid := by
  simp only [h.ofValue_eq_ok_iff]
  constructor
  · rintro ⟨o, separator, replacements, hseparator, hreplacements, -⟩
    constructor
    · intro t ht
      rw [hseparator] at ht
      obtain ⟨s, -, rfl⟩ := Option.map_eq_some_iff.1 ht
      exact ⟨s.mark, rfl, s.ne_slash, s.not_alnum⟩
    · intro pairs hpairs
      rw [Option.mem_def.1 hpairs, Option.map_some, SlugOptions.ofParts?, Outcome.map_eq_ok]
        at hreplacements
      obtain ⟨rs, hrs, -⟩ := hreplacements
      exact exists_ofParts_iff.1 ⟨rs, hrs⟩
  · intro hvalid
    obtain ⟨separator, hseparator⟩ : ∃ separator : Option Separator,
        p.separator = separator.map fun s => [s.mark] := by
      cases hp : p.separator with
      | none => exact ⟨none, rfl⟩
      | some t =>
          obtain ⟨c, rfl, hslash, halnum⟩ := hvalid.separator t hp
          exact ⟨some ⟨c, hslash, halnum⟩, rfl⟩
    obtain ⟨replacements, hreplacements⟩ : ∃ replacements,
        SlugOptions.ofParts? (p.replacements.map (List.map partsOf)) = .ok replacements := by
      cases hp : p.replacements with
      | none => exact ⟨none, rfl⟩
      | some pairs =>
          obtain ⟨rs, hrs⟩ := exists_ofParts_iff.2 (hvalid.replacements pairs hp)
          exact ⟨some rs, by rw [Option.map_some, SlugOptions.ofParts?, hrs]; rfl⟩
    exact ⟨_, separator, replacements, hseparator, hreplacements, rfl⟩

/-- The options of a setting have its separator, or a hyphen. -/
theorem WrittenIn.mark_eq (h : WrittenIn entries p) {o : SlugOptions}
    (ho : SlugOptions.ofValue (.mapping entries) = .ok o) :
    p.separator.getD ['-'] = [o.separator.mark] := by
  obtain ⟨separator, replacements, hseparator, -, rfl⟩ := h.ofValue_eq_ok_iff.1 ho
  rw [hseparator]
  cases separator with
  | none => rfl
  | some s => rfl

/-- Their replacements are of text by text. -/
theorem WrittenIn.textReplacements (h : WrittenIn entries p) {o : SlugOptions}
    (ho : SlugOptions.ofValue (.mapping entries) = .ok o) : o.TextReplacements := by
  obtain ⟨separator, replacements, -, hreplacements, rfl⟩ := h.ofValue_eq_ok_iff.1 ho
  cases hp : p.replacements with
  | none =>
      rw [hp] at hreplacements
      cases hreplacements
      exact SlugOptions.textReplacements_default
  | some pairs =>
      rw [hp, Option.map_some, SlugOptions.ofParts?, Outcome.map_eq_ok] at hreplacements
      obtain ⟨rs, hrs, rfl⟩ := hreplacements
      intro r hr
      exact puts_of_mem hrs hr

end PlainSetting

/-! ### Slugs under a setting -/

namespace SlugOptions

variable {o : SlugOptions}

/-- With a backslash for its separator no text has a slug. -/
theorem slug_of_backslash (hreplacements : o.TextReplacements) (hmark : o.separator.mark = '\\')
    (t : Text) : o.slug t = .error .escape := by
  obtain ⟨u, hu⟩ := Replacement.exists_foldlM_apply hreplacements t
  rw [slug, show o.replace t = .ok u from hu]
  exact if_pos hmark

/-- **What fails of an accepted setting.**  Let a setting give a text for its separator and pairs of
texts for its replacements, as far as it gives them.  It is accepted just if the separator is one
character, no slash and not alphanumeric, and nothing is put for the empty text.  Under the options
that are made of it a text has a slug just if the separator is not given as a backslash; and with
that, every text fails. -/
theorem exists_slug_of_setting_iff {entries : List (Value × Value)} {p : PlainSetting}
    (h : p.WrittenIn entries) :
    ((∃ o, ofValue (.mapping entries) = .ok o) ↔ p.Valid) ∧
    ∀ o, ofValue (.mapping entries) = .ok o → ∀ t,
      ((∃ s, o.slug t = .ok s) ↔ p.separator ≠ some ['\\']) ∧
      (p.separator = some ['\\'] → o.slug t = .error .escape) := by
  refine ⟨h.exists_ofValue_iff, fun o ho t => ?_⟩
  have hreplacements := h.textReplacements ho
  have hmark := h.mark_eq ho
  by_cases hbackslash : p.separator = some ['\\']
  · have herror : o.slug t = .error .escape := by
      rw [hbackslash] at hmark
      exact slug_of_backslash hreplacements (List.singleton_inj.1 hmark).symm t
    refine ⟨⟨fun ⟨s, hs⟩ => ?_, fun hne => absurd hbackslash hne⟩, fun _ => herror⟩
    rw [herror] at hs
    cases hs
  · have hne : o.separator.mark ≠ '\\' := by
      intro he
      rw [he] at hmark
      cases hp : p.separator with
      | none =>
          rw [hp] at hmark
          exact absurd hmark (by decide)
      | some t =>
          rw [hp] at hmark
          exact hbackslash (hp.trans (congrArg some hmark))
    obtain ⟨u, -, hslug⟩ := exists_slug hreplacements hne t
    exact ⟨⟨fun _ => hbackslash, fun _ => ⟨_, hslug⟩⟩, fun he => absurd he hbackslash⟩

/-- A setting with a switch, a name that no option has, an underscore for the separator, and a list
and a tuple as pairs, of which one is about backslashes. -/
def underscored : List (Value × Value) :=
  [(.text "lowercase".toList, .bool false), (.text "other".toList, .null),
    (.text "replacements".toList, .items .list
      [.items .list [.text ['+'], .text " plus ".toList], .items .tuple [.text ['\\'], .text []]]),
    (.text "separator".toList, .text ['_'])]

/-- It is accepted, and every text has a slug. -/
theorem exists_slug_of_setting_underscored :
    PlainSetting.WrittenIn underscored
      ⟨some ['_'], some [(['+'], " plus ".toList), (['\\'], [])]⟩ ∧
    (∃ o, ofValue (.mapping underscored) = .ok o) ∧
    ∀ o, ofValue (.mapping underscored) = .ok o → ∀ t, ∃ s, o.slug t = .ok s := by
  have hwritten : PlainSetting.WrittenIn underscored
      ⟨some ['_'], some [(['+'], " plus ".toList), (['\\'], [])]⟩ := by
    refine ⟨rfl, fun hnone => absurd hnone (by simp), fun pairs hpairs => ?_⟩
    obtain rfl := Option.some.inj hpairs
    exact ⟨.list, _, rfl, .cons ⟨.list, rfl⟩ (.cons ⟨.tuple, rfl⟩ .nil)⟩
  obtain ⟨haccepted, hslug⟩ := exists_slug_of_setting_iff hwritten
  refine ⟨hwritten, haccepted.2 ⟨?_, ?_⟩, fun o ho t => (hslug o ho t).1.2 (by decide)⟩
  · intro t ht
    obtain rfl := Option.some.inj ht
    exact ⟨'_', rfl, by decide, by decide⟩
  · intro pairs hpairs
    obtain rfl := Option.some.inj hpairs
    decide

/-- **A separator that is accepted and fails**: a setting that gives nothing but a backslash for the
separator is accepted, and then no slug is made of `a b`. -/
theorem backslash_accepted :
    PlainSetting.WrittenIn [(.text "separator".toList, .text ['\\'])] ⟨some ['\\'], none⟩ ∧
    ∃ o, ofValue (.mapping [(.text "separator".toList, .text ['\\'])]) = .ok o ∧
      o.slug ['a', ' ', 'b'] = .error .escape := by
  refine ⟨⟨rfl, fun _ => rfl, nofun⟩, { separator := ⟨'\\', by decide, by decide⟩ }, rfl, ?_⟩
  rfl

end SlugOptions
end Permalink
