import Permalink.Proofs.Slug.Camel

/-!
# Slug — where the words of camel case start

Camel case is taken apart by two substitutions, the second in what the first has made of the text.
Each puts a blank into its matches, which are found from the left and do not overlap (`Spaced`):
into an acronym with the word behind it (`IsAcronym`), and between a small letter or digit and a
capital (`IsHump`).

Though matches can have any length, **where the blanks come is a local matter** (`startsWord`): a
word starts at a capital that a small letter or digit precedes, or that a capital precedes and a
small letter or digit follows.  Taking camel case apart puts one blank before each such offset and
does nothing else, and nothing is left to do a second time (`split_spaces_wordStarts`).

Both passes, and the two together, insert blanks by a rule that looks at one character and at the
text behind it (`insertBlanks`).  A substitution is the same as a rule if the rule finds the gap in
each match and holds only where a match starts (`spaced_iff`), and a rule applied after another is
again a rule (`insertBlanks_insertBlanks`).
-/

namespace Permalink.Camel

/-! ### Substitutions -/

/-- `out` is the text with a blank between the two parts of each match.  `Match front word rest`
says that `front` and `word` are the parts of a match that `rest` follows. -/
inductive Spaced (Match : (front word rest : Text) → Prop) : Text → (out : Text) → Prop where
  | nil : Spaced Match [] []
  /-- A match is taken where one starts, and the next is looked for behind it. -/
  | matched {front word rest out : Text} : Match front word rest → Spaced Match rest out →
      Spaced Match (front ++ word ++ rest) (front ++ ' ' :: word ++ out)
  /-- A character at which no match starts is passed over. -/
  | passed {c : Char} {t out : Text} :
      (∀ front word rest, Match front word rest → c :: t ≠ front ++ word ++ rest) →
      Spaced Match t out → Spaced Match (c :: t) (c :: out)

/-- An acronym and the word behind it: capitals, and then a capital with all the small letters and
digits that follow it. -/
structure IsAcronym (front word rest : Text) : Prop where
  front_ne_nil : front ≠ []
  front_upper : ∀ a ∈ front, a.isUpper = true
  word_eq : ∃ c w, word = c :: w ∧ c.isUpper = true ∧ w ≠ [] ∧ ∀ a ∈ w, isSmall a = true
  /-- The word goes as far as it can.  So does the front, since no small letter is a capital. -/
  longest : ∀ a ∈ rest.head?, isSmall a = false

/-- A small letter or digit and the capital behind it. -/
structure IsHump (front word rest : Text) : Prop where
  front_eq : ∃ a, front = [a] ∧ isSmall a = true
  word_eq : ∃ b, word = [b] ∧ b.isUpper = true

/-! ### Where words start -/

/-- Does a word start at the offset `i`, behind another? -/
def startsWord (t : Text) : (i : Nat) → Bool
  | 0 => false
  | i + 1 =>
    (t[i]?.any isSmall && t[i + 1]?.any Char.isUpper) ||
      (t[i]?.any Char.isUpper && t[i + 1]?.any Char.isUpper && t[i + 2]?.any isSmall)

/-- The text with a blank before each offset at which `p` holds. -/
def blanksBefore (p : Nat → Bool) (t : Text) : Text :=
  t.zipIdx.flatMap fun x => if p x.2 then [' ', x.1] else [x.1]

/-! ### Blanks inserted by a rule -/

/-- The text with a blank behind each character at which `gap` holds of it and of what follows. -/
def insertBlanks (gap : Char → Text → Bool) : Text → Text
  | [] => []
  | a :: t => if gap a t then a :: ' ' :: insertBlanks gap t else a :: insertBlanks gap t

section Rules

variable {gap : Char → Text → Bool}

theorem insertBlanks_cons_of_pos {a : Char} {t : Text} (h : gap a t = true) :
    insertBlanks gap (a :: t) = a :: ' ' :: insertBlanks gap t := by
  rw [insertBlanks, if_pos h]

theorem insertBlanks_cons_of_neg {a : Char} {t : Text} (h : gap a t = false) :
    insertBlanks gap (a :: t) = a :: insertBlanks gap t := by
  rw [insertBlanks, if_neg (by simp [h])]

/-- Characters at which the rule never holds are passed over. -/
theorem insertBlanks_append {s : Text} (rest : Text) (h : ∀ a ∈ s, ∀ t, gap a t = false) :
    insertBlanks gap (s ++ rest) = s ++ insertBlanks gap rest := by
  induction s with
  | nil => rfl
  | cons a s ih =>
      obtain ⟨ha, hs⟩ := List.forall_mem_cons.1 h
      rw [List.cons_append, insertBlanks_cons_of_neg (ha _), ih hs, List.cons_append]

theorem getElem?_zero_insertBlanks (t : Text) : (insertBlanks gap t)[0]? = t[0]? := by
  cases t with
  | nil => rfl
  | cons a t => rw [insertBlanks]; split <;> rfl

/-- **A rule after another** is a rule itself, one that holds where the first does and, elsewhere,
where the second does in what the first has made of the text. -/
theorem insertBlanks_insertBlanks {first second both : Char → Text → Bool}
    (hblank : ∀ t, second ' ' t = false) (hbefore : ∀ a t, second a (' ' :: t) = false)
    (hfirst : ∀ a t, first a t = true → both a t = true)
    (hsecond : ∀ a t, first a t = false → second a (insertBlanks first t) = both a t) (t : Text) :
    insertBlanks second (insertBlanks first t) = insertBlanks both t := by
  induction t with
  | nil => rfl
  | cons a t ih =>
      cases hgap : first a t with
      | true =>
          rw [insertBlanks_cons_of_pos hgap, insertBlanks_cons_of_neg (hbefore a _),
            insertBlanks_cons_of_neg (hblank _), ih, insertBlanks_cons_of_pos (hfirst a t hgap)]
      | false =>
          rw [insertBlanks_cons_of_neg hgap, insertBlanks, insertBlanks, ih, hsecond a t hgap]

/-- **A substitution is a rule** if the rule finds the gap in each match, and holds at the start of
a match only. -/
theorem spaced_iff {Match : Text → Text → Text → Prop}
    (hne : ∀ {front word rest}, Match front word rest → front ≠ [])
    (hmatch : ∀ {front word rest}, Match front word rest →
      insertBlanks gap (front ++ word ++ rest) = front ++ ' ' :: word ++ insertBlanks gap rest)
    (hgap : ∀ {a t}, gap a t = true →
      ∃ front word rest, Match front word rest ∧ a :: t = front ++ word ++ rest)
    {t out : Text} : Spaced Match t out ↔ out = insertBlanks gap t := by
  constructor
  · intro h
    induction h with
    | nil => rfl
    | matched h _ ih => rw [hmatch h, ih]
    | passed hno _ ih =>
        have hfalse : gap _ _ = false := Bool.eq_false_iff.2 fun htrue => by
          obtain ⟨front, word, rest, h, heq⟩ := hgap htrue
          exact hno front word rest h heq
        rw [insertBlanks_cons_of_neg hfalse, ih]
  · rintro rfl
    -- What follows a match may be much shorter than what follows its first character.
    induction hn : t.length using Nat.strong_induction_on generalizing t with
    | _ n ih =>
      by_cases hstart : ∃ front word rest, Match front word rest ∧ t = front ++ word ++ rest
      · obtain ⟨front, word, rest, h, rfl⟩ := hstart
        have hpos := List.length_pos_iff.2 (hne h)
        simp only [List.length_append] at hn
        rw [hmatch h]
        exact .matched h (ih rest.length (by omega) rfl)
      · cases t with
        | nil => exact .nil
        | cons a t =>
            have hfalse : gap a t = false := Bool.eq_false_iff.2 fun htrue => hstart (hgap htrue)
            rw [insertBlanks_cons_of_neg hfalse]
            refine .passed (fun front word rest h heq => hstart ⟨front, word, rest, h, heq⟩) ?_
            rw [List.length_cons] at hn
            exact ih t.length (by omega) rfl

end Rules

/-! ### The rules of the two passes -/

/-- Does a capital follow the small letter or digit `a`? -/
def isHumpGap (a : Char) (t : Text) : Bool := isSmall a && t[0]?.any Char.isUpper

/-- Does a capital follow the capital `a`, and something small the two? -/
def isAcronymGap (a : Char) (t : Text) : Bool :=
  a.isUpper && t[0]?.any Char.isUpper && t[1]?.any isSmall

/-- Is there a gap of either kind between `a` and the text behind it? -/
def isGap (a : Char) (t : Text) : Bool := isHumpGap a t || isAcronymGap a t

theorem splitHumps_eq_insertBlanks (t : Text) : splitHumps t = insertBlanks isHumpGap t := by
  fun_induction splitHumps t with
  | case1 a b t h ih =>
      have hb : isSmall b = false := not_isSmall_of_isUpper (Bool.and_eq_true_iff.1 h).2
      rw [insertBlanks_cons_of_pos (by simpa [isHumpGap] using h),
        insertBlanks_cons_of_neg (by simp [isHumpGap, hb]), ih]
  | case2 a b t h ih => rw [insertBlanks_cons_of_neg (by simpa [isHumpGap] using h), ih]
  | case3 t h =>
      cases t with
      | nil => rfl
      | cons a t =>
          cases t with
          | nil => rw [insertBlanks_cons_of_neg (by simp [isHumpGap])]; rfl
          | cons b t => exact absurd rfl (h a b t)

theorem splitRun_cons_cons (x y : Char) {r : Text} (hr : r ≠ []) :
    splitRun (x :: y :: r) = x :: splitRun (y :: r) := by
  have hlength := List.length_pos_iff.2 hr
  have hdrop : (x :: y :: r).drop (r.length + 1) = (y :: r).drop r.length := List.drop_succ_cons
  simp only [splitRun, List.length_cons, Nat.add_sub_cancel]
  rw [if_neg (by omega), if_neg (by omega), hdrop, List.dropLast_cons_cons, List.cons_append]

/-- Of a run of capitals the last is split off if something small follows it. -/
theorem insertBlanks_upper_append {t : Text} (ht : t[0]?.any Char.isUpper = false) :
    ∀ {run : Text}, (∀ a ∈ run, a.isUpper = true) → insertBlanks isAcronymGap (run ++ t) =
      (if t[0]?.any isSmall then splitRun run else run) ++ insertBlanks isAcronymGap t
  | [], _ => by simp [splitRun]
  | [x], _ => by
      rw [List.singleton_append, insertBlanks_cons_of_neg (by simp [isAcronymGap, ht])]
      simp [splitRun]
  | x :: y :: r, h => by
      obtain ⟨hx, hyr⟩ := List.forall_mem_cons.1 h
      obtain ⟨hy, hr⟩ := List.forall_mem_cons.1 hyr
      have ih := insertBlanks_upper_append ht hyr
      rw [List.cons_append, insertBlanks, ih]
      by_cases hnil : r = []
      · subst hnil
        by_cases hsmall : t[0]?.any isSmall = true
        · simp [isAcronymGap, splitRun, hx, hy, hsmall]
        · simp [isAcronymGap, hsmall]
      · have hgap : isAcronymGap x (y :: r ++ t) = false := by
          obtain ⟨z, r, rfl⟩ := List.exists_cons_of_ne_nil hnil
          have hz : isSmall z = false := not_isSmall_of_isUpper (hr z List.mem_cons_self)
          simp [isAcronymGap, hz]
        rw [if_neg (Bool.eq_false_iff.1 hgap), splitRun_cons_cons x y hnil]
        split <;> rfl

theorem splitAcronymsFrom_eq_insertBlanks {run : Text} (h : ∀ a ∈ run, a.isUpper = true)
    (t : Text) : splitAcronymsFrom run t = insertBlanks isAcronymGap (run ++ t) := by
  induction t generalizing run with
  | nil =>
      have hrun := insertBlanks_upper_append (t := []) rfl h
      simpa [splitAcronymsFrom, insertBlanks] using hrun.symm
  | cons c t ih =>
      rw [splitAcronymsFrom]
      by_cases hc : c.isUpper = true
      · have hrun : ∀ a ∈ run ++ [c], a.isUpper = true :=
          List.forall_mem_append.2 ⟨h, by simpa using hc⟩
        rw [if_pos hc, ih hrun, List.append_assoc, List.singleton_append]
      · have hgap : isAcronymGap c t = false := by simp [isAcronymGap, hc]
        have ih : splitAcronymsFrom [] t = insertBlanks isAcronymGap t := ih (by simp)
        rw [if_neg hc, ih, insertBlanks_upper_append (by simpa using hc) h,
          insertBlanks_cons_of_neg hgap]
        rfl

theorem splitAcronyms_eq_insertBlanks (t : Text) :
    splitAcronyms t = insertBlanks isAcronymGap t :=
  splitAcronymsFrom_eq_insertBlanks (by simp) t

/-! ### The passes are substitutions -/

theorem IsAcronym.insertBlanks_eq {front word rest : Text} (h : IsAcronym front word rest) :
    insertBlanks isAcronymGap (front ++ word ++ rest) =
      front ++ ' ' :: word ++ insertBlanks isAcronymGap rest := by
  obtain ⟨c, w, rfl, hc, hw, hsmall⟩ := h.word_eq
  have hrun : ∀ a ∈ front ++ [c], a.isUpper = true :=
    List.forall_mem_append.2 ⟨h.front_upper, by simpa using hc⟩
  have hpassed : insertBlanks isAcronymGap (w ++ rest) = w ++ insertBlanks isAcronymGap rest :=
    insertBlanks_append rest fun a ha t => by
      simp [isAcronymGap, not_isUpper_of_isSmall (hsmall a ha)]
  obtain ⟨b, w, rfl⟩ := List.exists_cons_of_ne_nil hw
  have hb : isSmall b = true := hsmall b List.mem_cons_self
  have hsplitRun : splitRun (front ++ [c]) = front ++ [' ', c] := by
    have hpos := List.length_pos_iff.2 h.front_ne_nil
    have hlength : (front ++ [c]).length = front.length + 1 := List.length_append
    rw [splitRun, if_neg (by omega), List.dropLast_concat, hlength, Nat.add_sub_cancel,
      List.drop_left]
  calc insertBlanks isAcronymGap (front ++ c :: b :: w ++ rest)
      = insertBlanks isAcronymGap ((front ++ [c]) ++ (b :: w ++ rest)) := by simp
    _ = splitRun (front ++ [c]) ++ insertBlanks isAcronymGap (b :: w ++ rest) := by
        rw [insertBlanks_upper_append (by simpa using not_isUpper_of_isSmall hb) hrun,
          if_pos (by simpa using hb)]
    _ = front ++ ' ' :: c :: b :: w ++ insertBlanks isAcronymGap rest := by
        rw [hsplitRun, hpassed]
        simp

theorem exists_isAcronym_of_gap {a : Char} {t : Text} (h : isAcronymGap a t = true) :
    ∃ front word rest, IsAcronym front word rest ∧ a :: t = front ++ word ++ rest := by
  match t, h with
  | [], h | [_], h => simp [isAcronymGap] at h
  | b :: c :: t, h =>
      obtain ⟨⟨ha, hb⟩, hc⟩ : (a.isUpper = true ∧ b.isUpper = true) ∧ isSmall c = true := by
        simpa [isAcronymGap] using h
      refine ⟨[a], b :: c :: t.takeWhile isSmall, t.dropWhile isSmall, ?_, ?_⟩
      · exact {
          front_ne_nil := List.cons_ne_nil a []
          front_upper := by simpa using ha
          word_eq := ⟨b, c :: t.takeWhile isSmall, rfl, hb, List.cons_ne_nil _ _,
            List.forall_mem_cons.2 ⟨hc, fun _ hd => List.mem_takeWhile_imp hd⟩⟩
          longest := fun d hd => by
            have hnot := List.head?_dropWhile_not isSmall t
            rw [hd] at hnot
            simpa using hnot }
      · simp [List.takeWhile_append_dropWhile]

/-- **The first pass** is the substitution of acronyms. -/
theorem spaced_isAcronym_iff {t out : Text} : Spaced IsAcronym t out ↔ out = splitAcronyms t := by
  rw [splitAcronyms_eq_insertBlanks]
  exact spaced_iff IsAcronym.front_ne_nil IsAcronym.insertBlanks_eq exists_isAcronym_of_gap

/-- **The second pass** is the substitution of humps. -/
theorem spaced_isHump_iff {t out : Text} : Spaced IsHump t out ↔ out = splitHumps t := by
  rw [splitHumps_eq_insertBlanks]
  refine spaced_iff ?_ ?_ ?_
  · rintro front word rest ⟨⟨a, rfl, -⟩, -⟩
    exact List.cons_ne_nil a []
  · rintro front word rest ⟨⟨a, rfl, ha⟩, b, rfl, hb⟩
    have hpassed : insertBlanks isHumpGap (b :: rest) = b :: insertBlanks isHumpGap rest :=
      insertBlanks_cons_of_neg (by simp [isHumpGap, not_isSmall_of_isUpper hb])
    calc insertBlanks isHumpGap (a :: b :: rest)
        = a :: ' ' :: insertBlanks isHumpGap (b :: rest) :=
          insertBlanks_cons_of_pos (by simp [isHumpGap, ha, hb])
      _ = a :: ' ' :: b :: insertBlanks isHumpGap rest := by rw [hpassed]
  · intro a t h
    obtain ⟨ha, hb⟩ := Bool.and_eq_true_iff.1 h
    cases t with
    | nil => simp at hb
    | cons b t => exact ⟨[a], [b], t, ⟨⟨a, rfl, ha⟩, b, rfl, by simpa using hb⟩, rfl⟩

/-! ### Both passes together -/

theorem isGap_blank (t : Text) : isGap ' ' t = false := rfl

theorem isGap_before_blank (a : Char) (t : Text) : isGap a (' ' :: t) = false := by
  simp [isGap, isHumpGap, isAcronymGap]

theorem split_eq_insertBlanks (t : Text) : split t = insertBlanks isGap t := by
  rw [split, splitHumps_eq_insertBlanks, splitAcronyms_eq_insertBlanks]
  refine insertBlanks_insertBlanks (fun t => rfl) (fun a t => ?_) (fun a t h => ?_)
    (fun a t h => ?_) t
  · simp [isHumpGap]
  · rw [isGap, h, Bool.or_true]
  · rw [isGap, h, Bool.or_false, isHumpGap, isHumpGap, getElem?_zero_insertBlanks]

/-- What is inserted makes no new gap: behind the next character there is now what was there, or a
blank. -/
theorem isGap_insertBlanks {a : Char} {t : Text} (h : isGap a t = false) :
    isGap a (insertBlanks isGap t) = false := by
  obtain ⟨hhump, hacronym⟩ := Bool.or_eq_false_iff.1 h
  have hhump' : isHumpGap a (insertBlanks isGap t) = false := by
    rw [isHumpGap, getElem?_zero_insertBlanks]
    exact hhump
  have hacronym' : isAcronymGap a (insertBlanks isGap t) = false := by
    cases t with
    | nil => exact hacronym
    | cons b t =>
        rw [insertBlanks]
        split
        · simp [isAcronymGap, show isSmall ' ' = false from rfl]
        · rw [isAcronymGap, List.getElem?_cons_succ, getElem?_zero_insertBlanks]
          exact hacronym
  rw [isGap, hhump', hacronym', Bool.or_false]

/-- **Nothing is left to do** a second time. -/
theorem split_split (t : Text) : split (split t) = split t := by
  rw [split_eq_insertBlanks, split_eq_insertBlanks]
  exact insertBlanks_insertBlanks isGap_blank isGap_before_blank (fun _ _ h => h)
    (fun _ _ h => (isGap_insertBlanks h).trans h.symm) t

theorem blanksBefore_cons (p : Nat → Bool) (a : Char) (t : Text) : blanksBefore p (a :: t) =
    (if p 0 then [' ', a] else [a]) ++ blanksBefore (fun i => p (i + 1)) t := by
  rw [blanksBefore, blanksBefore, List.zipIdx_cons', List.flatMap_cons, List.flatMap_map]
  rfl

/-- The rule of both passes is the one that says where words start. -/
theorem insertBlanks_isGap (t : Text) :
    insertBlanks isGap t = blanksBefore (startsWord t) t := by
  induction t with
  | nil => rfl
  | cons a t ih =>
      cases t with
      | nil =>
          have hlast : isGap a [] = false := by simp [isGap, isHumpGap, isAcronymGap]
          rw [insertBlanks_cons_of_neg hlast]
          rfl
      | cons b t =>
          have hfirst : startsWord (a :: b :: t) 1 = isGap a (b :: t) := rfl
          have hlater : (fun i => startsWord (a :: b :: t) (i + 1 + 1)) =
              fun i => startsWord (b :: t) (i + 1) := rfl
          rw [blanksBefore_cons] at ih
          rw [insertBlanks, ih, blanksBefore_cons, blanksBefore_cons, hfirst, hlater]
          split <;> rfl

/-- **Camel case is taken apart where words start.**  The two passes are the substitutions of
acronyms and of humps; together they put one blank before each offset at which a word starts and
change nothing else, and there is nothing to do in the result. -/
theorem split_spaces_wordStarts (t : Text) :
    (∀ out, Spaced IsAcronym t out ↔ out = splitAcronyms t) ∧
    (∀ out, Spaced IsHump (splitAcronyms t) out ↔ out = split t) ∧
    split t = blanksBefore (startsWord t) t ∧ split (split t) = split t :=
  ⟨fun _ => spaced_isAcronym_iff, fun _ => spaced_isHump_iff,
    (split_eq_insertBlanks t).trans (insertBlanks_isGap t), split_split t⟩

example : blanksBefore (startsWord "getHTTPReply2Go".toList) "getHTTPReply2Go".toList =
    "get HTTP Reply2 Go".toList := by decide

end Permalink.Camel
