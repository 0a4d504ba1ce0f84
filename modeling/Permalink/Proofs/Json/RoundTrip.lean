import Permalink.Proofs.Json.Reader
import Permalink.Proofs.Number.Numeral
import Permalink.Proofs.Outcome
import Permalink.Proofs.Text.Runs
import Permalink.Proofs.Value.LastGiven

/-!
# Json — reading what was written

Data that has a text is read back from it (`read?_render`), if it has no fractions and if its
objects name no entry twice: of such an object the reader would keep one entry of the name.

A reader of parts is told by `Reads` what to expect of the text of one part: where it starts, and
that it is read with whatever follows, as long as that does not go on with a number.  The parts of a
block are then read one after the other (`readBlock_block`), be they items or entries, and data is
read by recursion along it (`readData_write`).
-/

namespace Permalink
namespace Json

/-- Data without fractions that names no entry of an object twice. -/
inductive Faithful : Json → Prop where
  | null : Faithful null
  | bool {b : Bool} : Faithful (bool b)
  | int {n : Int} : Faithful (int n)
  | text {t : Text} : Faithful (text t)
  | array {xs : List Json} : (∀ x ∈ xs, Faithful x) → Faithful (array xs)
  | object {entries : List (Text × Json)} : (entries.map Prod.fst).Nodup →
      (∀ e ∈ entries, Faithful e.2) → Faithful (object entries)

/-! ### Text -/

theorem hexValue?_digitChar : ∀ {d : Nat}, d < 16 → hexValue? (Nat.digitChar d) = some d := by
  decide

/-- The four hexadecimal digits of a code point write it. -/
theorem unit?_hex {n : Nat} (hn : n < 0x10000) :
    unit? (Nat.digitChar (n / 16 / 16 / 16 % 16)) (Nat.digitChar (n / 16 / 16 % 16))
      (Nat.digitChar (n / 16 % 16)) (Nat.digitChar (n % 16)) = some n := by
  have hvalue : ((n / 16 / 16 / 16 % 16 * 16 + n / 16 / 16 % 16) * 16 + n / 16 % 16) * 16 +
      n % 16 = n := by omega
  simp only [unit?, hexValue?_digitChar (Nat.mod_lt _ (Nat.succ_pos 15)), Option.bind_eq_bind,
    Option.bind_some, hvalue]
  rfl

theorem readText_hex {n : Nat} (hn : n < 0xD800) (t : Text) :
    readText none ('\\' :: 'u' :: Text.hex n 4 ++ t) =
      (readText none t).map (before (Char.ofNat n)) := by
  have hlead : isLead n = false := by
    simp only [isLead, Bool.and_eq_false_iff, decide_eq_false_iff_not]
    omega
  have htrail : isTrail n = false := by
    simp only [isTrail, Bool.and_eq_false_iff, decide_eq_false_iff_not]
    omega
  simp only [Text.hex, List.nil_append, List.cons_append]
  rw [readText, unit?_hex (by omega)]
  simp only [hlead, htrail, Bool.false_eq_true, if_false]

theorem readText_escape {c d : Char} (hc : c ≠ 'u') (hd : escaped? c = some d) (t : Text) :
    readText none ('\\' :: c :: t) = (readText none t).map (before d) := by
  rw [readText, hd]
  exact fun _ _ _ _ _ h => absurd h hc

theorem readText_plain {c : Char} (hquote : c ≠ '"') (hescape : c ≠ '\\') (hc : ¬ c.toNat < 0x20)
    (t : Text) : readText none (c :: t) = (readText none t).map (before c) := by
  rw [readText, if_neg hc]
  · exact hquote
  · exact fun _ _ _ _ _ h => absurd h hescape
  · exact fun _ _ h => absurd h hescape

/-- A character is read from what it is written as. -/
theorem readText_escapeChar (c : Char) (t : Text) :
    readText none (escapeChar c ++ t) = (readText none t).map (before c) := by
  have hcode : ∀ {n}, c.toNat = n → c = Char.ofNat n := fun h => by rw [← h, Char.ofNat_toNat]
  unfold escapeChar
  split_ifs with hmark hbreak hreturn htab hback hfeed hcontrol
  · have hself : escaped? c = some c := by
      rcases Bool.or_eq_true_iff.1 hmark with h | h <;> rw [beq_iff_eq.1 h] <;> rfl
    refine readText_escape ?_ hself t
    rintro rfl
    exact absurd hmark (by decide)
  · rw [beq_iff_eq.1 hbreak]
    exact readText_escape (by decide) rfl t
  · rw [beq_iff_eq.1 hreturn]
    exact readText_escape (by decide) rfl t
  · rw [beq_iff_eq.1 htab]
    exact readText_escape (by decide) rfl t
  · rw [hcode (beq_iff_eq.1 hback)]
    exact readText_escape (by decide) rfl t
  · rw [hcode (beq_iff_eq.1 hfeed)]
    exact readText_escape (by decide) rfl t
  · rw [readText_hex (by omega), Char.ofNat_toNat]
  · simp only [Bool.or_eq_true, beq_iff_eq, not_or] at hmark
    exact readText_plain hmark.1 hmark.2 hcontrol t

theorem readText_escaped (t rest : Text) :
    readText none (t.flatMap escapeChar ++ '"' :: rest) = some (t, rest) := by
  induction t with
  | nil => rw [List.flatMap_nil, List.nil_append, readText]
  | cons c t ih =>
      rw [List.flatMap_cons, List.append_assoc, readText_escapeChar, ih]
      rfl

theorem readText_written (t rest : Text) :
    ∃ body, writeText t ++ rest = '"' :: body ∧ readText none body = some (t, rest) := by
  refine ⟨t.flatMap escapeChar ++ '"' :: rest, ?_, readText_escaped t rest⟩
  rw [writeText, List.append_assoc]
  rfl

/-! ### Numbers -/

theorem isWhole_ofNat (n : Nat) : isWhole (Text.ofNat n) = true := by
  rw [isWhole, Bool.and_eq_true, Bool.or_eq_true, bne_iff_ne]
  refine ⟨by simp [Text.ofNat_ne_nil n], ?_⟩
  by_cases hn : n = 0
  · subst hn
    exact .inr rfl
  · exact .inl (Text.head?_ofNat_ne hn)

/-- An integer is read from its numeral. -/
theorem number?_ofInt (n : Int) : number? (Text.ofInt n) = some (int n) := by
  have hunsigned : ∃ m, (if (Text.ofInt n).head? = some '-' then (Text.ofInt n).drop 1
      else Text.ofInt n) = Text.ofNat m := by
    cases n with
    | ofNat m =>
        refine ⟨m, if_neg fun hminus => ?_⟩
        exact absurd (Text.isDigit_of_mem_ofNat (List.mem_of_head? hminus)) (by decide)
    | negSucc m => exact ⟨m + 1, if_pos rfl⟩
  obtain ⟨m, hm⟩ := hunsigned
  have hwhole : (Text.ofNat m).takeWhile Char.isDigit = Text.ofNat m :=
    List.takeWhile_eq_self_iff.2 fun _ => Text.isDigit_of_mem_ofNat
  have hscale : (Text.ofNat m).dropWhile Char.isDigit = [] :=
    List.dropWhile_eq_nil_iff.2 fun _ => Text.isDigit_of_mem_ofNat
  simp only [number?, hm, hwhole, hscale, isWhole_ofNat, Decimal.integer?_ofInt]
  rfl

/-! ### Blanks -/

theorem skip_newLine (level : Nat) (t : Text) : skip (newLine level ++ t) = skip t := by
  refine List.dropWhile_append_of_pos fun c hc => ?_
  rcases List.mem_cons.1 hc with rfl | hc
  · rfl
  · rw [List.eq_of_mem_replicate hc]
    rfl

theorem skip_cons {c : Char} (hc : isSpace c = false) (t : Text) : skip (c :: t) = c :: t :=
  List.dropWhile_cons_of_neg (by rw [hc]; exact Bool.false_ne_true)

/-! ### Lines -/

/-- Texts, each on a line, with commas between. -/
def lines (level : Nat) (ws : List Text) : Text :=
  List.intercalate [','] (ws.map (newLine level ++ ·))

theorem lines_singleton (level : Nat) (w : Text) : lines level [w] = newLine level ++ w := by
  rw [lines, List.map_singleton, List.intercalate_singleton]

theorem lines_cons (level : Nat) (w : Text) {ws : List Text} (hws : ws ≠ []) :
    lines level (w :: ws) = newLine level ++ (w ++ ',' :: lines level ws) := by
  rw [lines, List.map_cons, Text.intercalate_cons _ (by simpa using hws), List.append_assoc]
  rfl

/-- The first text stands in front. -/
theorem exists_lines_cons (level : Nat) (w : Text) (ws : List Text) :
    ∃ more, lines level (w :: ws) = newLine level ++ (w ++ more) := by
  by_cases hws : ws = []
  · subst hws
    exact ⟨[], by rw [lines_singleton, List.append_nil]⟩
  · exact ⟨_, lines_cons level w hws⟩

theorem length_le_lines (level : Nat) (ws : List Text) : ws.length ≤ (lines level ws).length := by
  induction ws with
  | nil => exact Nat.zero_le _
  | cons w ws ih =>
      by_cases hws : ws = []
      · subst hws
        simp [lines_singleton, newLine]
      · simp only [lines_cons level w hws, newLine, List.length_append, List.length_cons]
        omega

theorem block_append (opening closing : Char) (level : Nat) {ws : List Text} (hws : ws ≠ [])
    (rest : Text) : block opening closing level ws ++ rest =
      opening :: (lines (level + 1) ws ++ (newLine level ++ closing :: rest)) := by
  rw [block, if_neg (by simpa using hws)]
  simp [lines]

/-- Each text is shorter than the block. -/
theorem length_lt_block {opening closing : Char} {level : Nat} {w : Text} {ws : List Text}
    (h : w ∈ ws) : w.length < (block opening closing level ws).length := by
  have hblock := block_append opening closing level (List.ne_nil_of_mem h) []
  have hline : (newLine (level + 1) ++ w).length ≤ (lines (level + 1) ws).length :=
    Text.length_le_of_mem (List.mem_map_of_mem h)
  rw [List.append_nil] at hblock
  rw [hblock, List.length_cons, List.length_append]
  rw [List.length_append] at hline
  omega

/-! ### Blocks -/

/-- The text does not go on with a number. -/
def Ended (t : Text) : Prop := ∀ c ∈ t.head?, isNumeric c = false

theorem ended_cons {c : Char} (hc : isNumeric c = false) (t : Text) : Ended (c :: t) := by
  intro d hd
  rwa [← Option.some.inj hd]

theorem ended_newLine (level : Nat) (t : Text) : Ended (newLine level ++ t) := ended_cons rfl _

theorem Ended.takeWhile_eq {t : Text} (h : Ended t) : t.takeWhile isNumeric = [] := by
  cases t with
  | nil => rfl
  | cons c t => exact List.takeWhile_cons_of_neg (by simp [h c rfl])

theorem Ended.dropWhile_eq {t : Text} (h : Ended t) : t.dropWhile isNumeric = t := by
  cases t with
  | nil => rfl
  | cons c t => exact List.dropWhile_cons_of_neg (by simp [h c rfl])

/-- A reader of the parts of a block reads `x` from the text `w`. -/
structure Reads {α : Type} (member : Text → Option (α × Text)) (closing : Char) (w : Text) (x : α) :
    Prop where
  /-- The text starts with neither a blank nor the end of the block. -/
  starts : ∃ c u, w = c :: u ∧ isSpace c = false ∧ c ≠ closing
  reads : ∀ {t rest : Text}, skip t = w ++ rest → Ended rest → member t = some (x, rest)

section Blocks

variable {α : Type} {member : Text → Option (α × Text)} {closing : Char}

theorem Reads.skip_newLine {w : Text} {x : α} (h : Reads member closing w x) (level : Nat)
    (rest : Text) : skip (newLine level ++ (w ++ rest)) = w ++ rest := by
  obtain ⟨c, u, rfl, hc, -⟩ := h.starts
  rw [Json.skip_newLine, List.cons_append, skip_cons hc]

/-- A part is read on a line of its own. -/
theorem Reads.on_newLine {w : Text} {x : α} (h : Reads member closing w x) (level : Nat)
    {rest : Text} (hrest : Ended rest) :
    member (newLine level ++ (w ++ rest)) = some (x, rest) :=
  h.reads (h.skip_newLine level rest) hrest

/-- Behind a comma there are more parts. -/
theorem readMembers_next {w : Text} {x : α} (h : Reads member closing w x) (fuel level : Nat)
    (t : Text) :
    readMembers member closing (fuel + 1) (newLine level ++ (w ++ ',' :: t)) =
      (readMembers member closing fuel t).map fun r => (x :: r.1, r.2) := by
  rw [readMembers, h.on_newLine level (ended_cons rfl t)]
  simp only [skip_cons (c := ',') rfl, if_true]

variable (hcomma : closing ≠ ',') (hspace : isSpace closing = false)
include hcomma hspace

/-- The last part stands in front of the closing bracket. -/
theorem readMembers_last {w : Text} {x : α} (h : Reads member closing w x)
    (fuel level level' : Nat) (rest : Text) :
    readMembers member closing (fuel + 1)
      (newLine level ++ (w ++ (newLine level' ++ closing :: rest))) = some ([x], rest) := by
  rw [readMembers, h.on_newLine level (ended_newLine level' _)]
  simp only [skip_newLine, skip_cons hspace, hcomma, if_false, if_true]

/-- The parts are read one after the other. -/
theorem readMembers_lines {ws : List Text} {xs : List α}
    (h : List.Forall₂ (Reads member closing) ws xs) (hws : ws ≠ []) {fuel : Nat}
    (hfuel : ws.length ≤ fuel) (level level' : Nat) (rest : Text) :
    readMembers member closing fuel (lines level ws ++ (newLine level' ++ closing :: rest)) =
      some (xs, rest) := by
  induction h generalizing fuel with
  | nil => exact absurd rfl hws
  | @cons w x ws xs hw hrest ih =>
      obtain ⟨fuel, rfl⟩ := Nat.exists_eq_succ_of_ne_zero (Nat.ne_zero_of_lt hfuel)
      by_cases hnil : ws = []
      · subst hnil
        cases hrest
        rw [lines_singleton, List.append_assoc]
        exact readMembers_last hcomma hspace hw fuel level level' rest
      · rw [lines_cons level w hnil, List.append_assoc, List.append_assoc, List.cons_append,
          readMembers_next hw, ih hnil (Nat.le_of_succ_le_succ hfuel)]
        rfl

/-- **A block is read** as the list of its parts. -/
theorem readBlock_block {ws : List Text} {xs : List α}
    (h : List.Forall₂ (Reads member closing) ws xs) (opening : Char) (level : Nat) (rest : Text) :
    ∃ body, block opening closing level ws ++ rest = opening :: body ∧
      readBlock member closing body = some (xs, rest) := by
  cases h with
  | nil =>
      refine ⟨closing :: rest, rfl, ?_⟩
      rw [readBlock, skip_cons hspace]
      exact if_pos rfl
  | @cons w x ws xs hw hws =>
      refine ⟨_, block_append opening closing level (List.cons_ne_nil w ws) rest, ?_⟩
      obtain ⟨c, u, hfirst, -, hne⟩ := hw.starts
      obtain ⟨more, hmore⟩ := exists_lines_cons (level + 1) w ws
      have hskip : skip (lines (level + 1) (w :: ws) ++ (newLine level ++ closing :: rest)) =
          c :: (u ++ (more ++ (newLine level ++ closing :: rest))) := by
        rw [hmore, List.append_assoc, List.append_assoc, hw.skip_newLine, hfirst]
        rfl
      rw [readBlock, hskip]
      simp only [hne, if_false]
      refine readMembers_lines hcomma hspace (.cons hw hws) (List.cons_ne_nil _ _) ?_ _ _ _
      rw [List.length_append]
      exact (length_le_lines _ _).trans (Nat.le_add_right _ _)

end Blocks

/-! ### Data -/

/-- The text of data starts with neither a blank nor a closing bracket. -/
theorem starts_write {j : Json} (h : Faithful j) {level : Nat} {w : Text}
    (hw : write level j = .ok w) : ∃ c u, w = c :: u ∧ isSpace c = false ∧ c ≠ ']' := by
  have block_starts : ∀ (opening closing : Char) (ws : List Text),
      ∃ u, block opening closing level ws = opening :: u := by
    intro opening closing ws
    rw [block]
    split
    · exact ⟨_, rfl⟩
    · exact ⟨_, rfl⟩
  cases h with
  | null =>
      cases hw
      exact ⟨_, _, rfl, rfl, by decide⟩
  | @bool b =>
      cases hw
      cases b <;> exact ⟨_, _, rfl, rfl, by decide⟩
  | @int n =>
      obtain ⟨-, rfl⟩ := Decimal.write_eq_ok_iff.1 hw
      obtain ⟨c, u, hcu, hc⟩ := Text.exists_ofInt_cons n
      have hne : ∀ d : Char, ¬ (d = '-' ∨ d.isDigit = true) → c ≠ d := by
        rintro d hd rfl
        exact hd hc
      refine ⟨c, u, hcu, ?_, hne ']' (by decide)⟩
      simp [isSpace, hne ' ' (by decide), hne '\n' (by decide), hne '\r' (by decide),
        hne '\t' (by decide)]
  | text =>
      cases hw
      exact ⟨_, _, rfl, rfl, by decide⟩
  | array =>
      obtain ⟨ws, -, rfl⟩ := Outcome.map_eq_ok.1 hw
      obtain ⟨u, hu⟩ := block_starts '[' ']' ws
      exact ⟨_, u, hu, rfl, by decide⟩
  | object =>
      obtain ⟨ws, -, rfl⟩ := Outcome.map_eq_ok.1 hw
      obtain ⟨u, hu⟩ := block_starts '{' '}' ws
      exact ⟨_, u, hu, rfl, by decide⟩

/-- A number is read up to where it ends. -/
theorem readData_number (fuel : Nat) {t rest : Text} {n : Int} (ht : skip t = Text.ofInt n ++ rest)
    (hrest : Ended rest) : readData (fuel + 1) t = some (int n, rest) := by
  have hnumeric : ∀ c ∈ Text.ofInt n, isNumeric c = true := by
    intro c hc
    rcases Text.isDigit_of_mem_ofInt hc with rfl | hc
    · rfl
    · simp [isNumeric, hc]
  have htake : (Text.ofInt n ++ rest).takeWhile isNumeric = Text.ofInt n := by
    rw [List.takeWhile_append_of_pos hnumeric, hrest.takeWhile_eq, List.append_nil]
  have hdrop : (Text.ofInt n ++ rest).dropWhile isNumeric = rest := by
    rw [List.dropWhile_append_of_pos hnumeric, hrest.dropWhile_eq]
  have hfirst : ∀ {c : Char} {u : Text}, Text.ofInt n ++ rest = c :: u →
      c = '-' ∨ c.isDigit = true := by
    intro c u h
    obtain ⟨d, v, hdv, hd⟩ := Text.exists_ofInt_cons n
    rw [hdv] at h
    rwa [← (List.cons.inj h).1]
  rw [readData, ht]
  split
  case h_1 h | h_2 h | h_3 h | h_4 h | h_5 h | h_6 h => exact absurd (hfirst h) (by decide)
  case h_7 =>
    rw [htake, hdrop, number?_ofInt]
    rfl

/-- An entry is read by a reader of its value. -/
theorem Reads.entry {value : Text → Option (Json × Text)} {closing : Char} {w : Text} {v : Json}
    (h : Reads value closing w v) (name : Text) :
    Reads (readEntry value) '}' (entryText name w) (name, v) := by
  refine ⟨⟨_, _, rfl, rfl, by decide⟩, fun {t rest} ht hrest => ?_⟩
  obtain ⟨body, hbody, hread⟩ := readText_written name (':' :: ' ' :: w ++ rest)
  have hname : readQuoted t = some (name, ':' :: ' ' :: w ++ rest) := by
    rw [readQuoted, ht, entryText, List.append_assoc, hbody]
    exact hread
  have hvalue : skip (' ' :: (w ++ rest)) = w ++ rest := by
    obtain ⟨c, u, rfl, hc, -⟩ := h.starts
    exact skip_cons hc _
  rw [readEntry, hname]
  simp only [List.cons_append, skip_cons (c := ':') rfl, h.reads hvalue hrest]
  rfl

-- By recursion along the data; a part is shorter than the block that it stands in, so one level of
-- fuel less is enough for it.
mutual

/-- Data is read back, with as much fuel as its text is long. -/
theorem readData_write : ∀ {j : Json}, Faithful j → ∀ {level fuel : Nat} {w : Text},
    write level j = .ok w → w.length ≤ fuel → ∀ {t rest : Text}, skip t = w ++ rest →
      Ended rest → readData fuel t = some (j, rest)
  | _, h, _, 0, _, hw, hfuel, _, _, _, _ => by
      obtain ⟨c, u, rfl, -⟩ := starts_write h hw
      exact absurd hfuel (Nat.not_succ_le_zero _)
  | .null, _, _, fuel + 1, _, hw, _, t, rest, ht, _ => by
      cases hw
      rw [readData, ht]
      rfl
  | .bool true, _, _, fuel + 1, _, hw, _, t, rest, ht, _ => by
      cases hw
      rw [readData, ht]
      rfl
  | .bool false, _, _, fuel + 1, _, hw, _, t, rest, ht, _ => by
      cases hw
      rw [readData, ht]
      rfl
  | .int n, _, _, fuel + 1, _, hw, _, t, rest, ht, hrest => by
      obtain ⟨-, rfl⟩ := Decimal.write_eq_ok_iff.1 hw
      exact readData_number fuel ht hrest
  | .real x, h, _, _, _, _, _, _, _, _, _ => nomatch h
  | .text s, _, _, fuel + 1, _, hw, _, t, rest, ht, _ => by
      cases hw
      obtain ⟨body, hbody, hread⟩ := readText_written s rest
      rw [readData, ht, hbody]
      simp only [hread, Option.map_some]
  | .array xs, .array h, level, fuel + 1, _, hw, hfuel, t, rest, ht, _ => by
      obtain ⟨ws, hws, rfl⟩ := Outcome.map_eq_ok.1 hw
      have hitems : List.Forall₂ (Reads (readData fuel) ']') ws xs :=
        reads_items h hws fun w hw => Nat.le_of_lt_succ ((length_lt_block hw).trans_le hfuel)
      obtain ⟨body, hbody, hread⟩ := readBlock_block (by decide) (by decide) hitems '[' level rest
      rw [readData, ht, hbody]
      simp only [hread, Option.map_some]
  | .object es, .object hnames h, level, fuel + 1, _, hw, hfuel, t, rest, ht, _ => by
      obtain ⟨ws, hws, rfl⟩ := Outcome.map_eq_ok.1 hw
      have hentries : List.Forall₂ (Reads (readEntry (readData fuel)) '}') ws es :=
        reads_entries h hws fun w hw => Nat.le_of_lt_succ ((length_lt_block hw).trans_le hfuel)
      obtain ⟨body, hbody, hread⟩ := readBlock_block (by decide) (by decide) hentries '{' level rest
      rw [readData, ht, hbody]
      simp only [hread, Option.map_some, Value.lastGiven_of_nodup hnames]

theorem reads_items : ∀ {xs : List Json}, (∀ x ∈ xs, Faithful x) → ∀ {level fuel : Nat}
    {ws : List Text}, writeItems level xs = .ok ws → (∀ w ∈ ws, w.length ≤ fuel) →
      List.Forall₂ (Reads (readData fuel) ']') ws xs
  | [], _, _, _, _, hws, _ => by
      cases hws
      exact .nil
  | x :: xs, h, level, fuel, _, hall, hfuel => by
      obtain ⟨hx, hxs⟩ := List.forall_mem_cons.1 h
      obtain ⟨w, hw, hmore⟩ := Outcome.bind_eq_ok.1 hall
      obtain ⟨ws, hws, hdone⟩ := Outcome.bind_eq_ok.1 hmore
      cases hdone
      obtain ⟨hwfuel, hwsfuel⟩ := List.forall_mem_cons.1 hfuel
      exact .cons ⟨starts_write hx hw, readData_write hx hw hwfuel⟩ (reads_items hxs hws hwsfuel)

theorem reads_entries : ∀ {es : List (Text × Json)}, (∀ e ∈ es, Faithful e.2) →
    ∀ {level fuel : Nat} {ws : List Text}, writeEntries level es = .ok ws →
      (∀ w ∈ ws, w.length ≤ fuel) → List.Forall₂ (Reads (readEntry (readData fuel)) '}') ws es
  | [], _, _, _, _, hws, _ => by
      cases hws
      exact .nil
  | (name, v) :: es, h, level, fuel, _, hall, hfuel => by
      obtain ⟨hv, hes⟩ := List.forall_mem_cons.1 h
      obtain ⟨w, hw, hmore⟩ := Outcome.bind_eq_ok.1 hall
      obtain ⟨ws, hws, hdone⟩ := Outcome.bind_eq_ok.1 hmore
      cases hdone
      obtain ⟨hwfuel, hwsfuel⟩ := List.forall_mem_cons.1 hfuel
      have hlength : w.length ≤ fuel := by
        simp only [entryText, List.length_append, List.length_cons] at hwfuel
        omega
      have hvalue : Reads (readData fuel) ']' w v :=
        ⟨starts_write hv hw, readData_write hv hw hlength⟩
      exact .cons (hvalue.entry name) (reads_entries hes hws hwsfuel)

end

/-- **Data is read back** from its text, if it has one. -/
theorem read?_render {j : Json} (h : Faithful j) {w : Text} (hw : j.render = .ok w) :
    read? w = some j := by
  obtain ⟨c, u, rfl, hc, -⟩ := starts_write h hw
  have hskip : skip (c :: u) = (c :: u) ++ [] := by
    rw [skip_cons hc, List.append_nil]
  have hread := readData_write h hw (Nat.le_refl _) hskip nofun
  rw [read?, hread]
  rfl

end Json
end Permalink
