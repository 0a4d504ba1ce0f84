import Permalink.Proofs.Outcome
import Permalink.Template.Region

/-!
# Template — the parts of a text

A text with balanced braces is written by *parts*: texts without braces, and regions, of which a
part keeps what stands between the braces.  `written` puts parts one behind the other, and
`regionsFrom` says where their regions stand.

* `scan_written`: of written parts the scanner lists the regions of the parts.
* `exists_parts_of_scan`: a text that can be scanned is written by parts.
* `slices_regionsFrom`: at the offsets listed stand the texts of the regions.

Together these say that scanning accepts just the alternations of text without braces and regions.
What is proved of a template further on is proved of its parts.
-/

namespace Permalink

/-! ### Texts without braces -/

/-- No character of `t` is a brace. -/
def Text.BraceFree (t : Text) : Prop := ∀ c ∈ t, c ≠ '{' ∧ c ≠ '}'

namespace Text.BraceFree

-- Only the characters of the text are tried, and not all characters there are.
instance (t : Text) : Decidable t.BraceFree :=
  List.decidableBAll (fun c => c ≠ '{' ∧ c ≠ '}') t

theorem nil : BraceFree [] := fun _ h => absurd h List.not_mem_nil

theorem cons_iff {c : Char} {t : Text} :
    BraceFree (c :: t) ↔ (c ≠ '{' ∧ c ≠ '}') ∧ BraceFree t :=
  List.forall_mem_cons

theorem append_iff {t u : Text} : BraceFree (t ++ u) ↔ BraceFree t ∧ BraceFree u :=
  List.forall_mem_append

theorem singleton {c : Char} (h : c ≠ '{' ∧ c ≠ '}') : BraceFree [c] :=
  cons_iff.2 ⟨h, nil⟩

end Text.BraceFree

namespace Template

/-! ### Parts -/

/-- A part of a template: text, or a region by what its braces hold. -/
inductive Part where
  | plain (t : Text)
  | region (body : Text)
  deriving DecidableEq

namespace Part

/-- The text of a part. -/
def text : Part → Text
  | plain t => t
  | region body => '{' :: (body ++ ['}'])

/-- A part has no braces but those of a region. -/
def BraceFree : Part → Prop
  | plain t => Text.BraceFree t
  | region body => Text.BraceFree body

/-- The text of a region; other text has none. -/
def regionText? : Part → Option Text
  | plain _ => none
  | region body => some (region body).text

theorem length_text_region (body : Text) : (region body).text.length = body.length + 2 := by
  simp [text]

end Part

/-- The text of some parts, one behind the other. -/
def written (parts : List Part) : Text := parts.flatMap Part.text

/-- The texts of the regions among some parts, in order. -/
def regionTexts (parts : List Part) : List Text := parts.filterMap Part.regionText?

/-- Where the regions stand if the parts are written from offset `i` on. -/
def regionsFrom (i : Nat) : List Part → List Region
  | [] => []
  | .plain t :: parts => regionsFrom (i + t.length) parts
  | .region body :: parts =>
    ⟨i, i + (body.length + 2)⟩ :: regionsFrom (i + (body.length + 2)) parts

theorem written_cons (p : Part) (parts : List Part) :
    written (p :: parts) = p.text ++ written parts :=
  List.flatMap_cons ..

theorem written_append (parts parts' : List Part) :
    written (parts ++ parts') = written parts ++ written parts' :=
  List.flatMap_append ..

theorem regionTexts_plain (t : Text) (parts : List Part) :
    regionTexts (.plain t :: parts) = regionTexts parts := rfl

theorem regionTexts_region (body : Text) (parts : List Part) :
    regionTexts (.region body :: parts) = (Part.region body).text :: regionTexts parts := rfl

theorem mem_regionTexts {raw : Text} {parts : List Part} :
    raw ∈ regionTexts parts ↔ ∃ body, .region body ∈ parts ∧ raw = (Part.region body).text := by
  rw [regionTexts, List.mem_filterMap]
  constructor
  · rintro ⟨p, hp, hraw⟩
    cases p with
    | plain t => cases hraw
    | region body => exact ⟨body, hp, (Option.some.inj hraw).symm⟩
  · rintro ⟨body, hp, rfl⟩
    exact ⟨_, hp, rfl⟩

/-- What parts write is without braces just if there are no regions among them. -/
theorem written_braceFree_iff : ∀ {parts : List Part}, (∀ p ∈ parts, p.BraceFree) →
    ((written parts).BraceFree ↔ regionTexts parts = [])
  | [], _ => iff_of_true .nil rfl
  | .plain t :: parts, h => by
      obtain ⟨ht, hparts⟩ := List.forall_mem_cons.1 h
      rw [written_cons, Text.BraceFree.append_iff, written_braceFree_iff hparts, regionTexts_plain]
      exact and_iff_right ht
  | .region body :: parts, _ => by
      refine iff_of_false (fun hb => ?_) (List.cons_ne_nil _ _)
      exact (hb '{' List.mem_cons_self).1 rfl

/-! ### Scanning what is written -/

/-- The scanner passes over text without braces, inside a region and outside. -/
theorem scanFrom_plain (openAt : Option Nat) :
    ∀ {t : Text} (i : Nat) (rest : Text), t.BraceFree →
      Region.scanFrom i openAt (t ++ rest) = Region.scanFrom (i + t.length) openAt rest
  | [], _, _, _ => rfl
  | c :: t, i, rest, h => by
      obtain ⟨⟨hopen, hclose⟩, ht⟩ := Text.BraceFree.cons_iff.1 h
      have hnext : i + (c :: t).length = i + 1 + t.length := by rw [List.length_cons]; omega
      rw [List.cons_append, Region.scanFrom, scanFrom_plain openAt (i + 1) rest ht, hnext]
      · exact hopen
      · exact hclose

/-- Text without braces at the end changes nothing for the scanner. -/
theorem scanFrom_append_plain {tail : Text} (h : tail.BraceFree) (i : Nat) (openAt : Option Nat)
    (front : Text) :
    Region.scanFrom i openAt (front ++ tail) = Region.scanFrom i openAt front := by
  fun_induction Region.scanFrom i openAt front with
  | case1 i =>
      rw [List.nil_append, ← List.append_nil tail, scanFrom_plain none i [] h]
      rfl
  | case2 i k =>
      rw [List.nil_append, ← List.append_nil tail, scanFrom_plain (some k) i [] h]
      rfl
  | case3 i t ih => exact ih
  | case4 => rfl
  | case5 => rfl
  | case6 i t k ih => exact congrArg (Except.map _) ih
  | case7 i openAt c t hopen hclose ih =>
      rw [List.cons_append, Region.scanFrom, ih]
      · exact hopen
      · exact hclose

/-- The scanner lists a region and goes on behind it. -/
theorem scanFrom_region {body : Text} (i : Nat) (rest : Text) (h : body.BraceFree) :
    Region.scanFrom i none ((Part.region body).text ++ rest) =
      (Region.scanFrom (i + (body.length + 2)) none rest).map
        (⟨i, i + (body.length + 2)⟩ :: ·) := by
  have hstop : i + 1 + body.length + 1 = i + (body.length + 2) := by omega
  simp only [Part.text, List.cons_append, List.append_assoc, List.nil_append]
  rw [Region.scanFrom, scanFrom_plain (some i) (i + 1) _ h, Region.scanFrom, hstop]

/-- Behind written parts the scanner goes on, with their regions listed. -/
theorem scanFrom_written_append : ∀ {parts : List Part} (i : Nat) (rest : Text),
    (∀ p ∈ parts, p.BraceFree) → Region.scanFrom i none (written parts ++ rest) =
      (Region.scanFrom (i + (written parts).length) none rest).map (regionsFrom i parts ++ ·)
  | [], i, rest, _ => by
      change Region.scanFrom i none rest = (Region.scanFrom i none rest).map _
      cases Region.scanFrom i none rest <;> rfl
  | .plain t :: parts, i, rest, h => by
      obtain ⟨ht, hparts⟩ := List.forall_mem_cons.1 h
      rw [written_cons, Part.text, List.append_assoc, scanFrom_plain none i _ ht,
        scanFrom_written_append _ rest hparts, List.length_append, Nat.add_assoc]
      rfl
  | .region body :: parts, i, rest, h => by
      obtain ⟨hbody, hparts⟩ := List.forall_mem_cons.1 h
      rw [written_cons, List.append_assoc, scanFrom_region i _ hbody,
        scanFrom_written_append _ rest hparts, List.length_append, Part.length_text_region,
        Nat.add_assoc]
      cases Region.scanFrom _ none rest <;> rfl

/-- **Scanning what is written.**  The scanner lists the regions of the parts. -/
theorem scanFrom_written {parts : List Part} (i : Nat) (h : ∀ p ∈ parts, p.BraceFree) :
    Region.scanFrom i none (written parts) = .ok (regionsFrom i parts) := by
  have happend := scanFrom_written_append i [] h
  rw [List.append_nil] at happend
  rw [happend, Region.scanFrom, Except.map, List.append_nil]

theorem scan_written {parts : List Part} (h : ∀ p ∈ parts, p.BraceFree) :
    Region.scan (written parts) = .ok (regionsFrom 0 parts) :=
  Outcome.mapError_eq_ok.2 (scanFrom_written 0 h)

/-! ### Parts of what was scanned -/

/-- What a text is that the scanner accepts: written parts and, if it starts inside a region, the
rest of that region before them. -/
def Accepted (openAt : Option Nat) (t : Text) : Prop :=
  ∃ parts : List Part, (∀ p ∈ parts, p.BraceFree) ∧
    match openAt with
    | none => written parts = t
    | some _ => ∃ body : Text, body.BraceFree ∧ body ++ '}' :: written parts = t

/-- One more character without a brace, in the open region or in front of the parts. -/
theorem Accepted.cons {openAt : Option Nat} {c : Char} {t : Text} (hc : c ≠ '{' ∧ c ≠ '}')
    (h : Accepted openAt t) : Accepted openAt (c :: t) := by
  obtain ⟨parts, hparts, ht⟩ := h
  cases openAt with
  | none =>
      refine ⟨.plain [c] :: parts, List.forall_mem_cons.2 ⟨.singleton hc, hparts⟩, ?_⟩
      rw [written_cons, ht]
      rfl
  | some k =>
      obtain ⟨body, hbody, ht⟩ := ht
      exact ⟨parts, hparts, c :: body, Text.BraceFree.cons_iff.2 ⟨hc, hbody⟩, by rw [← ht]; rfl⟩

theorem accepted_of_scanFrom {i : Nat} {openAt : Option Nat} {t : Text} {regions : List Region}
    (h : Region.scanFrom i openAt t = .ok regions) : Accepted openAt t := by
  -- The cases are those of the scanner: the end, a brace that opens or closes, a character.
  fun_induction Region.scanFrom i openAt t generalizing regions with
  | case1 => exact ⟨[], by simp, rfl⟩
  | case2 => cases h
  | case3 i t ih =>
      obtain ⟨parts, hparts, body, hbody, ht⟩ := ih h
      refine ⟨.region body :: parts, List.forall_mem_cons.2 ⟨hbody, hparts⟩, ?_⟩
      rw [written_cons, ← ht]
      simp [Part.text]
  | case4 => cases h
  | case5 => cases h
  | case6 i t k ih =>
      obtain ⟨tail, htail, -⟩ := Outcome.map_eq_ok.1 h
      obtain ⟨parts, hparts, ht⟩ := ih htail
      exact ⟨parts, hparts, [], .nil, by rw [ht]; rfl⟩
  | case7 i openAt c t hopen hclose ih => exact (ih h).cons ⟨hopen, hclose⟩

/-- **A text that can be scanned is written by parts.** -/
theorem exists_parts_of_scan {t : Text} {regions : List Region} (h : Region.scan t = .ok regions) :
    ∃ parts : List Part, (∀ p ∈ parts, p.BraceFree) ∧ written parts = t ∧
      regions = regionsFrom 0 parts := by
  have hscan : Region.scanFrom 0 none t = .ok regions := Outcome.mapError_eq_ok.1 h
  obtain ⟨parts, hparts, rfl⟩ := accepted_of_scanFrom hscan
  refine ⟨parts, hparts, rfl, ?_⟩
  rw [scanFrom_written 0 hparts] at hscan
  exact (Except.ok.inj hscan).symm

/-! ### What stands at the offsets -/

/-- The slice of a text at the offsets of its middle part. -/
theorem slice_append_append (before x after : Text) :
    Text.slice (before ++ (x ++ after)) before.length (before.length + x.length : Nat) = x := by
  rw [Text.slice_natCast (by simp) (by simp), List.take_append, List.drop_append]
  simp

/-- A slice of the front of a text. -/
theorem slice_append_of_le {front : Text} (tail : Text) {i j : Nat} (hi : i ≤ j)
    (hj : j ≤ front.length) : Text.slice (front ++ tail) i j = Text.slice front i j := by
  have hj' : j ≤ (front ++ tail).length := by rw [List.length_append]; omega
  rw [Text.slice_natCast (Nat.le_trans hi hj') hj', Text.slice_natCast (Nat.le_trans hi hj) hj,
    List.take_append_of_le_length hj]

/-- Regions stand inside of the text that is written. -/
theorem stop_le_of_mem_regionsFrom : ∀ {parts : List Part} {i : Nat} {r : Region},
    r ∈ regionsFrom i parts → r.start ≤ r.stop ∧ r.stop ≤ i + (written parts).length
  | .plain t :: parts, i, r, h => by
      obtain ⟨hstart, hstop⟩ := @stop_le_of_mem_regionsFrom parts _ _ h
      rw [written_cons, Part.text, List.length_append]
      exact ⟨hstart, by omega⟩
  | .region body :: parts, i, r, h => by
      rw [written_cons, List.length_append, Part.length_text_region]
      rcases List.mem_cons.1 h with rfl | h
      · exact ⟨by simp, by simp⟩
      · obtain ⟨hstart, hstop⟩ := stop_le_of_mem_regionsFrom h
        exact ⟨hstart, by omega⟩

/-- **At the offsets of the regions stand their texts**, whatever stands before. -/
theorem slices_regionsFrom : ∀ (parts : List Part) (before : Text),
    (regionsFrom before.length parts).map
      (fun r => Text.slice (before ++ written parts) r.start r.stop) = regionTexts parts
  | [], _ => rfl
  | .plain t :: parts, before => by
      have ih := slices_regionsFrom parts (before ++ t)
      rw [List.length_append, List.append_assoc] at ih
      rw [written_cons, regionTexts_plain, ← ih]
      rfl
  | .region body :: parts, before => by
      have ih := slices_regionsFrom parts (before ++ (Part.region body).text)
      rw [List.length_append, Part.length_text_region, List.append_assoc] at ih
      rw [written_cons, regionTexts_region, regionsFrom, List.map_cons, ih,
        ← Part.length_text_region, slice_append_append]

end Template
end Permalink
