import Mathlib.Data.List.Forall2

/-!
# Outcomes

When an operation that may fail succeeds.  A sequence of two succeeds when the first does and the
second does on its result, and fails when one of them fails; a list of them succeeds when each does.

And with which errors it fails: `ErrorsIn P x` says that an error of `x` is one of the class `P`.
What is put together of operations with errors in a class has its errors in that class.  An
operation of which all errors are the same may say as well when it fails, `FailsIff e Q x`.
-/

namespace Permalink.Outcome

variable {ε ε' α β : Type}

theorem bind_eq_ok {x : Except ε α} {f : α → Except ε β} {b : β} :
    x >>= f = .ok b ↔ ∃ a, x = .ok a ∧ f a = .ok b := by
  cases x with
  | error e => exact ⟨nofun, nofun⟩
  | ok a =>
      refine ⟨fun h => ⟨a, rfl, h⟩, ?_⟩
      rintro ⟨_, ⟨⟩, h⟩
      exact h

theorem bind_eq_error {x : Except ε α} {f : α → Except ε β} {e : ε} :
    x >>= f = .error e ↔ x = .error e ∨ ∃ a, x = .ok a ∧ f a = .error e := by
  cases x with
  | error e' =>
      constructor
      · rintro ⟨⟩
        exact .inl rfl
      · rintro (⟨⟨⟩⟩ | ⟨_, ⟨⟩, _⟩)
        rfl
  | ok a =>
      refine ⟨fun h => .inr ⟨a, rfl, h⟩, ?_⟩
      rintro (⟨⟨⟩⟩ | ⟨_, ⟨⟩, h⟩)
      exact h

theorem map_eq_ok {x : Except ε α} {f : α → β} {b : β} :
    x.map f = .ok b ↔ ∃ a, x = .ok a ∧ f a = b := by
  cases x with
  | error e => exact ⟨nofun, nofun⟩
  | ok a =>
      refine ⟨fun h => ⟨a, rfl, Except.ok.inj h⟩, ?_⟩
      rintro ⟨_, ⟨⟩, rfl⟩
      rfl

theorem map_eq_error {x : Except ε α} {f : α → β} {e : ε} :
    x.map f = .error e ↔ x = .error e := by
  cases x with
  | error e' =>
      exact ⟨fun h => congrArg Except.error (Except.error.inj h), fun h => by cases h; rfl⟩
  | ok a => exact ⟨nofun, nofun⟩

/-- What succeeds fails just if something false holds. -/
theorem exists_ok_eq_error_iff {a : α} {Q : Prop} (hQ : ¬ Q) :
    (∃ e, (.ok a : Except ε α) = .error e) ↔ Q :=
  iff_of_false (fun ⟨_, h⟩ => nomatch h) hQ

theorem exists_map_eq_error_iff {x : Except ε α} {f : α → β} :
    (∃ e, x.map f = .error e) ↔ ∃ e, x = .error e := by
  simp only [map_eq_error]

/-- A sequence of two fails when one of them does, if the second does so whatever comes of the
first. -/
theorem exists_bind_eq_error_iff {x : Except ε α} {f : α → Except ε β} {Q : Prop}
    (hf : ∀ a, (∃ e, f a = .error e) ↔ Q) :
    (∃ e, x >>= f = .error e) ↔ (∃ e, x = .error e) ∨ Q := by
  cases x with
  | error e => exact ⟨fun _ => .inl ⟨e, rfl⟩, fun _ => ⟨e, rfl⟩⟩
  | ok a =>
      refine (hf a).trans ⟨.inr, ?_⟩
      rintro (⟨e, ⟨⟩⟩ | h)
      exact h

theorem mapError_eq_ok {x : Except ε α} {f : ε → ε'} {a : α} :
    x.mapError f = .ok a ↔ x = .ok a := by
  cases x with
  | error e => exact ⟨nofun, nofun⟩
  | ok b => exact ⟨fun h => congrArg Except.ok (Except.ok.inj h), fun h => by cases h; rfl⟩

/-- A list of operations succeeds when each does, with the list of their results. -/
theorem mapM_eq_ok {f : α → Except ε β} {as : List α} {bs : List β} :
    as.mapM f = .ok bs ↔ List.Forall₂ (fun a b => f a = .ok b) as bs := by
  induction as generalizing bs with
  | nil => exact ⟨fun h => by cases h; exact .nil, fun h => by cases h; rfl⟩
  | cons a as ih =>
      rw [List.mapM_cons, bind_eq_ok]
      constructor
      · rintro ⟨b, hb, h⟩
        obtain ⟨bs', hbs, h⟩ := bind_eq_ok.1 h
        cases h
        exact .cons hb (ih.1 hbs)
      · intro h
        cases h with
        | @cons _ b _ bs' hb hbs => exact ⟨b, hb, bind_eq_ok.2 ⟨bs', ih.2 hbs, rfl⟩⟩

/-- A list of operations fails as the first of them does that fails. -/
theorem mapM_eq_error {f : α → Except ε β} {as : List α} {e : ε} :
    as.mapM f = .error e ↔ ∃ before a after, as = before ++ a :: after ∧
      (∀ b ∈ before, ∃ c, f b = .ok c) ∧ f a = .error e := by
  induction as with
  | nil =>
      refine ⟨nofun, ?_⟩
      rintro ⟨before, a, after, h, -⟩
      exact absurd h (by simp)
  | cons x as ih =>
      rw [List.mapM_cons, bind_eq_error]
      constructor
      · rintro (hx | ⟨y, hy, h⟩)
        · exact ⟨[], x, as, rfl, by simp, hx⟩
        · rcases bind_eq_error.1 h with h | ⟨ys, -, h⟩
          · obtain ⟨before, a, after, rfl, hbefore, ha⟩ := ih.1 h
            exact ⟨x :: before, a, after, rfl, List.forall_mem_cons.2 ⟨⟨y, hy⟩, hbefore⟩, ha⟩
          · cases h
      · rintro ⟨before, a, after, h, hbefore, ha⟩
        cases before with
        | nil =>
            obtain ⟨rfl, rfl⟩ := List.cons.inj h
            exact .inl ha
        | cons b before =>
            obtain ⟨rfl, rfl⟩ := List.cons.inj h
            obtain ⟨⟨y, hy⟩, hbefore⟩ := List.forall_mem_cons.1 hbefore
            refine .inr ⟨y, hy, bind_eq_error.2 (.inl (ih.2 ?_))⟩
            exact ⟨before, a, after, rfl, hbefore, ha⟩

/-- Operations that succeed alike make lists that succeed alike. -/
theorem mapM_eq_ok_congr {f g : α → Except ε β} {as : List α} {bs : List β}
    (h : ∀ a ∈ as, ∀ b, f a = .ok b ↔ g a = .ok b) : as.mapM f = .ok bs ↔ as.mapM g = .ok bs := by
  induction as generalizing bs with
  | nil => exact Iff.rfl
  | cons a as ih =>
      obtain ⟨ha, has⟩ := List.forall_mem_cons.1 h
      simp only [List.mapM_cons, bind_eq_ok, ha, ih has]

/-- It succeeds just when each does. -/
theorem exists_mapM_iff {f : α → Except ε β} {as : List α} :
    (∃ bs, as.mapM f = .ok bs) ↔ ∀ a ∈ as, ∃ b, f a = .ok b := by
  induction as with
  | nil => exact ⟨fun _ a ha => absurd ha List.not_mem_nil, fun _ => ⟨[], rfl⟩⟩
  | cons a as ih =>
      rw [List.forall_mem_cons, ← ih]
      constructor
      · rintro ⟨bs, h⟩
        rw [List.mapM_cons] at h
        obtain ⟨b, hb, h⟩ := bind_eq_ok.1 h
        obtain ⟨bs', hbs, -⟩ := bind_eq_ok.1 h
        exact ⟨⟨b, hb⟩, bs', hbs⟩
      · rintro ⟨⟨b, hb⟩, bs, hbs⟩
        exact ⟨b :: bs, mapM_eq_ok.2 (.cons hb (mapM_eq_ok.1 hbs))⟩

/-- Each result of a list of operations is the result of one of them. -/
theorem exists_of_mem_mapM {f : α → Except ε β} {as : List α} {bs : List β} {b : β}
    (h : as.mapM f = .ok bs) (hb : b ∈ bs) : ∃ a ∈ as, f a = .ok b := by
  have hall := mapM_eq_ok.1 h
  clear h
  induction hall with
  | nil => cases hb
  | @cons a c as bs hac _ ih =>
      rcases List.mem_cons.1 hb with rfl | hb
      · exact ⟨a, List.mem_cons_self, hac⟩
      · obtain ⟨d, hd, hdb⟩ := ih hb
        exact ⟨d, List.mem_cons_of_mem _ hd, hdb⟩

/-! ### Classes of errors -/

/-- An error of `x`, if it has one, is of the class `P`. -/
def ErrorsIn (P : ε → Prop) (x : Except ε α) : Prop := ∀ e, x = .error e → P e

namespace ErrorsIn

variable {P : ε → Prop}

theorem ok (a : α) : ErrorsIn P (.ok a) := nofun

theorem error {e : ε} (h : P e) : ErrorsIn P (.error e : Except ε α) := fun _ he =>
  Except.error.inj he ▸ h

theorem bind {x : Except ε α} {f : α → Except ε β} (hx : ErrorsIn P x)
    (hf : ∀ a, ErrorsIn P (f a)) : ErrorsIn P (x >>= f) := by
  cases x with
  | error e => exact .error (hx e rfl)
  | ok a => exact hf a

theorem map {x : Except ε α} (hx : ErrorsIn P x) (f : α → β) : ErrorsIn P (x.map f) := by
  cases x with
  | error e => exact .error (hx e rfl)
  | ok a => exact .ok (f a)

theorem mapM {f : α → Except ε β} (hf : ∀ a, ErrorsIn P (f a)) :
    ∀ as : List α, ErrorsIn P (as.mapM f)
  | [] => .ok []
  | a :: as => by
      rw [List.mapM_cons]
      exact (hf a).bind fun _ => (mapM hf as).bind fun _ => .ok _

theorem mono {Q : ε → Prop} {x : Except ε α} (hx : ErrorsIn P x) (h : ∀ e, P e → Q e) :
    ErrorsIn Q x := fun e he => h e (hx e he)

theorem foldlM {f : β → α → Except ε β} (hf : ∀ b a, ErrorsIn P (f b a)) :
    ∀ (as : List α) (b : β), ErrorsIn P (as.foldlM f b)
  | [], b => .ok b
  | a :: as, b => by
      rw [List.foldlM_cons]
      exact (hf b a).bind fun b' => foldlM hf as b'

end ErrorsIn

/-! ### One error -/

/-- `x` fails just if `Q` holds, and with the error `e`. -/
def FailsIff (e : ε) (Q : Prop) (x : Except ε α) : Prop := ∀ e', x = .error e' ↔ e' = e ∧ Q

namespace FailsIff

variable {e : ε} {Q R : Prop}

theorem ok {a : α} (hQ : ¬ Q) : FailsIff e Q (.ok a) := fun _ =>
  iff_of_false nofun fun h => hQ h.2

theorem congr {x : Except ε α} (hx : FailsIff e Q x) (h : Q ↔ R) : FailsIff e R x := fun e' =>
  (hx e').trans (and_congr_right fun _ => h)

theorem map {x : Except ε α} (hx : FailsIff e Q x) (f : α → β) : FailsIff e Q (x.map f) :=
  fun e' => map_eq_error.trans (hx e')

/-- A sequence of two fails when one of them does, if the second does so whatever comes of the
first. -/
theorem bind {x : Except ε α} {f : α → Except ε β} (hx : FailsIff e Q x)
    (hf : ∀ a, FailsIff e R (f a)) : FailsIff e (Q ∨ R) (x >>= f) := by
  intro e'
  cases x with
  | error c =>
      obtain ⟨rfl, hQ⟩ := (hx c).1 rfl
      refine ⟨fun h => ⟨(Except.error.inj h).symm, .inl hQ⟩, ?_⟩
      rintro ⟨rfl, -⟩
      rfl
  | ok a =>
      have hQ : ¬ Q := fun hQ => nomatch (hx e).2 ⟨rfl, hQ⟩
      exact ((hf a).congr (or_iff_right hQ).symm) e'

theorem exists_error_iff {x : Except ε α} (hx : FailsIff e Q x) :
    (∃ e', x = .error e') ↔ Q :=
  ⟨fun ⟨e', h⟩ => ((hx e').1 h).2, fun hQ => ⟨e, (hx e).2 ⟨rfl, hQ⟩⟩⟩

theorem exists_ok_iff {x : Except ε α} (hx : FailsIff e Q x) : (∃ a, x = .ok a) ↔ ¬ Q := by
  rw [← hx.exists_error_iff]
  cases x with
  | ok a => exact iff_of_true ⟨a, rfl⟩ nofun
  | error e' => exact iff_of_false nofun fun h => h ⟨e', rfl⟩

theorem errorsIn {x : Except ε α} (hx : FailsIff e Q x) : ErrorsIn (· = e) x := fun e' h =>
  ((hx e').1 h).1

end FailsIff

end Permalink.Outcome
