/-
  `Outcome` — what work done step by step comes to.

  Steps that may fail are put one after another by `>>=`. The whole comes to a value exactly when
  every step does (`bind_eq_ok_iff`), and fails as the first step that fails (`bind_eq_error_iff`).
  For runs these are statements about their outcomes alone (`Run.outcome_bind`), whatever they send
  and report on the way.

  One step may be taken for each item of a list. This comes to one value for each item, in order
  (`mapM_eq_ok_iff`), or fails as the first item that fails (`mapM_eq_error_iff`).
-/
import Mathlib.Data.List.Forall2
import SchemaSurvey.Database.Run

namespace SchemaSurvey

/-- **Steps in a row succeed** if each of them does. -/
theorem bind_eq_ok_iff {ε α β : Type} {x : Except ε α} {next : α → Except ε β} {b : β} :
    (x >>= next) = .ok b ↔ ∃ a, x = .ok a ∧ next a = .ok b := by
  cases x with
  | error e => exact ⟨nofun, fun ⟨_, h, _⟩ => by cases h⟩
  | ok a =>
    constructor
    · intro h
      exact ⟨a, rfl, h⟩
    · rintro ⟨a', ha, h⟩
      obtain rfl := Except.ok.inj ha
      exact h

/-- **Steps in a row fail** as the first of them that fails. -/
theorem bind_eq_error_iff {ε α β : Type} {x : Except ε α} {next : α → Except ε β} {e : ε} :
    (x >>= next) = .error e ↔ x = .error e ∨ ∃ a, x = .ok a ∧ next a = .error e := by
  cases x with
  | error e' =>
    show Except.error e' = .error e ↔ _
    rw [Except.error.injEq, Except.error.injEq]
    exact ⟨.inl, fun h => h.elim id fun ⟨_, h, _⟩ => nomatch h⟩
  | ok a =>
    constructor
    · exact fun h => .inr ⟨a, rfl, h⟩
    · rintro (h | ⟨a', ha, h⟩)
      · cases h
      · obtain rfl := Except.ok.inj ha
        exact h

theorem mapError_eq_ok_iff {ε ε' α : Type} {x : Except ε α} {f : ε → ε'} {a : α} :
    x.mapError f = .ok a ↔ x = .ok a := by
  cases x with
  | error e => exact ⟨nofun, nofun⟩
  | ok a' =>
    show Except.ok a' = .ok a ↔ _
    rw [Except.ok.injEq, Except.ok.injEq]

theorem mapError_eq_error_iff {ε ε' α : Type} {x : Except ε α} {f : ε → ε'} {e' : ε'} :
    x.mapError f = .error e' ↔ ∃ e, x = .error e ∧ f e = e' := by
  cases x with
  | error e =>
    show Except.error (f e) = .error e' ↔ _
    simp only [Except.error.injEq, exists_eq_left']
  | ok a => exact ⟨nofun, nofun⟩

theorem map_eq_error_iff {ε α β : Type} {x : Except ε α} {f : α → β} {e : ε} :
    x.map f = .error e ↔ x = .error e := by
  cases x with
  | error e' =>
    show Except.error e' = .error e ↔ _
    rw [Except.error.injEq, Except.error.injEq]
  | ok a => exact ⟨nofun, nofun⟩

/-! ### Item by item -/

section

variable {ε α β : Type} {f : α → Except ε β} {l : List α}

theorem mapM_eq_ok_iff {l' : List β} :
    l.mapM f = .ok l' ↔ List.Forall₂ (fun a b => f a = .ok b) l l' := by
  induction l generalizing l' with
  | nil =>
    rw [List.mapM_nil, List.forall₂_nil_left_iff]
    exact ⟨fun h => (Except.ok.inj h).symm, fun h => congrArg Except.ok h.symm⟩
  | cons a l ih =>
    rw [List.mapM_cons, List.forall₂_cons_left_iff, bind_eq_ok_iff]
    constructor
    · rintro ⟨b, hb, hrest⟩
      obtain ⟨bs, hbs, h⟩ := bind_eq_ok_iff.mp hrest
      exact ⟨b, bs, hb, ih.mp hbs, (Except.ok.inj h).symm⟩
    · rintro ⟨b, bs, hb, hbs, rfl⟩
      exact ⟨b, hb, bind_eq_ok_iff.mpr ⟨bs, ih.mpr hbs, rfl⟩⟩

/-- **The first item that fails** decides. -/
theorem mapM_eq_error_iff {e : ε} : l.mapM f = .error e ↔
    ∃ before a after, l = before ++ a :: after ∧ (∀ b ∈ before, ∃ x, f b = .ok x) ∧
      f a = .error e := by
  induction l with
  | nil =>
    rw [List.mapM_nil]
    refine ⟨nofun, fun ⟨before, a, after, h, _⟩ => ?_⟩
    cases before <;> cases h
  | cons a l ih =>
    rw [List.mapM_cons, bind_eq_error_iff]
    constructor
    · rintro (ha | ⟨b, hb, hrest⟩)
      · exact ⟨[], a, l, rfl, nofun, ha⟩
      · rcases bind_eq_error_iff.mp hrest with hrest | ⟨_, -, h⟩
        · obtain ⟨before, c, after, rfl, hbefore, hc⟩ := ih.mp hrest
          exact ⟨a :: before, c, after, rfl,
            List.forall_mem_cons.mpr ⟨⟨b, hb⟩, hbefore⟩, hc⟩
        · cases h
    · rintro ⟨before, c, after, hsplit, hbefore, hc⟩
      cases before with
      | nil =>
        obtain ⟨rfl, rfl⟩ := List.cons.inj hsplit
        exact .inl hc
      | cons b before =>
        obtain ⟨rfl, rfl⟩ := List.cons.inj hsplit
        obtain ⟨⟨x, hx⟩, hbefore⟩ := List.forall_mem_cons.mp hbefore
        have hrest := ih.mpr ⟨before, c, after, rfl, hbefore, hc⟩
        exact .inr ⟨x, hx, bind_eq_error_iff.mpr (.inl hrest)⟩

end

namespace Database.Run

variable {ε α β : Type}

@[simp] theorem outcome_bind (r : Run ε α) (next : α → Run ε β) :
    (r >>= next).outcome = r.outcome >>= fun a => (next a).outcome := by
  show (r.bind next).outcome = _
  unfold bind
  cases r.outcome <;> rfl

/-- A run that fails sends nothing more. -/
theorem statements_bind_of_error {r : Run ε α} {e : ε} (h : r.outcome = .error e)
    (next : α → Run ε β) : (r >>= next).statements = r.statements := by
  show (r.bind next).statements = _
  unfold bind
  rw [h]

theorem statements_bind_of_ok {r : Run ε α} {a : α} (h : r.outcome = .ok a)
    (next : α → Run ε β) : (r >>= next).statements = r.statements ++ (next a).statements := by
  show (r.bind next).statements = _
  unfold bind
  rw [h]

/-- What comes after may send nothing. -/
theorem statements_bind_of_silent {r : Run ε α} {next : α → Run ε β}
    (h : ∀ a, (next a).statements = []) : (r >>= next).statements = r.statements := by
  cases houtcome : r.outcome with
  | error e => exact statements_bind_of_error houtcome next
  | ok a => rw [statements_bind_of_ok houtcome, h, List.append_nil]

@[simp] theorem outcome_pure (a : α) : (pure a : Run ε α).outcome = .ok a := rfl

@[simp] theorem outcome_of (x : Except ε α) : (Run.of x).outcome = x := rfl

@[simp] theorem outcome_report (events : List Event) :
    (Run.report events : Run ε Unit).outcome = .ok () := rfl

end Database.Run

end SchemaSurvey
