/-
  `Steps` — the steps of a load, and how a load stops.

  A load sends one statement after another: the start of the transaction, a query for each table,
  the rollback. Each statement is a step that passes (`Server.Passes`) or fails (`Server.Fails`). A
  query fails if it is refused, and otherwise at the first of its rows that cannot be read.

  A run follows a list of steps (`Follows`) if it comes to something only after all of them, and
  fails only as the first of them that fails, with nothing sent after it. Steps that are put one
  after another are followed as a whole (`Follows.bind`), and so the nine steps of reading are
  (`Server.follows_readTables`).
-/
import SchemaSurvey.Database.Loading
import SchemaSurvey.Proofs.Outcome

namespace SchemaSurvey.Database

open Catalog (SystemTable)

/-! ### Steps -/

/-- The steps of reading, in order. -/
def readingSteps : List Statement := .start :: SystemTable.all.map .select

/-- Whether a row can be read as one of a table, or why not. -/
def Row.check (row : Row) : SystemTable → Except CellError Unit
  | .namespaces => row.toNamespace.map fun _ => ()
  | .classes => row.toClass.map fun _ => ()
  | .types => row.toType.map fun _ => ()
  | .attributes => row.toAttribute.map fun _ => ()
  | .descriptions => row.toDescription.map fun _ => ()
  | .constraints => row.toConstraint.map fun _ => ()
  | .procedures => row.toProcedure.map fun _ => ()
  | .aggregates => row.toAggregate.map fun _ => ()

namespace Server

/-- The statement is answered, and the rows that it is answered with can be read. -/
def Passes (server : Server) : Statement → Prop
  | .start => server.start = .ok ()
  | .select table =>
    ∃ rows, server.select table = .ok rows ∧ ∀ row ∈ rows, row.check table = .ok ()
  | .rollback => server.rollback = .ok ()

/-- **How a step fails:** the statement is refused, or a row of its answer is the first that cannot
be read. -/
inductive Fails (server : Server) : Statement → LoadError → Prop where
  | start {r : Refusal} (h : server.start = .error r) : Fails server .start (.refused r)
  | query {table : SystemTable} {r : Refusal} (h : server.select table = .error r) :
      Fails server (.select table) (.refused r)
  | row {table : SystemTable} {before after : List Row} {row : Row} {e : CellError}
      (h : server.select table = .ok (before ++ row :: after))
      (hbefore : ∀ b ∈ before, b.check table = .ok ()) (hrow : row.check table = .error e) :
      Fails server (.select table) (.undecodable e)
  | rollback {r : Refusal} (h : server.rollback = .error r) :
      Fails server .rollback (.refused r)

variable {server : Server} {step : Statement} {e e' : LoadError}

theorem Fails.not_passes (h : server.Fails step e) : ¬ server.Passes step := by
  intro hpasses
  cases h with
  | start h =>
    rw [Passes, h] at hpasses
    cases hpasses
  | query h =>
    obtain ⟨rows, hrows, -⟩ := hpasses
    rw [h] at hrows
    cases hrows
  | row h _ hrow =>
    obtain ⟨rows, hrows, hall⟩ := hpasses
    rw [h] at hrows
    obtain rfl := Except.ok.inj hrows
    rw [hall _ (List.mem_append_right _ List.mem_cons_self)] at hrow
    cases hrow
  | rollback h =>
    rw [Passes, h] at hpasses
    cases hpasses

/-- The rows of an answer are read one after another. -/
theorem mapM_check_of_row {table : SystemTable} {before : List Row} {row : Row} {e : CellError}
    (hbefore : ∀ b ∈ before, b.check table = .ok ()) (hrow : row.check table = .error e)
    (after : List Row) :
    (before ++ row :: after).mapM (Row.check · table) = .error e :=
  mapM_eq_error_iff.mpr ⟨before, row, after, rfl, fun b hb => ⟨(), hbefore b hb⟩, hrow⟩

/-- A step fails in one way. -/
theorem Fails.unique (h : server.Fails step e) (h' : server.Fails step e') : e = e' := by
  cases h with
  | start h =>
    cases h' with
    | start h' =>
      rw [h] at h'
      rw [Except.error.inj h']
  | query h =>
    cases h' with
    | query h' =>
      rw [h] at h'
      rw [Except.error.inj h']
    | row h' =>
      rw [h] at h'
      cases h'
  | @row _ _ after _ _ h hbefore hrow =>
    cases h' with
    | query h' =>
      rw [h] at h'
      cases h'
    | row h' hbefore' hrow' =>
      rw [h] at h'
      have hread := mapM_check_of_row hbefore hrow after
      rw [Except.ok.inj h', mapM_check_of_row hbefore' hrow'] at hread
      rw [Except.error.inj hread]
  | rollback h =>
    cases h' with
    | rollback h' =>
      rw [h] at h'
      rw [Except.error.inj h']

/-- The first of the steps that fails is `step`, after all of `done` have passed. -/
structure StopsAt (server : Server) (steps done : List Statement) (step : Statement)
    (e : LoadError) : Prop where
  isPrefix : done ++ [step] <+: steps
  passes : ∀ p ∈ done, server.Passes p
  fails : server.Fails step e

variable {steps done done' : List Statement} {step' : Statement}

/-- A step that fails is not among those that have passed before. -/
theorem StopsAt.length_le (h : server.StopsAt steps done step e)
    (h' : server.StopsAt steps done' step' e') : done'.length ≤ done.length := by
  by_contra hlt
  have hshorter : (done ++ [step]).length ≤ done'.length := by
    rw [List.length_append, List.length_singleton]
    omega
  have hprefix : done ++ [step] <+: done' :=
    List.prefix_of_prefix_length_le h.isPrefix
      ((List.prefix_append done' [step']).trans h'.isPrefix) hshorter
  have hmem : step ∈ done' := hprefix.subset (List.mem_append_right _ (List.mem_singleton.mpr rfl))
  exact h.fails.not_passes (h'.passes step hmem)

/-- **There is one first failure.** -/
theorem StopsAt.unique (h : server.StopsAt steps done step e)
    (h' : server.StopsAt steps done' step' e') : done = done' ∧ step = step' ∧ e = e' := by
  have hlength : (done ++ [step]).length = (done' ++ [step']).length := by
    rw [List.length_append, List.length_append, Nat.le_antisymm (h'.length_le h) (h.length_le h')]
    rfl
  have hsame : done ++ [step] = done' ++ [step'] :=
    (List.prefix_of_prefix_length_le h.isPrefix h'.isPrefix (Nat.le_of_eq hlength)).eq_of_length hlength
  obtain ⟨rfl, hsteps⟩ := List.append_inj' hsame rfl
  obtain rfl := List.singleton_inj.mp hsteps
  exact ⟨rfl, rfl, h.fails.unique h'.fails⟩

theorem StopsAt.not_all_pass (h : server.StopsAt steps done step e) :
    ¬ ∀ p ∈ steps, server.Passes p := fun hall =>
  h.fails.not_passes <| hall step <|
    h.isPrefix.subset (List.mem_append_right _ (List.mem_singleton.mpr rfl))

end Server

/-! ### Runs that follow steps -/

/-- The run comes to something after all the steps, and fails as the first of them that fails, with
nothing sent after it. -/
structure Follows {α : Type} (server : Server) (steps : List Statement) (r : Run LoadError α) :
    Prop where
  of_ok : ∀ a, r.outcome = .ok a → (∀ p ∈ steps, server.Passes p) ∧ r.statements = steps
  of_error : ∀ e, r.outcome = .error e →
    ∃ done step, server.StopsAt steps done step e ∧ r.statements = done ++ [step]

section

variable {server : Server} {α β : Type}

theorem follows_pure (a : α) : Follows server [] (pure a) where
  of_ok _ _ := ⟨nofun, rfl⟩
  of_error _ h := by cases h

/-- **Steps in a row are followed** if each run follows its own. -/
theorem Follows.bind {steps steps' : List Statement} {r : Run LoadError α}
    {next : α → Run LoadError β} (h : Follows server steps r)
    (hnext : ∀ a, Follows server steps' (next a)) :
    Follows server (steps ++ steps') (r >>= next) where
  of_ok b hb := by
    rw [Run.outcome_bind] at hb
    obtain ⟨a, ha, hb⟩ := bind_eq_ok_iff.mp hb
    obtain ⟨hpasses, hsent⟩ := h.of_ok a ha
    obtain ⟨hpasses', hsent'⟩ := (hnext a).of_ok b hb
    refine ⟨List.forall_mem_append.mpr ⟨hpasses, hpasses'⟩, ?_⟩
    rw [Run.statements_bind_of_ok ha, hsent, hsent']
  of_error e he := by
    rw [Run.outcome_bind] at he
    rcases bind_eq_error_iff.mp he with he | ⟨a, ha, he⟩
    · obtain ⟨done, step, hstop, hsent⟩ := h.of_error e he
      refine ⟨done, step, ⟨?_, hstop.passes, hstop.fails⟩, ?_⟩
      · exact hstop.isPrefix.trans (List.prefix_append steps steps')
      · rw [Run.statements_bind_of_error he, hsent]
    · obtain ⟨hpasses, hsent⟩ := h.of_ok a ha
      obtain ⟨done, step, hstop, hsent'⟩ := (hnext a).of_error e he
      refine ⟨steps ++ done, step, ⟨?_, ?_, hstop.fails⟩, ?_⟩
      · rw [List.append_assoc]
        exact (List.prefix_append_right_inj steps).mpr hstop.isPrefix
      · exact List.forall_mem_append.mpr ⟨hpasses, hstop.passes⟩
      · rw [Run.statements_bind_of_ok ha, hsent, hsent', List.append_assoc]

end

namespace Server

variable {server : Server} {α : Type}

theorem follows_start : Follows server [.start] (send .start server.start) := by
  constructor
  · intro _ h
    have hstart : server.start = .ok () := mapError_eq_ok_iff.mp h
    exact ⟨List.forall_mem_singleton.mpr hstart, rfl⟩
  · intro e h
    obtain ⟨r, hr, rfl⟩ := mapError_eq_error_iff.mp h
    exact ⟨[], .start, ⟨List.prefix_rfl, nofun, .start hr⟩, rfl⟩

/-- What a table is read to. -/
theorem outcome_read_eq_ok_iff {table : SystemTable} {ofRow : Row → Except CellError α}
    {items : List α} : (server.read table ofRow).outcome = .ok items ↔
      ∃ rows, server.select table = .ok rows ∧
        List.Forall₂ (fun row item => ofRow row = .ok item) rows items := by
  unfold read send
  simp only [Run.outcome_bind, Run.outcome_of, Run.outcome_pure, Run.outcome_report, bind_eq_ok_iff,
    mapError_eq_ok_iff, mapM_eq_ok_iff, Except.ok.injEq, true_and, exists_const, exists_eq_right]

theorem outcome_read_eq_error_iff {table : SystemTable} {ofRow : Row → Except CellError α}
    {e : LoadError} : (server.read table ofRow).outcome = .error e ↔
      (∃ r, server.select table = .error r ∧ .refused r = e) ∨
        ∃ rows, server.select table = .ok rows ∧
          ∃ f, rows.mapM ofRow = .error f ∧ .undecodable f = e := by
  unfold read send
  simp only [Run.outcome_bind, Run.outcome_of, Run.outcome_pure, Run.outcome_report,
    bind_eq_error_iff, mapError_eq_ok_iff, mapError_eq_error_iff, reduceCtorEq, and_false,
    exists_false, or_false]

theorem statements_read (table : SystemTable) (ofRow : Row → Except CellError α) :
    (server.read table ofRow).statements = [.select table] := by
  unfold read send
  cases server.select table with
  | error r => rfl
  | ok rows =>
    show [Statement.select table] ++ (Run.bind (.of ((rows.mapM ofRow).mapError _)) _).statements = _
    cases rows.mapM ofRow <;> rfl

/-- A table is one step. -/
theorem follows_read {table : SystemTable} {ofRow : Row → Except CellError α}
    (hcheck : ∀ row, Row.check row table = (ofRow row).map fun _ => ()) :
    Follows server [.select table] (server.read table ofRow) := by
  have check_ok : ∀ {row item}, ofRow row = .ok item → row.check table = .ok () := by
    intro row item h
    rw [hcheck, h]
    rfl
  constructor
  · intro items h
    obtain ⟨rows, hrows, hread⟩ := outcome_read_eq_ok_iff.mp h
    have hreadable : ∀ row ∈ rows, row.check table = .ok () :=
      ((List.forall₂_and_left _ _).mp (hread.imp fun _ _ hitem => ⟨check_ok hitem, hitem⟩)).1
    exact ⟨List.forall_mem_singleton.mpr ⟨rows, hrows, hreadable⟩, statements_read _ _⟩
  · intro e h
    rcases outcome_read_eq_error_iff.mp h with ⟨r, hr, rfl⟩ | ⟨rows, hrows, f, hf, rfl⟩
    · exact ⟨[], .select table, ⟨List.prefix_rfl, nofun, .query hr⟩, statements_read _ _⟩
    · obtain ⟨before, row, after, rfl, hbefore, hrow⟩ := mapM_eq_error_iff.mp hf
      have hreadable : ∀ b ∈ before, b.check table = .ok () := fun b hb =>
        have ⟨_, hitem⟩ := hbefore b hb
        check_ok hitem
      have hunreadable : row.check table = .error f := by
        rw [hcheck, hrow]
        rfl
      exact ⟨[], .select table,
        ⟨List.prefix_rfl, nofun, .row hrows hreadable hunreadable⟩, statements_read _ _⟩

/-- **Reading follows its nine steps.** -/
theorem follows_readTables (server : Server) : Follows server readingSteps server.readTables :=
  follows_start.bind fun _ =>
    (follows_read fun _ => rfl).bind fun _ =>
      (follows_read fun _ => rfl).bind fun _ =>
        (follows_read fun _ => rfl).bind fun _ =>
          (follows_read fun _ => rfl).bind fun _ =>
            (follows_read fun _ => rfl).bind fun _ =>
              (follows_read fun _ => rfl).bind fun _ =>
                (follows_read fun _ => rfl).bind fun _ =>
                  (follows_read fun _ => rfl).bind fun _ =>
                    follows_pure _

end Server

end SchemaSurvey.Database
