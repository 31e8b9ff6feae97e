/-
  `AllOrNothing` — a load comes to a whole snapshot or to none, and only reads.

  The steps of a load are those of reading and the rollback. A load comes to a snapshot exactly when
  the server delivers it: every statement is answered, and each list has one item for each row, in
  order (`Server.Delivers`). Otherwise it fails as the first step that fails, and no table is asked
  for after that (`Server.outcome_load_eq_error_iff`, `Server.statements_load_of_stopsAt`). Whoever
  asked for the load fails in the same way.

  Whatever a server answers, the statements sent are the first steps of reading in order, with one
  rollback after them at most (`ReadsOnly`).
-/
import SchemaSurvey.CommandLine.Program
import SchemaSurvey.Proofs.Database.Steps
import SchemaSurvey.Proofs.Deployment.Atomicity

namespace SchemaSurvey.Database

open Catalog (Snapshot SystemTable)

/-! ### What a load should do -/

/-- The steps of a load, in order. -/
def loadSteps : List Statement := readingSteps ++ [.rollback]

/-- What is still sent after a step has failed: a rollback, unless that was the step or the
connection is gone. -/
def closing (step : Statement) (e : LoadError) : List Statement :=
  if step = .rollback ∨ e.isHangUp = true then [] else [.rollback]

/-- The table is answered with one row for each item, in order. -/
def Server.Sends {α : Type} (server : Server) (table : SystemTable)
    (ofRow : Row → Except CellError α) (items : List α) : Prop :=
  ∃ rows, server.select table = .ok rows ∧
    List.Forall₂ (fun row item => ofRow row = .ok item) rows items

/-- Every statement is answered, the tables with the rows of the snapshot. -/
structure Server.Delivers (server : Server) (s : Snapshot) : Prop where
  start : server.start = .ok ()
  namespaces : server.Sends .namespaces Row.toNamespace s.namespaces
  classes : server.Sends .classes Row.toClass s.classes
  types : server.Sends .types Row.toType s.types
  attributes : server.Sends .attributes Row.toAttribute s.attributes
  descriptions : server.Sends .descriptions Row.toDescription s.descriptions
  constraints : server.Sends .constraints Row.toConstraint s.constraints
  procedures : server.Sends .procedures Row.toProcedure s.procedures
  aggregates : server.Sends .aggregates Row.toAggregate s.aggregates
  rollback : server.rollback = .ok ()

/-- The statements are the first of these, in order: the start of a read-only transaction and the
eight queries. At most one rollback comes after them. -/
def ReadsOnly (statements : List Statement) : Prop :=
  ∃ opening, opening <+: "START TRANSACTION ISOLATION LEVEL REPEATABLE READ, READ ONLY" ::
      SystemTable.all.map SystemTable.select ∧
    (statements.map Statement.sql = opening ∨ statements.map Statement.sql = opening ++ ["ROLLBACK"])

/-! ### One load -/

namespace Server

variable {server : Server} {s : Snapshot} {e : LoadError} {done : List Statement}
  {step : Statement}

theorem load_of_ok (h : server.readTables.outcome = .ok s) : server.load = (do
    let snapshot ← server.readTables
    send .rollback server.rollback
    .report [loaded snapshot]
    return snapshot) := by
  rw [load, h]

theorem load_of_error (h : server.readTables.outcome = .error e) : server.load =
    if e.isHangUp = true then server.readTables
    else { server.readTables with statements := server.readTables.statements ++ [.rollback] } := by
  rw [load]
  split
  · rename_i hok
    rw [h] at hok
    cases hok
  · rename_i herror
    rw [h] at herror
    rw [Except.error.inj herror]

/-- A rollback follows the reading, and decides with it. -/
theorem outcome_load (server : Server) : server.load.outcome =
    server.readTables.outcome >>= fun s =>
      server.rollback.mapError LoadError.refused >>= fun _ => .ok s := by
  cases hreading : server.readTables.outcome with
  | ok s =>
    rw [load_of_ok hreading, Run.outcome_bind, hreading]
    show (send .rollback server.rollback >>= _).outcome = _
    rw [Run.outcome_bind]
    rfl
  | error e =>
    rw [load_of_error hreading]
    split
    · exact hreading
    · exact hreading

theorem statements_load_of_ok (h : server.readTables.outcome = .ok s) :
    server.load.statements = loadSteps := by
  have hsent : server.readTables.statements = readingSteps := ((follows_readTables server).of_ok s h).2
  rw [load_of_ok h, Run.statements_bind_of_ok h, hsent, loadSteps, send]
  cases server.rollback <;> rfl

theorem statements_load_of_error (h : server.readTables.outcome = .error e) :
    server.load.statements =
      server.readTables.statements ++ if e.isHangUp = true then [] else [.rollback] := by
  rw [load_of_error h]
  split
  · rw [List.append_nil]
  · rfl

/-- A step of reading is no rollback. -/
theorem ne_rollback_of_mem_readingSteps (h : step ∈ readingSteps) : step ≠ .rollback := by
  rintro rfl
  cases h with
  | tail _ h =>
    obtain ⟨_, -, h⟩ := List.mem_map.mp h
    cases h

/-- **A load stops where reading stops,** or at the rollback. -/
theorem stopsAt_of_outcome_load (h : server.load.outcome = .error e) :
    ∃ done step, server.StopsAt loadSteps done step e ∧
      server.load.statements = done ++ step :: closing step e := by
  rw [outcome_load] at h
  rcases bind_eq_error_iff.mp h with h | ⟨s, hreading, h⟩
  · obtain ⟨done, step, hstop, hsent⟩ := (follows_readTables server).of_error e h
    have hmem : step ∈ readingSteps :=
      hstop.isPrefix.subset (List.mem_append_right _ (List.mem_singleton.mpr rfl))
    refine ⟨done, step, ⟨?_, hstop.passes, hstop.fails⟩, ?_⟩
    · exact hstop.isPrefix.trans (List.prefix_append _ _)
    · have hclosing : closing step e = if e.isHangUp = true then [] else [.rollback] := by
        simp only [closing, ne_rollback_of_mem_readingSteps hmem, false_or]
      rw [statements_load_of_error h, hsent, hclosing, List.append_assoc]
      rfl
  · have hpasses := ((follows_readTables server).of_ok s hreading).1
    rcases bind_eq_error_iff.mp h with h | ⟨_, -, h⟩
    · obtain ⟨r, hr, rfl⟩ := mapError_eq_error_iff.mp h
      refine ⟨readingSteps, .rollback, ⟨List.prefix_rfl, hpasses, .rollback hr⟩, ?_⟩
      rw [statements_load_of_ok hreading, loadSteps, closing, if_pos (.inl rfl)]
    · cases h

theorem passes_of_outcome_load (h : server.load.outcome = .ok s) :
    ∀ p ∈ loadSteps, server.Passes p := by
  rw [outcome_load] at h
  obtain ⟨s', hreading, h⟩ := bind_eq_ok_iff.mp h
  obtain ⟨_, hrollback, -⟩ := bind_eq_ok_iff.mp h
  have hpasses := ((follows_readTables server).of_ok s' hreading).1
  have hlast : server.rollback = .ok () := mapError_eq_ok_iff.mp hrollback
  exact List.forall_mem_append.mpr ⟨hpasses, List.forall_mem_singleton.mpr hlast⟩

/-- **A load fails as the first step that fails.** -/
theorem outcome_load_eq_error_iff : server.load.outcome = .error e ↔
    ∃ done step, server.StopsAt loadSteps done step e := by
  constructor
  · intro h
    obtain ⟨done, step, hstop, -⟩ := stopsAt_of_outcome_load h
    exact ⟨done, step, hstop⟩
  · rintro ⟨done, step, hstop⟩
    cases h : server.load.outcome with
    | ok s => exact absurd (passes_of_outcome_load h) hstop.not_all_pass
    | error e' =>
      obtain ⟨_, _, hstop', -⟩ := stopsAt_of_outcome_load h
      rw [(hstop.unique hstop').2.2]

/-- **Nothing is sent after a step that fails,** but for the rollback. -/
theorem statements_load_of_stopsAt (h : server.StopsAt loadSteps done step e) :
    server.load.statements = done ++ step :: closing step e := by
  obtain ⟨done', step', hstop, hsent⟩ :=
    stopsAt_of_outcome_load (outcome_load_eq_error_iff.mpr ⟨done, step, h⟩)
  obtain ⟨rfl, rfl, -⟩ := h.unique hstop
  exact hsent

/-- **A load comes to what the server delivers.** -/
theorem outcome_load_eq_ok_iff : server.load.outcome = .ok s ↔ server.Delivers s := by
  rw [outcome_load]
  unfold readTables send
  simp only [Run.outcome_bind, Run.outcome_pure, bind_eq_ok_iff, mapError_eq_ok_iff,
    outcome_read_eq_ok_iff, Except.ok.injEq]
  constructor
  · rintro ⟨_, ⟨_, hstart, namespaces, hnamespaces, classes, hclasses, types, htypes, attributes,
      hattributes, descriptions, hdescriptions, constraints, hconstraints, procedures, hprocedures,
      aggregates, haggregates, rfl⟩, _, hrollback, rfl⟩
    exact ⟨hstart, hnamespaces, hclasses, htypes, hattributes, hdescriptions, hconstraints,
      hprocedures, haggregates, hrollback⟩
  · intro h
    exact ⟨s, ⟨(), h.start, _, h.namespaces, _, h.classes, _, h.types, _, h.attributes, _,
      h.descriptions, _, h.constraints, _, h.procedures, _, h.aggregates, rfl⟩, (), h.rollback, rfl⟩

@[simp] theorem outcome_reportLoss {α : Type} (r : Run LoadError α) :
    (reportLoss r).outcome = r.outcome := by
  unfold reportLoss
  split <;> rfl

@[simp] theorem statements_reportLoss {α : Type} (r : Run LoadError α) :
    (reportLoss r).statements = r.statements := by
  unfold reportLoss
  split <;> rfl

end Server

/-! ### Who asks for a load -/

namespace Network

variable {network : Network} {uri : String} {server : Server}

/-- Over the network a load comes to what it comes to over an open connection. -/
theorem outcome_load_of_reached (hnetwork : network uri = some server)
    (hgreeting : server.greeting = .ok ()) :
    (network.load uri).outcome = server.load.outcome.mapError LoadError.toFailure := by
  have hfind : network.find uri = .ok server := by rw [find, hnetwork]
  have hvisit : server.visit.outcome = server.load.outcome := by
    rw [Server.visit, Run.outcome_bind, Server.connect, Run.outcome_of, hgreeting]
    exact Server.outcome_reportLoss _
  rw [load, Run.outcome_bind, Run.outcome_of, hfind]
  show server.visit.outcome.mapError _ = _
  rw [hvisit]

/-- A snapshot that is not loaded is not surveyed. -/
theorem outcome_introspect_of_error {f : Failure} (h : (network.load uri).outcome = .error f)
    (excluded : List String) : (network.introspect uri excluded).outcome = .error f := by
  rw [introspect, Run.outcome_bind, h]
  rfl

end Network

/-! ### What is sent -/

theorem readsOnly_nil : ReadsOnly [] := ⟨[], List.nil_prefix, .inl rfl⟩

theorem readsOnly_of_prefix {sent : List Statement} (h : sent <+: readingSteps) : ReadsOnly sent :=
  ⟨sent.map Statement.sql, h.map _, .inl rfl⟩

theorem readsOnly_concat_rollback {sent : List Statement} (h : sent <+: readingSteps) :
    ReadsOnly (sent ++ [.rollback]) :=
  ⟨sent.map Statement.sql, h.map _, .inr (by rw [List.map_append]; rfl)⟩

section

variable {ε α β : Type} {r : Run ε α} {next : α → Run ε β}

theorem ReadsOnly.bind_of_silent (h : ReadsOnly r.statements)
    (hnext : ∀ a, (next a).statements = []) : ReadsOnly (r >>= next).statements := by
  rwa [Run.statements_bind_of_silent hnext]

theorem readsOnly_bind_of_silent (h : r.statements = [])
    (hnext : ∀ a, ReadsOnly (next a).statements) : ReadsOnly (r >>= next).statements := by
  cases houtcome : r.outcome with
  | error e =>
    rw [Run.statements_bind_of_error houtcome, h]
    exact readsOnly_nil
  | ok a =>
    rw [Run.statements_bind_of_ok houtcome, h, List.nil_append]
    exact hnext a

end

/-- **A load only reads,** however it goes. -/
theorem readsOnly_load (server : Server) : ReadsOnly server.load.statements := by
  cases h : server.readTables.outcome with
  | ok s =>
    rw [Server.statements_load_of_ok h]
    exact readsOnly_concat_rollback List.prefix_rfl
  | error e =>
    obtain ⟨done, step, hstop, hsent⟩ := (Server.follows_readTables server).of_error e h
    rw [Server.statements_load_of_error h, hsent]
    split
    · rw [List.append_nil]
      exact readsOnly_of_prefix hstop.isPrefix
    · exact readsOnly_concat_rollback hstop.isPrefix

theorem readsOnly_network_load (network : Network) (uri : String) :
    ReadsOnly (network.load uri).statements := by
  refine readsOnly_bind_of_silent rfl fun server => ?_
  show ReadsOnly server.visit.statements
  refine readsOnly_bind_of_silent rfl fun _ => ?_
  rw [Server.statements_reportLoss]
  exact readsOnly_load server

theorem readsOnly_introspect (network : Network) (uri : String) (excluded : List String) :
    ReadsOnly (network.introspect uri excluded).statements :=
  (readsOnly_network_load network uri).bind_of_silent fun _ => rfl

theorem readsOnly_configure (network : Network) (c : Configuration) :
    ReadsOnly (network.configure c).statements :=
  readsOnly_bind_of_silent rfl fun _ => readsOnly_bind_of_silent rfl fun uri =>
    (readsOnly_network_load network uri).bind_of_silent fun _ => rfl

open Deployment in
/-- Writing a file asks nothing of a server. -/
theorem statements_write (files : FileTree) (path : String) (c : Configuration) :
    (write files path c).1.statements = [] := by
  unfold write
  exact Run.statements_bind_of_silent fun _ => rfl

open Deployment in
theorem readsOnly_update (network : Network) (files : FileTree) (path : String) :
    ReadsOnly (update network files path).1.statements := by
  have hrefreshing : ReadsOnly (read files path >>= network.configure).statements :=
    readsOnly_bind_of_silent statements_read fun c => readsOnly_configure network c
  cases h : (read files path >>= network.configure).outcome with
  | error e =>
    rw [update_of_error h]
    exact hrefreshing
  | ok c =>
    unfold update
    simp only [h]
    refine hrefreshing.bind_of_silent fun _ => ?_
    exact (Run.statements_bind_of_silent fun _ => rfl).trans (statements_write files path c)

/-- **Whatever the program is asked to do, it only reads.** -/
theorem readsOnly_perform (network : Network) (files : FileTree)
    (command : CommandLine.Command) : ReadsOnly (command.perform network files).1.statements := by
  cases command with
  | help => exact readsOnly_nil
  | update path =>
    have hupdate : ReadsOnly ((Deployment.update network files path).1.mapError
      (CommandLine.Complaint.update path)).statements := readsOnly_update network files path
    exact hupdate.bind_of_silent fun _ => rfl
  | print uri excluded =>
    have hprint : ReadsOnly ((network.introspect uri excluded).mapError
      CommandLine.Complaint.failure).statements := readsOnly_introspect network uri excluded
    exact hprint.bind_of_silent fun _ => rfl

/-- **A load comes to a whole snapshot or to none, and only reads.** It comes to a snapshot exactly
when the server delivers it. Otherwise it fails as the first step that fails, and no more tables are
asked for. Whoever asked for the load fails in the same way. Whatever happens, nothing is sent but
the start of a read-only transaction, the eight queries in order, and one rollback. -/
theorem load_all_or_nothing (server : Server) :
    (∀ s, server.load.outcome = .ok s ↔ server.Delivers s) ∧
    (∀ e, server.load.outcome = .error e ↔ ∃ done step, server.StopsAt loadSteps done step e) ∧
    (∀ done step e, server.StopsAt loadSteps done step e →
      server.load.statements = done ++ step :: closing step e ∧
      (∀ excluded, (server.introspect excluded).outcome = .error e) ∧
      ∀ (network : Network) (uri : String), network uri = some server →
        server.greeting = .ok () →
          (∀ excluded, (network.introspect uri excluded).outcome = .error e.toFailure) ∧
          ∀ c : Configuration, c.validate = .ok () → c.connections.first? = some uri →
            (network.configure c).outcome = .error e.toFailure) ∧
    ReadsOnly server.load.statements ∧
    (∀ excluded, ReadsOnly (server.introspect excluded).statements) ∧
    ∀ network : Network, (∀ uri excluded, ReadsOnly (network.introspect uri excluded).statements) ∧
      (∀ c, ReadsOnly (network.configure c).statements) ∧
      ∀ (files : FileTree) (command : CommandLine.Command),
        ReadsOnly (command.perform network files).1.statements := by
  have hload := readsOnly_load server
  refine ⟨fun s => Server.outcome_load_eq_ok_iff, fun e => Server.outcome_load_eq_error_iff,
    fun done step e hstop => ?_, hload, fun excluded => hload.bind_of_silent fun _ => rfl,
    fun network => ⟨readsOnly_introspect network, readsOnly_configure network,
      readsOnly_perform network⟩⟩
  have herror : server.load.outcome = .error e :=
    Server.outcome_load_eq_error_iff.mpr ⟨done, step, hstop⟩
  have hintrospect : ∀ excluded, (server.introspect excluded).outcome = .error e := by
    intro excluded
    rw [Server.introspect, Run.outcome_bind, herror]
    rfl
  refine ⟨Server.statements_load_of_stopsAt hstop, hintrospect,
    fun network uri hnetwork hgreeting => ?_⟩
  have hreached : (network.load uri).outcome = .error e.toFailure := by
    rw [Network.outcome_load_of_reached hnetwork hgreeting, herror]
    rfl
  exact ⟨Network.outcome_introspect_of_error hreached, fun c hvalid huri =>
    Configuration.outcome_configure_eq_error_iff.mpr (.inr ⟨hvalid, uri, huri, hreached⟩)⟩

/-- A row of `pg_class` about a relation. -/
def named : Row := [.oid 1, .oid 2200, .text "orders", .text "r"]

/-- A row of `pg_class` about a relation without a name. -/
def nameless : Row := [.oid 2, .oid 2200, .null, .text "r"]

/-- A server with a relation that has no name. -/
def faulty : Server where
  select
    | .classes => .ok [named, nameless, named]
    | _ => .ok []

/-- The first relation is not kept, and no types are asked for. -/
theorem load_faulty :
    faulty.StopsAt loadSteps [.start, .select .namespaces] (.select .classes)
        (.undecodable (.unreadable 2)) ∧
      faulty.load.outcome = .error (.undecodable (.unreadable 2)) ∧
      faulty.load.statements =
        [.start, .select .namespaces, .select .classes, .rollback] := by
  have hpasses : ∀ p ∈ [Statement.start, .select .namespaces], faulty.Passes p :=
    List.forall_mem_cons.mpr ⟨rfl, List.forall_mem_singleton.mpr ⟨[], rfl, nofun⟩⟩
  have hrows : faulty.select .classes = .ok ([named] ++ nameless :: [named]) := rfl
  have hnamed : ∀ b ∈ [named], b.check .classes = .ok () := List.forall_mem_singleton.mpr rfl
  have hfails : faulty.Fails (.select .classes) (.undecodable (.unreadable 2)) :=
    .row hrows hnamed rfl
  have hstop : faulty.StopsAt loadSteps [.start, .select .namespaces] (.select .classes)
      (.undecodable (.unreadable 2)) := ⟨⟨_, rfl⟩, hpasses, hfails⟩
  obtain ⟨-, herror, hstopped, -⟩ := load_all_or_nothing faulty
  exact ⟨hstop, (herror _).mpr ⟨_, _, hstop⟩, (hstopped _ _ _ hstop).1⟩

end SchemaSurvey.Database
