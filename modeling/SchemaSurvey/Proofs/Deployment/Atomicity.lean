/-
  `Atomicity` — a deployment file is changed as a whole or not at all.

  Many steps come before a file is written. An update reads the file, decodes and validates it
  (`Unusable`) and loads the catalog of its database; each of these steps may fail, and so may the
  writing. What can fail is listed once (`Fails`), with the failure that it gives, and an update
  fails exactly in these ways (`outcome_update_eq_error_iff`). No step but the last touches the
  tree, and nothing is sent before the file is known to be usable.

  The last step rests on `FileTree.replace`: a temporary file with a name of its own takes the place
  of the old file at once, and is removed if it cannot. `changes_all_or_nothing` is the result.
-/
import SchemaSurvey.Proofs.Deployment.Updates

namespace SchemaSurvey

open Database (Network Run)
open SchemaSurvey.Configuration (Refreshes)

/-! ### What a refresh comes to -/

namespace Configuration

/-- A configuration that can be used names a database. -/
theorem exists_first_of_validate {c : Configuration} (h : c.validate = .ok ()) :
    ∃ uri, c.connections.first? = some uri := by
  obtain ⟨version, connections, pool, metadata, aggregates, excluded⟩ := c
  cases connections with
  | one uri => exact ⟨uri, rfl⟩
  | many uris =>
    cases uris with
    | cons uri uris => exact ⟨uri, rfl⟩
    | nil =>
      unfold validate violations at h
      split at h
      · rename_i hviolations
        cases (List.append_eq_nil_iff.mp hviolations).2
      · cases h

variable {network : Network} {c : Configuration}

/-- **A refresh fails** if the configuration cannot be used or the catalog cannot be loaded. -/
theorem outcome_configure_eq_error_iff {f : Failure} :
    (network.configure c).outcome = .error f ↔ c.validate = .error f ∨
      c.validate = .ok () ∧ ∃ uri, c.connections.first? = some uri ∧
        (network.load uri).outcome = .error f := by
  unfold Network.configure
  simp only [Run.outcome_bind, Run.outcome_of, Run.outcome_pure, Run.outcome_report]
  constructor
  · intro h
    rcases bind_eq_error_iff.mp h with h | ⟨_, hvalid, h⟩
    · exact .inl h
    · rcases bind_eq_error_iff.mp h with h | ⟨uri, huri, h⟩
      · -- A valid configuration has an address to connect to.
        obtain ⟨uri, huri⟩ := exists_first_of_validate hvalid
        rw [Connections.select_eq_ok_iff.mpr huri] at h
        cases h
      · rcases bind_eq_error_iff.mp h with h | ⟨_, -, h⟩
        · exact .inr ⟨hvalid, uri, Connections.select_eq_ok_iff.mp huri, h⟩
        · cases h
  · rintro (h | ⟨hvalid, uri, huri, h⟩)
    · exact bind_eq_error_iff.mpr (.inl h)
    · exact bind_eq_error_iff.mpr (.inr ⟨(), hvalid, bind_eq_error_iff.mpr
        (.inr ⟨uri, Connections.select_eq_ok_iff.mpr huri, bind_eq_error_iff.mpr (.inl h)⟩)⟩)

end Configuration

namespace Deployment

variable {network : Network} {t : FileTree} {path : String} {f : Failure}

/-! ### What can fail -/

/-- **The file is unusable:** it cannot be read, decoded or validated. -/
inductive Unusable (t : FileTree) (path : String) : Failure → Prop where
  | unread {e : SystemError} (h : t.text path = .error e) :
      Unusable t path (systemFailure "read_failed" path e)
  | undecoded {text : String} {fault : Json.Fault} (htext : t.text path = .ok text)
      (h : Configuration.codec.ofText text = .error fault) : Unusable t path (.ofJson fault)
  | invalid {text : String} {c : Configuration} {f : Failure} (htext : t.text path = .ok text)
      (hdecoded : Configuration.codec.ofText text = .ok c) (h : c.validate = .error f) :
      Unusable t path f

/-- **What can fail in an update:** the file is unusable, or the catalog cannot be loaded, from the
connection to the rollback, or the refreshed configuration cannot be written. -/
inductive Fails (network : Network) (t : FileTree) (path : String) : Failure → Prop where
  | unusable {f : Failure} (h : Unusable t path f) : Fails network t path f
  | unloaded {c : Configuration} {uri : String} {f : Failure}
      (hread : (read t path).outcome = .ok c) (hvalid : c.validate = .ok ())
      (huri : c.connections.first? = some uri) (h : (network.load uri).outcome = .error f) :
      Fails network t path f
  | unwritten {c : Configuration} {uri : String} {s : Catalog.Snapshot} {e : SystemError}
      (hread : (read t path).outcome = .ok c) (hvalid : c.validate = .ok ())
      (huri : c.connections.first? = some uri) (hloaded : (network.load uri).outcome = .ok s)
      (h : (t.replace path (c.refresh s).fileText.toUTF8).1 = .error e) :
      Fails network t path (systemFailure "write_failed" path e)

theorem outcome_read_eq_error_iff : (read t path).outcome = .error f ↔
    (∃ e, t.text path = .error e ∧ systemFailure "read_failed" path e = f) ∨
      ∃ text, t.text path = .ok text ∧
        ∃ fault, Configuration.codec.ofText text = .error fault ∧ .ofJson fault = f := by
  unfold read ofText
  simp only [Run.outcome_bind, Run.outcome_of, Run.outcome_pure, Run.outcome_report,
    bind_eq_error_iff, mapError_eq_ok_iff, mapError_eq_error_iff, reduceCtorEq, and_false,
    exists_false, or_false]

/-- A file is unusable if it cannot be read as a configuration, or as one that is not valid. -/
theorem unusable_iff : Unusable t path f ↔ (read t path).outcome = .error f ∨
    ∃ c, (read t path).outcome = .ok c ∧ c.validate = .error f := by
  rw [outcome_read_eq_error_iff]
  simp only [outcome_read_eq_ok_iff]
  constructor
  · intro h
    cases h with
    | unread h => exact .inl (.inl ⟨_, h, rfl⟩)
    | undecoded htext h => exact .inl (.inr ⟨_, htext, _, h, rfl⟩)
    | invalid htext hdecoded h => exact .inr ⟨_, ⟨_, htext, hdecoded⟩, h⟩
  · rintro ((⟨e, h, rfl⟩ | ⟨text, htext, fault, h, rfl⟩) | ⟨c, ⟨text, htext, hdecoded⟩, h⟩)
    · exact .unread h
    · exact .undecoded htext h
    · exact .invalid htext hdecoded h

/-! ### What an update comes to -/

/-- Before it comes to writing, an update fails with an unusable file or an unloaded catalog. -/
theorem outcome_refreshing_eq_error_iff :
    (read t path >>= network.configure).outcome = .error f ↔ Unusable t path f ∨
      ∃ c uri, (read t path).outcome = .ok c ∧ c.validate = .ok () ∧
        c.connections.first? = some uri ∧ (network.load uri).outcome = .error f := by
  rw [Run.outcome_bind, bind_eq_error_iff, unusable_iff]
  simp only [Configuration.outcome_configure_eq_error_iff]
  constructor
  · rintro (h | ⟨c, hc, h | ⟨hvalid, uri, huri, h⟩⟩)
    · exact .inl (.inl h)
    · exact .inl (.inr ⟨c, hc, h⟩)
    · exact .inr ⟨c, uri, hc, hvalid, huri, h⟩
  · rintro ((h | ⟨c, hc, h⟩) | ⟨c, uri, hc, hvalid, huri, h⟩)
    · exact .inl h
    · exact .inr ⟨c, hc, .inl h⟩
    · exact .inr ⟨c, hc, .inr ⟨hvalid, uri, huri, h⟩⟩

theorem outcome_refreshing_eq_ok_iff {fresh : Configuration} :
    (read t path >>= network.configure).outcome = .ok fresh ↔
      ∃ c, (read t path).outcome = .ok c ∧ c.validate = .ok () ∧ Refreshes network c fresh := by
  rw [Run.outcome_bind, bind_eq_ok_iff]
  simp only [Configuration.outcome_configure_eq_ok_iff]

theorem outcome_write_eq_error_iff {c : Configuration} : (write t path c).1.outcome = .error f ↔
    ∃ e, (t.replace path c.fileText.toUTF8).1 = .error e ∧
      systemFailure "write_failed" path e = f := by
  unfold write
  rw [Run.outcome_bind, Run.outcome_of, bind_eq_error_iff, mapError_eq_error_iff]
  simp only [Run.outcome_report, reduceCtorEq, and_false, exists_const, or_false]

theorem outcome_update : (update network t path).1.outcome =
    (read t path >>= network.configure).outcome >>= fun fresh =>
      (write t path fresh).1.outcome.map fun _ => fresh := by
  cases hrefreshing : (read t path >>= network.configure).outcome with
  | error e =>
    rw [update_of_error hrefreshing, hrefreshing]
    rfl
  | ok fresh =>
    rw [(update_of_ok hrefreshing).2]
    rfl

/-- **An update fails exactly when one of its steps does.** -/
theorem outcome_update_eq_error_iff :
    (update network t path).1.outcome = .error f ↔ Fails network t path f := by
  rw [outcome_update, bind_eq_error_iff, outcome_refreshing_eq_error_iff]
  simp only [outcome_refreshing_eq_ok_iff, map_eq_error_iff, outcome_write_eq_error_iff]
  constructor
  · rintro ((h | ⟨c, uri, hc, hvalid, huri, h⟩) |
      ⟨_, ⟨c, hc, hvalid, uri, s, huri, hs, rfl⟩, e, h, rfl⟩)
    · exact .unusable h
    · exact .unloaded hc hvalid huri h
    · exact .unwritten hc hvalid huri hs h
  · intro h
    cases h with
    | unusable h => exact .inl (.inl h)
    | unloaded hc hvalid huri h => exact .inl (.inr ⟨_, _, hc, hvalid, huri, h⟩)
    | unwritten hc hvalid huri hs h =>
      exact .inr ⟨_, ⟨_, hc, hvalid, _, _, huri, hs, rfl⟩, _, h, rfl⟩

/-! ### What is sent -/

theorem statements_read : (read t path).statements = [] := by
  unfold read
  cases t.text path with
  | error e => rfl
  | ok text =>
    show (Run.bind (Run.of (ofText text)) _).statements = []
    cases ofText text <;> rfl

/-- **Nothing is sent for an unusable file.** -/
theorem statements_update_of_unusable (h : Unusable t path f) :
    (update network t path).1.statements = [] := by
  rw [update_of_error (outcome_refreshing_eq_error_iff.mpr (.inl h))]
  show (read t path >>= network.configure).statements = []
  rcases unusable_iff.mp h with h | ⟨c, hc, h⟩
  · rw [Run.statements_bind_of_error h, statements_read]
  · rw [Run.statements_bind_of_ok hc, statements_read, List.nil_append]
    exact Run.statements_bind_of_error h _

/-- **A deployment file is changed as a whole or not at all.** A configuration is written in full,
and nothing else changes, or the system has failed and nothing changes. The same holds of an update,
whichever of its steps fails; and for an unusable file nothing is sent. -/
theorem changes_all_or_nothing (t : FileTree) (path : String) :
    (∀ c, (write t path c).1.outcome = .ok () ∧
          t.ReplacedAt path (Configuration.codec.pretty c ++ "\n").toUTF8 (write t path c).2 ∨
        ∃ message, (write t path c).1.outcome = .error ⟨.io, "write_failed", message⟩ ∧
          (write t path c).2 = t) ∧
      ∀ network,
        (∀ c, (update network t path).1.outcome = .ok c →
          t.ReplacedAt path (Configuration.codec.pretty c ++ "\n").toUTF8
            (update network t path).2) ∧
        (∀ f, (update network t path).1.outcome = .error f → (update network t path).2 = t) ∧
        (∀ f, (update network t path).1.outcome = .error f ↔ Fails network t path f) ∧
        ∀ f, Unusable t path f → (update network t path).1.statements = [] := by
  refine ⟨fun c => ?_, fun network => ⟨fun c hc => ?_, fun f hf => ?_,
    fun f => outcome_update_eq_error_iff, fun f hf => statements_update_of_unusable hf⟩⟩
  · rcases write_cases t path c with ⟨e, -, hwrite, hsame⟩ | hwritten
    · exact .inr ⟨_, hwrite, hsame⟩
    · exact .inl hwritten
  · rcases update_cases t path network with ⟨e, herror, -⟩ | ⟨_, fresh, -, -, hok, hreplaced⟩
    · rw [herror] at hc
      cases hc
    · rw [hok] at hc
      obtain rfl := Except.ok.inj hc
      exact hreplaced
  · rcases update_cases t path network with ⟨-, -, hsame⟩ | ⟨_, _, -, -, hok, -⟩
    · exact hsame
    · rw [hok] at hf
      cases hf

end Deployment

end SchemaSurvey
