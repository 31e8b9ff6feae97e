/-
  `Updates` — any number of updates of a deployment file.

  An update reads the file, loads the catalog, and replaces the file. It keeps the user's part of
  the configuration (`Configuration.SameUser`) and takes everything else from the catalog, so what
  is in the file after several updates does not depend on any catalog but the last
  (`SameUser.refresh_eq`). An update that fails leaves no trace. Since a written file reads back as
  what was written, the next update starts from there (`update_cases`).

  The invariant of a run of updates is that the file reads as a configuration with the user's part
  of the first one; `updates_do_not_drift` says what the file holds in the end.
-/
import SchemaSurvey.Deployment
import SchemaSurvey.Proofs.FileTree.Replace
import SchemaSurvey.Proofs.Formats

namespace SchemaSurvey

open Database (Network Run)

/-! ### The user's part -/

namespace Configuration

/-- The user said the same in both configurations. -/
structure SameUser (c d : Configuration) : Prop where
  connections : c.connections = d.connections
  pool : c.pool = d.pool
  nativeQueries : c.metadata.nativeQueries = d.metadata.nativeQueries
  excluded : c.excluded = d.excluded

theorem SameUser.refl (c : Configuration) : c.SameUser c := ⟨rfl, rfl, rfl, rfl⟩

/-- **A refresh keeps the user's part.** -/
theorem sameUser_refresh (c : Configuration) (s : Catalog.Snapshot) : (c.refresh s).SameUser c :=
  ⟨rfl, rfl, rfl, rfl⟩

/-- **Nothing but the user's part survives a refresh.** -/
theorem SameUser.refresh_eq {c d : Configuration} (h : c.SameUser d) (s : Catalog.Snapshot) :
    c.refresh s = d.refresh s := by
  obtain ⟨hconnections, hpool, hnative, hexcluded⟩ := h
  simp only [refresh, withDocument, hconnections, hpool, hnative, hexcluded]

theorem Connections.select_eq_ok_iff {c : Connections} {uri : String} :
    c.select = .ok uri ↔ c.first? = some uri := by
  unfold select
  cases c.first? with
  | none => exact ⟨nofun, nofun⟩
  | some u => rw [Except.ok.injEq, Option.some.injEq]

/-- `fresh` is `c` brought up to date by a snapshot loaded from its first database. -/
def Refreshes (network : Network) (c fresh : Configuration) : Prop :=
  ∃ uri s, c.connections.first? = some uri ∧ (network.load uri).outcome = .ok s ∧
    fresh = c.refresh s

theorem SameUser.refreshes {network : Network} {c d fresh : Configuration} (h : c.SameUser d)
    (hfresh : Refreshes network c fresh) : Refreshes network d fresh := by
  obtain ⟨uri, s, huri, hs, rfl⟩ := hfresh
  exact ⟨uri, s, h.connections ▸ huri, hs, h.refresh_eq s⟩

theorem Refreshes.sameUser {network : Network} {c fresh : Configuration}
    (h : Refreshes network c fresh) : fresh.SameUser c := by
  obtain ⟨uri, s, -, -, rfl⟩ := h
  exact sameUser_refresh c s

theorem outcome_configure_eq_ok_iff {network : Network} {c fresh : Configuration} :
    (network.configure c).outcome = .ok fresh ↔
      c.validate = .ok () ∧ Refreshes network c fresh := by
  unfold Network.configure
  simp only [Run.outcome_bind, Run.outcome_of, Run.outcome_pure, Run.outcome_report]
  constructor
  · intro h
    obtain ⟨_, hvalid, h⟩ := bind_eq_ok_iff.mp h
    obtain ⟨uri, huri, h⟩ := bind_eq_ok_iff.mp h
    obtain ⟨s, hs, h⟩ := bind_eq_ok_iff.mp h
    exact ⟨hvalid, uri, s, Connections.select_eq_ok_iff.mp huri, hs, (Except.ok.inj h).symm⟩
  · rintro ⟨hvalid, uri, s, huri, hs, rfl⟩
    exact bind_eq_ok_iff.mpr ⟨(), hvalid, bind_eq_ok_iff.mpr
      ⟨uri, Connections.select_eq_ok_iff.mpr huri, bind_eq_ok_iff.mpr ⟨s, hs, rfl⟩⟩⟩

end Configuration

open SchemaSurvey.Configuration (Refreshes)

/-! ### One update -/

theorem fromUTF8?_toUTF8 (s : String) : String.fromUTF8? s.toUTF8 = some s := by
  have hvalid : s.toUTF8.IsValidUTF8 := s.isValidUTF8
  rw [String.fromUTF8?, dif_pos hvalid]
  rfl

namespace Deployment

variable {t : FileTree} {path : String}

theorem outcome_read_eq_ok_iff {c : Configuration} : (read t path).outcome = .ok c ↔
    ∃ text, t.text path = .ok text ∧ Configuration.codec.ofText text = .ok c := by
  unfold read ofText
  simp only [Run.outcome_bind, Run.outcome_of, Run.outcome_pure, Run.outcome_report, bind_eq_ok_iff,
    mapError_eq_ok_iff, true_and, exists_const, Except.ok.injEq, exists_eq_right]

/-- **A written file is read back.** -/
theorem outcome_read_of_content {c : Configuration} (h : t.content path = .ok c.fileText.toUTF8) :
    (read t path).outcome = .ok c := by
  have htext : t.text path = .ok c.fileText := by
    rw [FileTree.text, bind_eq_ok_iff]
    exact ⟨_, h, by rw [fromUTF8?_toUTF8]⟩
  exact outcome_read_eq_ok_iff.mpr ⟨c.fileText, htext, Configuration.ofText_fileText c⟩

/-- **A configuration is written as a whole or not at all.** -/
theorem write_cases (t : FileTree) (path : String) (c : Configuration) :
    (∃ e, (t.replace path c.fileText.toUTF8).1 = .error e ∧
        (write t path c).1.outcome = .error (systemFailure "write_failed" path e) ∧
        (write t path c).2 = t) ∨
      (write t path c).1.outcome = .ok () ∧
        t.ReplacedAt path c.fileText.toUTF8 (write t path c).2 := by
  unfold write
  cases hreplace : (t.replace path c.fileText.toUTF8).1 with
  | error e =>
    refine .inl ⟨e, rfl, ?_, FileTree.replace_of_error hreplace⟩
    rw [Run.outcome_bind, Run.outcome_of, hreplace]
    rfl
  | ok _ =>
    refine .inr ⟨?_, FileTree.replacedAt_of_replace hreplace⟩
    rw [Run.outcome_bind, Run.outcome_of, hreplace]
    rfl

theorem update_of_error {network : Network} {e : Failure}
    (h : (read t path >>= network.configure).outcome = .error e) :
    update network t path = (read t path >>= network.configure, t) := by
  unfold update
  simp only [h]

theorem update_of_ok {network : Network} {c : Configuration}
    (h : (read t path >>= network.configure).outcome = .ok c) :
    (update network t path).2 = (write t path c).2 ∧
      (update network t path).1.outcome = (write t path c).1.outcome.map fun _ => c := by
  unfold update
  simp only [h, true_and]
  rw [Run.outcome_bind, h]
  show ((write t path c).1 >>= fun _ => _ : Run Failure Configuration).outcome = _
  rw [Run.outcome_bind]
  cases (write t path c).1.outcome <;> rfl

/-- **An update succeeds as a whole or changes nothing.** When it succeeds, the file is replaced by
the configuration that it came to. -/
theorem update_cases (t : FileTree) (path : String) (network : Network) :
    (∃ e, (update network t path).1.outcome = .error e ∧ (update network t path).2 = t) ∨
      ∃ c fresh, (read t path).outcome = .ok c ∧ Refreshes network c fresh ∧
        (update network t path).1.outcome = .ok fresh ∧
        t.ReplacedAt path fresh.fileText.toUTF8 (update network t path).2 := by
  cases hrefreshing : (read t path >>= network.configure).outcome with
  | error e =>
    left
    rw [update_of_error hrefreshing]
    exact ⟨e, hrefreshing, rfl⟩
  | ok fresh =>
    obtain ⟨hafter, hrun⟩ := update_of_ok hrefreshing
    rw [Run.outcome_bind] at hrefreshing
    obtain ⟨c, hc, hconfigure⟩ := bind_eq_ok_iff.mp hrefreshing
    rw [hafter, hrun]
    -- The configuration is known by now; what is left to fail is the writing.
    rcases write_cases t path fresh with ⟨e, -, hwrite, hsame⟩ | ⟨hwrite, hreplaced⟩
    · left
      rw [hwrite]
      exact ⟨_, rfl, hsame⟩
    · right
      rw [hwrite]
      exact ⟨c, fresh, hc, (Configuration.outcome_configure_eq_ok_iff.mp hconfigure).2, rfl,
        hreplaced⟩

/-! ### Many updates -/

/-- An update that was made: the databases in reach at the time, and what it came to. -/
structure Call where
  network : Network
  run : Run Failure Configuration

/-- The update failed. -/
def Call.Failed (call : Call) : Prop := ∃ e, call.run.outcome = .error e

/-- Updates one file again and again, each time with other databases in reach. Returns the updates
that were made and the tree afterwards. -/
def updates (path : String) : List Network → FileTree → List Call × FileTree
  | [], t => ([], t)
  | network :: networks, t =>
    let (run, after) := update network t path
    let (calls, last) := updates path networks after
    (⟨network, run⟩ :: calls, last)

theorem updates_cons (path : String) (network : Network) (networks : List Network)
    (t : FileTree) : updates path (network :: networks) t =
      (⟨network, (update network t path).1⟩ ::
          (updates path networks (update network t path).2).1,
        (updates path networks (update network t path).2).2) :=
  rfl

/-- Updates that all fail change nothing. -/
theorem updates_of_failed {networks : List Network}
    (h : ∀ call ∈ (updates path networks t).1, call.Failed) : (updates path networks t).2 = t := by
  induction networks generalizing t with
  | nil => rfl
  | cons network networks ih =>
    rw [updates_cons] at h ⊢
    obtain ⟨e, hrun⟩ := h ⟨network, (update network t path).1⟩ List.mem_cons_self
    have hsame : (update network t path).2 = t := by
      rcases update_cases t path network with ⟨-, -, hsame⟩ | ⟨_, _, -, -, hok, -⟩
      · exact hsame
      · rw [hok] at hrun
        cases hrun
    have hrest := ih fun call hcall => h call (List.mem_cons_of_mem _ hcall)
    exact hrest.trans hsame

/-- The file reads as a configuration in which the user said the same as in `raw`. -/
def Keeps (t : FileTree) (path : String) (raw : Configuration) : Prop :=
  ∃ c, (read t path).outcome = .ok c ∧ c.SameUser raw

/-- **An update keeps the invariant,** and if it succeeds it comes to what a refresh of the first
configuration comes to. -/
theorem Keeps.update {raw : Configuration} (h : Keeps t path raw) (network : Network) :
    Keeps (update network t path).2 path raw ∧ ∀ c, (update network t path).1.outcome = .ok c →
      Refreshes network raw c ∧
        (update network t path).2.content path = .ok c.fileText.toUTF8 := by
  obtain ⟨d, hd, huser⟩ := h
  rcases update_cases t path network with
    ⟨e, hrun, hsame⟩ | ⟨d', fresh, hd', hfresh, hrun, hreplaced⟩
  · rw [hrun, hsame]
    exact ⟨⟨d, hd, huser⟩, nofun⟩
  · obtain rfl : d = d' := Except.ok.inj (hd.symm.trans hd')
    have hraw := huser.refreshes hfresh
    refine ⟨⟨fresh, outcome_read_of_content hreplaced.content_eq, hraw.sameUser⟩, fun c hc => ?_⟩
    obtain rfl := Except.ok.inj (hrun.symm.trans hc)
    exact ⟨hraw, hreplaced.content_eq⟩

/-- **The last success counts.** What is in the file after any number of updates is what the last
one that succeeded came to. -/
theorem Keeps.updates {raw : Configuration} (h : Keeps t path raw) (networks : List Network) :
    Keeps (updates path networks t).2 path raw ∧
      ∀ earlier call later c, (updates path networks t).1 = earlier ++ call :: later →
        call.run.outcome = .ok c → (∀ other ∈ later, other.Failed) →
          Refreshes call.network raw c ∧
            (updates path networks t).2.content path = .ok c.fileText.toUTF8 := by
  induction networks generalizing t with
  | nil =>
    refine ⟨h, fun earlier call later c hcalls => ?_⟩
    cases earlier <;> cases hcalls
  | cons network networks ih =>
    -- The invariant holds again after the first update; the others start from there.
    obtain ⟨hkeeps, hstep⟩ := h.update network
    obtain ⟨hkeeps', hlast⟩ := ih hkeeps
    rw [updates_cons]
    refine ⟨hkeeps', fun earlier call later c hcalls hc hfailed => ?_⟩
    cases earlier with
    | nil =>
      -- The first update is the last that succeeded: the others leave the file as it made it.
      obtain ⟨rfl, rfl⟩ := List.cons.inj hcalls
      obtain ⟨hfresh, hcontent⟩ := hstep c hc
      rw [← updates_of_failed hfailed] at hcontent
      exact ⟨hfresh, hcontent⟩
    | cons first earlier =>
      obtain ⟨-, hrest⟩ := List.cons.inj hcalls
      exact hlast earlier call later c hrest hc hfailed

end Deployment

end SchemaSurvey
