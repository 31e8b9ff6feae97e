/-
  `Replace` — a file is replaced as a whole or not at all.

  Replacing takes three steps: a temporary file is made, it takes the place of the old file, and if
  it cannot it is removed again. Seen from outside there is one step or none. Either a file is put
  at the place that the path means, and can be read there afterwards, or the tree is what it was
  (`replace_cases`).

  A temporary file is no directory, and neither is what a file replaces, so paths lead to the same
  places at every moment (`walk_mono`).
-/
import Mathlib.Tactic.SplitIfs
import SchemaSurvey.FileTree.Access
import SchemaSurvey.Proofs.Outcome

namespace SchemaSurvey.FileTree

variable {t u : FileTree} {path : String} {place : Place}

/-! ### Following paths -/

theorem directory_eq_ok_iff {place : Place} {d : Directory t} :
    t.directory place = .ok d ↔ d.val = place := by
  unfold directory
  split
  · rename_i h
    constructor
    · intro heq
      rw [← Except.ok.inj heq]
    · intro heq
      exact congrArg Except.ok (Subtype.ext heq.symm)
  · rename_i h
    refine ⟨nofun, fun heq => ?_⟩
    rw [← heq, d.property] at h
    cases h
  · rename_i h
    refine ⟨nofun, fun heq => ?_⟩
    rw [← heq, d.property] at h
    cases h

/-- Where a name leads from a directory. -/
def Place.along (place : Place) (name : String) : Place :=
  if isIdle name then place else if name = ".." then place.dropLast else place ++ [name]

theorem follow_eq_ok_iff {place next : Place} {name : String} :
    t.follow place name = .ok next ↔ t.get? place = some .directory ∧ place.along name = next := by
  have hthen : ∀ d : Directory t, (if isIdle name then .ok place
      else if name = ".." then .ok place.dropLast else .ok (place ++ [name]) :
        Except SystemError Place) = .ok (place.along name) := by
    intro _
    unfold Place.along
    split_ifs <;> rfl
  unfold follow
  rw [bind_eq_ok_iff]
  constructor
  · rintro ⟨d, hd, hnext⟩
    have hplace := directory_eq_ok_iff.mp hd
    rw [hthen d] at hnext
    exact ⟨hplace ▸ d.property, Except.ok.inj hnext⟩
  · rintro ⟨hplace, rfl⟩
    exact ⟨⟨place, hplace⟩, directory_eq_ok_iff.mpr rfl, hthen ⟨place, hplace⟩⟩

/-- **Where directories stay, paths lead to the same places.** -/
theorem walk_mono (h : ∀ place, t.get? place = some .directory → u.get? place = some .directory)
    {names : List String} {place : Place} (hwalk : t.walk names = .ok place) :
    u.walk names = .ok place := by
  -- The induction is on the names, so the start has to be any place.
  suffices hfrom : ∀ start, names.foldlM t.follow start = .ok place →
      names.foldlM u.follow start = .ok place from hfrom [] hwalk
  clear hwalk
  induction names with
  | nil => exact fun _ hwalk => hwalk
  | cons name names ih =>
    intro start hwalk
    rw [List.foldlM_cons] at hwalk ⊢
    obtain ⟨next, hnext, hwalk⟩ := bind_eq_ok_iff.mp hwalk
    obtain ⟨hstart, halong⟩ := follow_eq_ok_iff.mp hnext
    exact bind_eq_ok_iff.mpr ⟨next, follow_eq_ok_iff.mpr ⟨h start hstart, halong⟩, ih next hwalk⟩

theorem walk_concat {names : List String} {name : String} {place next : Place}
    (hwalk : t.walk names = .ok place) (hnext : t.follow place name = .ok next) :
    t.walk (names ++ [name]) = .ok next := by
  rw [walk, List.foldlM_append, bind_eq_ok_iff]
  refine ⟨place, hwalk, ?_⟩
  rw [List.foldlM_cons, bind_eq_ok_iff]
  exact ⟨next, hnext, rfl⟩

/-! ### Targets -/

/-- What a path says that a file can be put at: the names above lead to a directory, and the last
name is that of something in it. -/
structure Means (t : FileTree) (path : String) (place : Place) : Prop where
  valid : checkPath path = .ok ()
  split : ∃ above name directory, names path = above ++ [name] ∧ t.walk above = .ok directory ∧
    t.get? directory = some .directory ∧ isIdle name = false ∧ name ≠ ".." ∧
    place = directory ++ [name]

theorem means_of_target {path : String} {target : Target t} (h : t.target path = .ok target) :
    t.Means path target.place := by
  unfold FileTree.target at h
  obtain ⟨_, hvalid, hrest⟩ := bind_eq_ok_iff.mp h
  obtain ⟨place, hwalk, hrest'⟩ := bind_eq_ok_iff.mp hrest
  obtain ⟨directory, hdirectory, htarget⟩ := bind_eq_ok_iff.mp hrest'
  clear h hrest hrest'
  split at htarget
  · cases htarget
  · rename_i name hhead
    split_ifs at htarget with hdots hslash
    obtain rfl := Except.ok.inj htarget
    obtain ⟨hdot, hdots⟩ := not_or.mp hdots
    have hspelled := Decidable.not_not.mp hslash
    have hne : name ≠ "" := by
      have hnot := List.head?_dropWhile_not (fun name => decide (name = "")) (names path).reverse
      rw [hhead] at hnot
      simpa using hnot
    rw [hspelled] at hhead hwalk
    -- Without a slash at its end, the last name of the path is the one that is spelled.
    have hnames : names path = (names path).reverse.tail.reverse ++ [name] := by
      obtain ⟨rest, hrest⟩ := List.head?_eq_some_iff.mp hhead
      rw [hrest, List.tail_cons, ← List.reverse_cons, ← hrest, List.reverse_reverse]
    rw [← directory_eq_ok_iff.mp hdirectory] at hwalk
    refine ⟨hvalid, _, name, directory, hnames, hwalk, directory.property, ?_, hdots, rfl⟩
    simp [isIdle, hne, hdot]

/-- **A place that a path means can be given a file,** unless it is a directory. -/
theorem Means.exists_target (h : t.Means path place) (hplace : t.get? place ≠ some .directory) :
    ∃ target : Target t, t.target path = .ok target := by
  obtain ⟨hvalid, above, name, directory, hnames, hwalk, hdirectory, hidle, hdots, rfl⟩ := h
  obtain ⟨hne, hdot⟩ : name ≠ "" ∧ name ≠ "." := by simpa [isIdle] using hidle
  have hreversed : (names path).reverse = name :: above.reverse := by
    rw [hnames, List.reverse_append]
    rfl
  have hspelled : (name :: above.reverse).dropWhile (fun name => decide (name = "")) =
      name :: above.reverse :=
    List.dropWhile_cons_of_neg (by simpa using hne)
  have hdirectory' : t.directory directory = .ok ⟨directory, hdirectory⟩ :=
    directory_eq_ok_iff.mpr rfl
  refine ⟨{ directory := ⟨directory, hdirectory⟩, name, isFree := hplace }, ?_⟩
  unfold FileTree.target
  simp only [hreversed, hspelled, List.tail_cons, List.reverse_reverse, List.head?_cons, hvalid,
    hwalk, hdirectory', bind, Except.bind]
  rw [if_neg (not_or.mpr ⟨hdot, hdots⟩), if_neg (not_not_intro rfl), dif_neg hplace]

theorem Means.mono (h : t.Means path place)
    (hdirectories : ∀ place, t.get? place = some .directory → u.get? place = some .directory) :
    u.Means path place := by
  obtain ⟨hvalid, above, name, directory, hnames, hwalk, hdirectory, hname⟩ := h
  exact ⟨hvalid, above, name, directory, hnames, walk_mono hdirectories hwalk,
    hdirectories directory hdirectory, hname⟩

/-- **A file that a path means can be read at that path.** -/
theorem Means.content_eq (h : t.Means path place) {content : ByteArray}
    (hfile : t.get? place = some (.file content)) : t.content path = .ok content := by
  obtain ⟨hvalid, above, name, directory, hnames, hwalk, hdirectory, hidle, hdots, rfl⟩ := h
  have hlast : t.follow directory name = .ok (directory ++ [name]) := by
    refine follow_eq_ok_iff.mpr ⟨hdirectory, ?_⟩
    rw [Place.along, hidle, if_neg Bool.false_ne_true, if_neg hdots]
  rw [FileTree.content, bind_eq_ok_iff]
  refine ⟨(), hvalid, bind_eq_ok_iff.mpr ⟨directory ++ [name], ?_, ?_⟩⟩
  · rw [hnames]
    exact walk_concat hwalk hlast
  · rw [hfile]

/-! ### Temporary files -/

section

variable {temporary : Target t} {content : ByteArray}

theorem get?_put_self (target : Target t) (e : Entry) :
    (t.put target e).get? target.place = some e := by
  rw [get?_put, if_pos rfl]

/-- Putting a file somewhere leaves the directories as they are. -/
theorem directory_put_iff :
    (t.put temporary (.file content)).get? place = some .directory ↔
      t.get? place = some .directory := by
  rw [get?_put]
  split_ifs with h
  · refine ⟨nofun, fun hdirectory => ?_⟩
    rw [h] at hdirectory
    exact absurd hdirectory temporary.isFree
  · exact Iff.rfl

/-- A temporary file leaves no trace when it is removed. -/
theorem remove_put (hfree : t.get? temporary.place = none) :
    (t.put temporary (.file content)).remove temporary.place = t := by
  apply ext_get?
  intro place
  rw [get?_remove (get?_put_self temporary _), get?_put]
  split_ifs with h
  · rw [h, hfree]
  · rfl

/-- What can be given a new entry beside a temporary file can be given one without it. -/
theorem exists_target (target : Target (t.put temporary (.file content))) :
    ∃ target' : Target t, target'.place = target.place :=
  ⟨{ directory := ⟨target.directory, directory_put_iff.mp target.directory.property⟩
     name := target.name
     isFree := fun h => target.isFree (directory_put_iff.mpr h) }, rfl⟩

/-- Nor does it leave a trace when it takes another place, even its own. -/
theorem place_put (hfree : t.get? temporary.place = none)
    (target : Target (t.put temporary (.file content))) (target' : Target t)
    (hplace : target'.place = target.place) :
    (if target.place = temporary.place then
        (t.put temporary (.file content)).put target (.file content)
      else ((t.put temporary (.file content)).put target (.file content)).remove temporary.place) =
      t.put target' (.file content) := by
  apply ext_get?
  intro place
  split_ifs with hsame
  · rw [get?_put, get?_put, get?_put, hplace, hsame]
    split_ifs <;> rfl
  · have htemporary : ((t.put temporary (.file content)).put target (.file content)).get?
        temporary.place = some (.file content) := by
      rw [get?_put, if_neg (Ne.symm hsame), get?_put_self]
    rw [get?_remove htemporary, get?_put, get?_put, get?_put, hplace]
    split_ifs with h₁ h₂ h₂
    · exact absurd (h₂.symm.trans h₁) hsame
    · rw [h₁, hfree]
    · rfl
    · rfl

end

/-! ### Replacing -/

/-- **A file is replaced as a whole or not at all:** either a file is put at the place that the path
means and nothing else changes, or nothing changes. -/
theorem replace_cases (t : FileTree) (path : String) (content : ByteArray) :
    (∃ e, t.replace path content = (.error e, t)) ∨
      ∃ target : Target t, t.replace path content = (.ok (), t.put target (.file content)) ∧
        t.Means path target.place := by
  unfold replace
  cases t.workplace path with
  | error e => exact .inl ⟨e, rfl⟩
  | ok directory =>
    have hfree : t.get? (t.temporary path directory).place = none :=
      get?_temporaryName t path directory
    simp only [rename, get?_put_self]
    -- The temporary file is there by now. Either it is moved, or it is removed again.
    cases htarget : (t.put (t.temporary path directory) (.file content)).target path with
    | error e =>
      refine .inl ⟨e, ?_⟩
      show (Except.error e, _) = _
      rw [remove_put hfree]
    | ok target =>
      obtain ⟨target', hplace⟩ := exists_target target
      refine .inr ⟨target', ?_, ?_⟩
      · show (Except.ok (), _) = _
        rw [place_put hfree target target' hplace]
      · rw [hplace]
        exact (means_of_target htarget).mono fun _ => directory_put_iff.mp

/-- A file that holds `content` stands at the place that the path means, and is read at that path;
everywhere else there is what there was. -/
structure ReplacedAt (t : FileTree) (path : String) (content : ByteArray) (after : FileTree) :
    Prop where
  content_eq : after.content path = .ok content
  only : ∃ place, t.Means path place ∧ after.get? place = some (.file content) ∧
    ∀ other, other ≠ place → after.get? other = t.get? other

/-- **What a file is replaced by can be read at its path,** and nothing else has changed. -/
theorem replacedAt_of_replace {content : ByteArray} (h : (t.replace path content).1 = .ok ()) :
    t.ReplacedAt path content (t.replace path content).2 := by
  rcases replace_cases t path content with ⟨e, heq⟩ | ⟨target, heq, hmeans⟩
  · rw [heq] at h
    cases h
  · rw [heq]
    refine ⟨?_, target.place, hmeans, get?_put_self target _, fun other hother => ?_⟩
    · exact (hmeans.mono fun _ => directory_put_iff.mpr).content_eq (get?_put_self target _)
    · rw [get?_put, if_neg hother]

/-- A file that cannot be replaced leaves the tree as it was. -/
theorem replace_of_error {content : ByteArray} {e : SystemError}
    (h : (t.replace path content).1 = .error e) : (t.replace path content).2 = t := by
  rcases replace_cases t path content with ⟨e', heq⟩ | ⟨target, heq, -⟩
  · rw [heq]
  · rw [heq] at h
    cases h

end SchemaSurvey.FileTree
