/-
  `Record` — an object is written and read field by field.

  Of an object's fields the first is written in front of the others, or left out; and the others are
  read as if they were alone, whether the first has a member or not. What becomes of a record is
  found from these steps by induction on its fields.
-/
import SchemaSurvey.Json.Record

namespace SchemaSurvey.Json.Fields

/-! ### Writing -/

/-- Members are written under the names of fields. -/
theorem keys_write {σ : Type} {fs : Fields σ} {r : σ} : ∀ m ∈ fs.write r, m.1 ∈ fs.names := by
  induction fs with
  | nil => exact fun m hm => absurd hm List.not_mem_nil
  | cons field rest ih =>
    obtain ⟨a, others⟩ := r
    intro m hm
    rw [write] at hm
    split at hm
    · exact List.mem_cons_of_mem _ (ih m hm)
    · rcases List.mem_cons.mp hm with rfl | hm
      · exact List.mem_cons_self
      · exact List.mem_cons_of_mem _ (ih m hm)

section

variable {α σ : Type} {field : RecordField α} {rest : Fields σ} {a : α} {others : σ}

theorem of_write_eq_cons (hfresh : field.name ∉ rest.names) {v : Json} {ms : List (String × Json)}
    (h : (cons field rest).write (a, others) = (field.name, v) :: ms) :
    v = field.codec.write a ∧ ms = rest.write others := by
  rw [write] at h
  split at h
  · -- The other fields write no member of this name.
    have hmem : (field.name, v) ∈ rest.write others := h ▸ List.mem_cons_self
    exact absurd (keys_write _ hmem) hfresh
  · obtain ⟨hhead, hrest⟩ := List.cons.inj h
    exact ⟨(Prod.mk.inj hhead).2.symm, hrest.symm⟩

theorem of_not_mem_write (h : ∀ m ∈ (cons field rest).write (a, others), m.1 ≠ field.name) :
    field.isOmitted a = true ∧ (cons field rest).write (a, others) = rest.write others := by
  rw [write] at h ⊢
  split at h
  · rename_i homitted
    exact ⟨homitted, if_pos homitted⟩
  · exact absurd rfl (h _ List.mem_cons_self)

end

/-! ### Reading -/

/-- Members of other names pass by the first field. -/
theorem takeAll_cons {depth : Nat} {α σ : Type} {field : RecordField α} {rest : Fields σ}
    (x : Option α) {ms : List Member}
    (hms : ∀ m ∈ ms, ∃ name, name ≠ field.name ∧ m.1 = .clear name) (slots : rest.Slots) :
    (cons field rest).takeAll depth ms (x, slots) =
      (rest.takeAll depth ms slots).map ((x, ·)) := by
  induction ms generalizing slots with
  | nil => rfl
  | cons m ms ih =>
    obtain ⟨key, t⟩ := m
    obtain ⟨name, hname, hkey⟩ := hms (key, t) List.mem_cons_self
    obtain rfl : key = .clear name := hkey
    have hpass : (cons field rest).take depth name t (x, slots) =
        (rest.take depth name t slots).map fun taken => taken.map ((x, ·)) := by
      simp only [take, if_neg hname.symm]
      rfl
    have ih := ih fun m hm => hms m (List.mem_cons_of_mem _ hm)
    simp only [takeAll, Reading.clear, bind, Except.bind, hpass]
    cases rest.take depth name t slots with
    | error fault => rfl
    | ok taken =>
      cases taken with
      | none =>
        cases t.skip with
        | error fault => rfl
        | ok _ => exact ih slots
      | some slots' => exact ih slots'

section

variable {depth : Nat} {α σ : Type} {field : RecordField α} {rest : Fields σ} {ms : List Member}
  (hms : ∀ m ∈ ms, ∃ name, name ≠ field.name ∧ m.1 = .clear name)

include hms

/-- A member of the first field is read, and then the others as if they were alone. -/
theorem ofMembers_cons_of_present (t : Tree) :
    (cons field rest).ofMembers depth ((.clear field.name, t) :: ms) .closed =
      field.codec.read depth t >>= fun a => (rest.ofMembers depth ms .closed).map ((a, ·)) := by
  simp only [ofMembers, takeAll, take, blank, Reading.clear, if_true, bind, Except.bind]
  cases field.codec.read depth t with
  | error fault => rfl
  | ok a =>
    simp only [Except.map]
    rw [takeAll_cons (some a) hms rest.blank]
    cases rest.takeAll depth ms rest.blank <;> rfl

/-- A field without a member has the value of a field that is left out. -/
theorem ofMembers_cons_of_absent {a : α} (habsent : field.absent? = some a) :
    (cons field rest).ofMembers depth ms .closed =
      (rest.ofMembers depth ms .closed).map ((a, ·)) := by
  simp only [ofMembers, blank, bind, Except.bind]
  rw [takeAll_cons none hms rest.blank]
  cases rest.takeAll depth ms rest.blank with
  | error fault => rfl
  | ok slots =>
    simp only [Except.map, Ending.ofMembers, finish, Option.none_or, habsent]

/-- A required field without a member is missed once the others have been read. -/
theorem ofMembers_cons_of_missing (hrequired : field.absent? = none) {r : σ}
    (hrest : rest.ofMembers depth ms .closed = .ok r) :
    (cons field rest).ofMembers depth ms .closed = .error (.missingField field.name) := by
  simp only [ofMembers, blank, bind, Except.bind] at hrest ⊢
  rw [takeAll_cons none hms rest.blank]
  cases htake : rest.takeAll depth ms rest.blank with
  | error fault =>
    rw [htake] at hrest
    cases hrest
  | ok slots => simp only [Except.map, Ending.ofMembers, finish, Option.none_or, hrequired]

end

end SchemaSurvey.Json.Fields
