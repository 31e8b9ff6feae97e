/-
  `Choice` — which of several rivals is chosen.

  Relations of one name, and overloads of one argument type and name, are rivals of which the least
  is kept. Both orders are total orders on whole records: they compare all fields, the kind of a
  relation by its letter, so two records that compare equal are the same record
  (`Relation.lawfulEqCmp_order`, `Overload.lawfulEqCmp_order`).

  The choice is made in one pass that keeps the lesser of what it has and what comes next. What it
  ends with is the least of all rivals (`Relation.get?_leastByName`,
  `AggregateCatalog.find?_ofOverloads`), a property of the set of rivals alone. It is also kept by
  maps that keep the order of rivals (`IsChoice.map`).
-/
import SchemaSurvey.Proofs.SortedMap.Building
import SchemaSurvey.Survey.Aggregate
import SchemaSurvey.Survey.Relation

namespace SchemaSurvey.Survey

/-! ### The least of a list -/

section

variable {α : Type} {order : α → α → Ordering} {l l' : List α} {p : α → Prop} {r s x : α}

/-- `r` is the least of those members of `l` that satisfy `p`. -/
structure IsLeastOf (order : α → α → Ordering) (l : List α) (p : α → Prop) (r : α) : Prop where
  mem : r ∈ l
  holds : p r
  isLE : ∀ s ∈ l, p s → (order r s).isLE = true

/-- `choice` is the least of those members of `l` that satisfy `p`; nothing, if none does. -/
def IsChoice (order : α → α → Ordering) (l : List α) (p : α → Prop) : Option α → Prop
  | none => ∀ s ∈ l, ¬ p s
  | some r => IsLeastOf order l p r

/-- The lesser of two; the first, if neither is. -/
def lesser (order : α → α → Ordering) (a b : α) : α := if order b a = .lt then b else a

/-- What a choice becomes when one more candidate comes. -/
def challenge (order : α → α → Ordering) (x : α) : Option α → α
  | none => x
  | some s => lesser order s x

theorem IsLeastOf.of_perm (h : IsLeastOf order l p r) (hl : l.Perm l') : IsLeastOf order l' p r :=
  ⟨hl.mem_iff.mp h.mem, h.holds, fun s hs => h.isLE s (hl.mem_iff.mpr hs)⟩

theorem isChoice_concat_of_not {choice : Option α} (h : IsChoice order l p choice) (hx : ¬ p x) :
    IsChoice order (l ++ [x]) p choice := by
  have mem_of : ∀ s ∈ l ++ [x], p s → s ∈ l := fun s hs hps => by
    rcases List.mem_append.mp hs with hs | hs
    · exact hs
    · exact absurd (List.mem_singleton.mp hs ▸ hps) hx
  cases choice with
  | none => exact fun s hs hps => h s (mem_of s hs hps) hps
  | some r =>
    exact ⟨List.mem_append_left _ h.mem, h.holds, fun s hs hps => h.isLE s (mem_of s hs hps) hps⟩

/-- A map that keeps the order of the candidates keeps the choice. -/
theorem IsChoice.map {β : Type} {order' : β → β → Ordering} {q : β → Prop} {f : α → β}
    {choice : Option α} (h : IsChoice order l p choice) (hq : ∀ s ∈ l, q (f s) ↔ p s)
    (hle : ∀ r ∈ l, ∀ s ∈ l, p r → p s → (order r s).isLE = true →
      (order' (f r) (f s)).isLE = true) : IsChoice order' (l.map f) q (choice.map f) := by
  cases choice with
  | none =>
    intro t ht hqt
    obtain ⟨s, hs, rfl⟩ := List.mem_map.mp ht
    exact h s hs ((hq s hs).mp hqt)
  | some r =>
    refine ⟨List.mem_map_of_mem h.mem, (hq r h.mem).mpr h.holds, fun t ht hqt => ?_⟩
    obtain ⟨s, hs, rfl⟩ := List.mem_map.mp ht
    have hps : p s := (hq s hs).mp hqt
    exact hle r h.mem s hs h.holds hps (h.isLE s hs hps)

variable [Std.TransCmp order]

theorem isLE_self : (order r r).isLE = true := by
  have h : order r r = .eq := Std.ReflCmp.compare_self
  rw [h]
  rfl

theorem isLE_lesser_left : (order (lesser order s x) s).isLE = true := by
  unfold lesser
  split
  · rename_i h
    rw [h]
    rfl
  · exact isLE_self

theorem isLE_lesser_right : (order (lesser order s x) x).isLE = true := by
  unfold lesser
  split
  · exact isLE_self
  · rename_i h
    have hswap : order s x = (order x s).swap := Std.OrientedCmp.eq_swap
    rw [hswap]
    revert h
    cases order x s <;> decide

theorem isChoice_concat {choice : Option α} (h : IsChoice order l p choice) (hx : p x) :
    IsChoice order (l ++ [x]) p (some (challenge order x choice)) := by
  cases choice with
  | none =>
    refine ⟨by simp [challenge], hx, fun s hs hps => ?_⟩
    rcases List.mem_append.mp hs with hs | hs
    · exact absurd hps (h s hs)
    · rw [List.mem_singleton.mp hs]
      exact isLE_self
  | some r =>
    have hcases : lesser order r x = x ∨ lesser order r x = r := by
      unfold lesser
      split <;> simp
    refine ⟨?_, ?_, fun s hs hps => ?_⟩
    · rcases hcases with h' | h' <;> simp [challenge, h', h.mem]
    · rcases hcases with h' | h' <;> simp [challenge, h', h.holds, hx]
    · rcases List.mem_append.mp hs with hs | hs
      · exact Std.TransCmp.isLE_trans isLE_lesser_left (h.isLE s hs hps)
      · rw [List.mem_singleton.mp hs]
        exact isLE_lesser_right

variable [Std.LawfulEqCmp order]

/-- **There is one least.** -/
theorem IsLeastOf.unique (hr : IsLeastOf order l p r) (hs : IsLeastOf order l p s) : r = s :=
  have h : order r s = .eq :=
    Std.OrientedCmp.isLE_antisymm (hr.isLE s hs.mem hs.holds) (hs.isLE r hr.mem hr.holds)
  Std.LawfulEqCmp.eq_of_compare h

/-- **A choice is the least.** -/
theorem IsChoice.eq_some_iff {choice : Option α} (h : IsChoice order l p choice) :
    choice = some r ↔ IsLeastOf order l p r := by
  cases choice with
  | none => exact ⟨nofun, fun hr => absurd hr.holds (h r hr.mem)⟩
  | some s => exact ⟨fun hsr => Option.some.inj hsr ▸ h, fun hr => congrArg some (h.unique hr)⟩

theorem IsChoice.unique {choice choice' : Option α} (h : IsChoice order l p choice)
    (h' : IsChoice order l p choice') : choice = choice' := by
  apply Option.ext
  intro r
  rw [h.eq_some_iff, h'.eq_some_iff]

end

/-! ### Relations of one name -/

theorem RelationKind.letter_injective {k l : RelationKind} (h : k.letter = l.letter) : k = l := by
  have hk := RelationKind.ofLetter?_letter k
  rw [h, RelationKind.ofLetter?_letter l] at hk
  exact (Option.some.inj hk).symm

namespace Relation

instance transCmp_order : Std.TransCmp order :=
  inferInstanceAs <| Std.TransCmp <| compareLex (compareOn name) <| compareLex (compareOn schema) <|
    compareLex (compareOn fun r : Relation => r.kind.letter) (compareOn oid)

instance lawfulEqCmp_order : Std.LawfulEqCmp order where
  compare_self := @Std.ReflCmp.compare_self _ order _
  eq_of_compare {a b} h := by
    obtain ⟨hname, h⟩ := Ordering.then_eq_eq.mp h
    obtain ⟨hschema, h⟩ := Ordering.then_eq_eq.mp h
    obtain ⟨hkind, hoid⟩ := Ordering.then_eq_eq.mp h
    obtain ⟨aoid, aschema, aname, akind⟩ := a
    obtain ⟨boid, bschema, bname, bkind⟩ := b
    obtain rfl : aname = bname := Std.LawfulEqOrd.eq_of_compare hname
    obtain rfl : aschema = bschema := Std.LawfulEqOrd.eq_of_compare hschema
    obtain rfl : akind = bkind :=
      RelationKind.letter_injective (Std.LawfulEqOrd.eq_of_compare hkind)
    obtain rfl : aoid = boid := Std.LawfulEqOrd.eq_of_compare hoid
    rfl

theorem leastByName_concat (l : List Relation) (x : Relation) :
    leastByName (l ++ [x]) = (leastByName l).insertWith x.name (challenge order x) := by
  rw [leastByName, List.foldl_append]
  simp only [List.foldl_cons, List.foldl_nil]
  congr 1
  funext found
  cases found <;> rfl

theorem isChoice_leastByName (l : List Relation) (n : String) :
    IsChoice order l (fun r => r.name = n) ((leastByName l).get? n) := by
  induction l using List.reverseRecOn with
  | nil => exact fun s hs => absurd hs (List.not_mem_nil)
  | append_singleton l x ih =>
    rw [leastByName_concat, SortedMap.insertWith, SortedMap.get?_insert]
    by_cases hn : n = x.name
    · rw [if_pos hn, ← hn]
      exact isChoice_concat ih hn.symm
    · rw [if_neg hn]
      exact isChoice_concat_of_not ih fun h => hn h.symm

/-- **A name stands for the least relation of that name.** -/
theorem get?_leastByName {l : List Relation} {n : String} {r : Relation} :
    (leastByName l).get? n = some r ↔ IsLeastOf order l (fun s => s.name = n) r :=
  (isChoice_leastByName l n).eq_some_iff

theorem leastByName_perm {l l' : List Relation} (h : l.Perm l') :
    leastByName l = leastByName l' := by
  apply SortedMap.ext_get?
  intro n
  apply Option.ext
  intro r
  rw [get?_leastByName, get?_leastByName]
  exact ⟨fun hr => hr.of_perm h, fun hr => hr.of_perm h.symm⟩

end Relation

/-! ### Overloads of one argument type and name -/

namespace Overload

instance transCmp_order : Std.TransCmp order :=
  inferInstanceAs <| Std.TransCmp <| compareLex (compareOn argumentType) <|
    compareLex (compareOn name) <| compareLex (compareOn returnType) <|
      compareLex (compareOn schema) (compareOn oid)

instance lawfulEqCmp_order : Std.LawfulEqCmp order where
  compare_self := @Std.ReflCmp.compare_self _ order _
  eq_of_compare {a b} h := by
    obtain ⟨hargument, h⟩ := Ordering.then_eq_eq.mp h
    obtain ⟨hname, h⟩ := Ordering.then_eq_eq.mp h
    obtain ⟨hreturn, h⟩ := Ordering.then_eq_eq.mp h
    obtain ⟨hschema, hoid⟩ := Ordering.then_eq_eq.mp h
    obtain ⟨aoid, aname, aschema, aargument, areturn⟩ := a
    obtain ⟨boid, bname, bschema, bargument, breturn⟩ := b
    obtain rfl : aargument = bargument := Std.LawfulEqOrd.eq_of_compare hargument
    obtain rfl : aname = bname := Std.LawfulEqOrd.eq_of_compare hname
    obtain rfl : areturn = breturn := Std.LawfulEqOrd.eq_of_compare hreturn
    obtain rfl : aschema = bschema := Std.LawfulEqOrd.eq_of_compare hschema
    obtain rfl : aoid = boid := Std.LawfulEqOrd.eq_of_compare hoid
    rfl

end Overload

namespace AggregateCatalog

/-- The overload listed under an argument type and a name. -/
def find? (catalog : AggregateCatalog) (type : TypeName) (name : String) : Option Overload :=
  (catalog.get? type).bind fun byName => byName.get? name

theorem ofOverloads_concat (l : List Overload) (x : Overload) :
    ofOverloads (l ++ [x]) = (ofOverloads l).add x := by
  rw [ofOverloads, List.foldl_append]
  rfl

theorem add_eq_insertWith (catalog : AggregateCatalog) (x : Overload) :
    catalog.add x = catalog.insertWith x.argumentType fun byName =>
      (byName.getD ∅).insertWith x.name (challenge Overload.order x) := by
  rw [add]
  congr 1
  funext byName
  congr 1
  funext found
  cases found <;> rfl

theorem contains_ofOverloads {l : List Overload} {type : TypeName} :
    (ofOverloads l).contains type = true ↔ ∃ o ∈ l, o.argumentType = type := by
  rw [SortedMap.contains_iff]
  induction l using List.reverseRecOn with
  | nil => simp [ofOverloads, EmptyCollection.emptyCollection]
  | append_singleton l x ih =>
    rw [ofOverloads_concat, add, SortedMap.insertWith, SortedMap.get?_insert]
    by_cases htype : type = x.argumentType
    · rw [if_pos htype]
      exact ⟨fun _ => ⟨x, by simp, htype.symm⟩, fun _ => ⟨_, rfl⟩⟩
    · rw [if_neg htype, ih]
      constructor
      · rintro ⟨o, ho, h⟩
        exact ⟨o, List.mem_append_left _ ho, h⟩
      · rintro ⟨o, ho, h⟩
        rcases List.mem_append.mp ho with ho | ho
        · exact ⟨o, ho, h⟩
        · rw [List.mem_singleton.mp ho] at h
          exact absurd h.symm htype

/-- One overload is chosen anew for each that is added. -/
theorem find?_add (catalog : AggregateCatalog) (x : Overload) (type : TypeName) (name : String) :
    (catalog.add x).find? type name =
      if type = x.argumentType ∧ name = x.name then
        some (challenge Overload.order x (catalog.find? type name))
      else catalog.find? type name := by
  rw [find?, add_eq_insertWith, SortedMap.insertWith, SortedMap.get?_insert]
  by_cases htype : type = x.argumentType
  · rw [if_pos htype, Option.bind_some, SortedMap.insertWith, SortedMap.get?_insert, ← htype]
    -- An argument type that is not listed yet has no overloads.
    have old : ((catalog.get? type).getD ∅).get? name = catalog.find? type name := by
      rw [find?]
      cases catalog.get? type <;> rfl
    by_cases hname : name = x.name
    · rw [if_pos hname, if_pos ⟨rfl, hname⟩, ← hname, old]
    · rw [if_neg hname, if_neg fun h => hname h.2, old]
  · rw [if_neg htype, if_neg fun h => htype h.1, find?]

theorem isChoice_find? (l : List Overload) (type : TypeName) (name : String) :
    IsChoice Overload.order l (fun o => o.argumentType = type ∧ o.name = name)
      ((ofOverloads l).find? type name) := by
  induction l using List.reverseRecOn with
  | nil => exact fun s hs => absurd hs (List.not_mem_nil)
  | append_singleton l x ih =>
    rw [ofOverloads_concat, find?_add]
    by_cases h : type = x.argumentType ∧ name = x.name
    · rw [if_pos h]
      exact isChoice_concat ih ⟨h.1.symm, h.2.symm⟩
    · rw [if_neg h]
      exact isChoice_concat_of_not ih fun hx => h ⟨hx.1.symm, hx.2.symm⟩

/-- **The overload listed is the least of its argument type and name.** -/
theorem find?_ofOverloads {l : List Overload} {type : TypeName} {name : String} {o : Overload} :
    (ofOverloads l).find? type name = some o ↔
      IsLeastOf Overload.order l (fun p => p.argumentType = type ∧ p.name = name) o :=
  (isChoice_find? l type name).eq_some_iff

/-- Catalogs of the same argument types that find the same overloads are the same. -/
theorem ext_find? {c d : AggregateCatalog} (hcontains : ∀ type, c.contains type = d.contains type)
    (hfind : ∀ type name, c.find? type name = d.find? type name) : c = d := by
  apply SortedMap.ext_get?
  intro type
  have hc := hcontains type
  have hf := hfind type
  simp only [SortedMap.contains, find?] at hc hf
  cases hct : c.get? type with
  | none =>
    rw [hct] at hc
    exact (Option.isSome_eq_false_iff.mp hc.symm |> Option.isNone_iff_eq_none.mp).symm
  | some m =>
    rw [hct] at hc hf
    obtain ⟨n, hn⟩ := Option.isSome_iff_exists.mp hc.symm
    rw [hn] at hf ⊢
    exact congrArg some (SortedMap.ext_get? hf)

theorem ofOverloads_perm {l l' : List Overload} (h : l.Perm l') :
    ofOverloads l = ofOverloads l' := by
  apply ext_find?
  · intro type
    rw [Bool.eq_iff_iff, contains_ofOverloads, contains_ofOverloads]
    simp only [h.mem_iff]
  · intro type name
    apply Option.ext
    intro o
    rw [find?_ofOverloads, find?_ofOverloads]
    exact ⟨fun ho => ho.of_perm h, fun ho => ho.of_perm h.symm⟩

end AggregateCatalog

end SchemaSurvey.Survey
