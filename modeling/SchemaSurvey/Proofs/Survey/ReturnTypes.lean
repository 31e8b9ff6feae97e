/-
  `ReturnTypes` — what the document says of an aggregate.

  Overloads of one argument type and name are rivals, and the document only gives the return type of
  the one that is chosen. Rivals are compared by return type before schema and oid, so this is the
  least return type of any of them (`AggregateCatalog.isLE_returnType`). Which schemas and oids the
  overloads have does not show: the return types depend on the signatures that occur among the
  overloads, and on nothing else (`AggregateCatalog.returnTypes_ofOverloads_congr`).
-/
import SchemaSurvey.Proofs.Survey.Choice
import SchemaSurvey.Survey.Basic

namespace SchemaSurvey

namespace Survey

namespace Overload

/-- Argument type, name and return type: what the document can show of an overload. -/
def signature (o : Overload) : TypeName × String × TypeName := (o.argumentType, o.name, o.returnType)

theorem mem_map_signature {l : List Overload} {type result : TypeName} {name : String} :
    (type, name, result) ∈ l.map signature ↔
      ∃ o ∈ l, (o.argumentType = type ∧ o.name = name) ∧ o.returnType = result := by
  rw [List.mem_map]
  refine exists_congr fun o => and_congr_right fun _ => ?_
  rw [signature, Prod.mk.injEq, Prod.mk.injEq, and_assoc]

/-- Among rivals a lesser overload has a lesser return type, or the same. -/
theorem isLE_returnType {a b : Overload} (hargument : a.argumentType = b.argumentType)
    (hname : a.name = b.name) (h : (a.order b).isLE = true) :
    (compare a.returnType b.returnType).isLE = true := by
  have hargument_eq : compare a.argumentType b.argumentType = .eq := by
    rw [hargument]
    exact Std.ReflCmp.compare_self
  have hname_eq : compare a.name b.name = .eq := by
    rw [hname]
    exact Std.ReflCmp.compare_self
  rw [order, hargument_eq, hname_eq, Ordering.eq_then, Ordering.eq_then] at h
  exact (Ordering.isLE_then_iff_and.mp h).1

end Overload

namespace AggregateCatalog

variable {l l' : List Overload} {c d : AggregateCatalog} {type : TypeName} {name : String}
  {o p : Overload}

/-- **The return type listed is the least** of any overload with this argument type and name. -/
theorem isLE_returnType (ho : (ofOverloads l).find? type name = some o) (hp : p ∈ l)
    (hrival : p.argumentType = type ∧ p.name = name) :
    (compare o.returnType p.returnType).isLE = true := by
  have hleast := find?_ofOverloads.mp ho
  obtain ⟨hargument, hname⟩ := hleast.holds
  exact Overload.isLE_returnType (hargument.trans hrival.1.symm) (hname.trans hrival.2.symm)
    (hleast.isLE p hp hrival)

/-- A signature that occurs is answered. -/
theorem exists_find?_ofOverloads (hp : p ∈ l) (hrival : p.argumentType = type ∧ p.name = name) :
    ∃ o, (ofOverloads l).find? type name = some o := by
  have hchoice := isChoice_find? l type name
  cases hfind : (ofOverloads l).find? type name with
  | some o => exact ⟨o, rfl⟩
  | none =>
    rw [hfind] at hchoice
    exact absurd hrival (hchoice p hp)

/-- More signatures can only lower a return type. -/
theorem exists_returnType_le (h : ∀ x ∈ l.map Overload.signature, x ∈ l'.map Overload.signature)
    (ho : (ofOverloads l).find? type name = some o) :
    ∃ o', (ofOverloads l').find? type name = some o' ∧
      (compare o'.returnType o.returnType).isLE = true := by
  have hleast := find?_ofOverloads.mp ho
  have hsignature : (type, name, o.returnType) ∈ l.map Overload.signature :=
    Overload.mem_map_signature.mpr ⟨o, hleast.mem, hleast.holds, rfl⟩
  obtain ⟨p, hp, hrival, hresult⟩ := Overload.mem_map_signature.mp (h _ hsignature)
  obtain ⟨o', ho'⟩ := exists_find?_ofOverloads hp hrival
  exact ⟨o', ho', hresult ▸ isLE_returnType ho' hp hrival⟩

/-- Where the same signatures occur, the same return types are found. -/
theorem map_returnType_find?_congr (h : ∀ x, x ∈ l.map Overload.signature ↔
      x ∈ l'.map Overload.signature) (type : TypeName) (name : String) :
    ((ofOverloads l).find? type name).map Overload.returnType =
      ((ofOverloads l').find? type name).map Overload.returnType := by
  have hto : ∀ x ∈ l.map Overload.signature, x ∈ l'.map Overload.signature := fun x => (h x).mp
  have hfrom : ∀ x ∈ l'.map Overload.signature, x ∈ l.map Overload.signature := fun x => (h x).mpr
  cases hfind : (ofOverloads l).find? type name with
  | none =>
    cases hfind' : (ofOverloads l').find? type name with
    | none => rfl
    | some o' =>
      obtain ⟨o, ho, -⟩ := exists_returnType_le hfrom hfind'
      rw [hfind] at ho
      cases ho
  | some o =>
    -- Each of the two return types is no greater than the other.
    obtain ⟨o', ho', hle⟩ := exists_returnType_le hto hfind
    obtain ⟨o'', ho'', hge⟩ := exists_returnType_le hfrom ho'
    rw [hfind] at ho''
    obtain rfl := Option.some.inj ho''
    have heq : compare o.returnType o'.returnType = .eq := Std.OrientedCmp.isLE_antisymm hge hle
    rw [ho', Option.map_some, Option.map_some, Std.LawfulEqOrd.eq_of_compare heq]

/-- The aggregates of the document. -/
def returnTypes (c : AggregateCatalog) : Document.Aggregates :=
  c.map fun _ byName => byName.map fun _ o => { returnType := o.returnType }

/-- Catalogs of the same argument types that find the same return types are shown the same way. -/
theorem returnTypes_congr (hcontains : ∀ type, c.contains type = d.contains type)
    (hfind : ∀ type name, (c.find? type name).map Overload.returnType =
      (d.find? type name).map Overload.returnType) : c.returnTypes = d.returnTypes := by
  apply SortedMap.ext_get?
  intro type
  have htype := hcontains type
  have hnames := hfind type
  rw [SortedMap.contains, SortedMap.contains] at htype
  simp only [find?] at hnames
  rw [returnTypes, returnTypes, SortedMap.get?_map, SortedMap.get?_map]
  cases hc : c.get? type with
  | none =>
    rw [hc] at htype
    rw [Option.isSome_eq_false_iff.mp htype.symm |> Option.isNone_iff_eq_none.mp]
  | some m =>
    rw [hc] at htype hnames
    obtain ⟨n, hn⟩ := Option.isSome_iff_exists.mp htype.symm
    rw [hn] at hnames
    rw [hn, Option.map_some, Option.map_some]
    refine congrArg some (SortedMap.ext_get? fun name => ?_)
    have hname := congrArg (Option.map Document.Aggregate.mk) (hnames name)
    rw [Option.bind_some, Option.bind_some, Option.map_map, Option.map_map] at hname
    rw [SortedMap.get?_map, SortedMap.get?_map]
    exact hname

/-- **Schemas and oids do not show.** The document gives the same return types for overloads with
the same signatures. -/
theorem returnTypes_ofOverloads_congr (h : ∀ x, x ∈ l.map Overload.signature ↔
      x ∈ l'.map Overload.signature) : (ofOverloads l).returnTypes = (ofOverloads l').returnTypes := by
  refine returnTypes_congr (fun type => ?_) (map_returnType_find?_congr h)
  have exists_iff : ∀ l : List Overload, (∃ o ∈ l, o.argumentType = type) ↔
      ∃ name result, (type, name, result) ∈ l.map Overload.signature := by
    intro l
    simp only [Overload.mem_map_signature]
    constructor
    · rintro ⟨o, ho, htype⟩
      exact ⟨o.name, o.returnType, o, ho, ⟨htype, rfl⟩, rfl⟩
    · rintro ⟨name, result, o, ho, ⟨htype, -⟩, -⟩
      exact ⟨o, ho, htype⟩
  rw [Bool.eq_iff_iff, contains_ofOverloads, contains_ofOverloads, exists_iff, exists_iff]
  simp only [h]

end AggregateCatalog

end Survey

theorem Survey.aggregates_document (v : Survey) : v.document.aggregates = v.aggregates.returnTypes :=
  rfl

end SchemaSurvey
