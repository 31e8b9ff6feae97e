/-
  `TieBreak` — the orders that settle ties are total orders on whole records.

  A relation ranks by its name, then by its schema, its kind and its oid; an overload by argument
  type, name, return type, schema and oid. Texts rank by their code points and kinds by the code
  point of their letter, so the rank of a record is a list of lists of numbers, and records compare
  as their ranks do (`Relation.order_eq_compare_rank`, `Overload.order_eq_compare_rank`). What
  follows from a total order that tells all records apart is said once (`IsRecordOrder`). In
  particular there is one way to sort a list, whatever the algorithm (`IsSortedBy.eq_of_perm`).

  `orders_isRecordOrder` is the result. The survey never sorts rivals, but it might as well: the
  first of a name in any sorted list is the one that is kept (`Relation.get?_leastByName_eq_find?`,
  `AggregateCatalog.find?_ofOverloads_eq_find?`).
-/
import Mathlib.Data.List.Sort
import SchemaSurvey.Proofs.Survey.Choice

namespace SchemaSurvey.Survey

/-! ### Code points -/

/-- The code points of a text. -/
def codePoints (s : String) : List Nat := s.toList.map Char.toNat

theorem codePoints_injective : Function.Injective codePoints := by
  intro s t h
  have hchars : Function.Injective Char.toNat := fun _ _ => Char.toNat_inj.mp
  exact String.toList_injective (List.map_injective_iff.mpr hchars h)

theorem compare_map_toNat_eq_lt {l l' : List Char} :
    compare (l.map Char.toNat) (l'.map Char.toNat) = .lt ↔ l < l' := by
  induction l generalizing l' with
  | nil => cases l' <;> simp [List.compare_nil_cons]
  | cons c l ih =>
    cases l' with
    | nil => simp [List.compare_cons_nil]
    | cons d l' =>
      rw [List.map_cons, List.map_cons, List.compare_cons_cons, Ordering.then_eq_lt,
        Nat.compare_eq_lt, Nat.compare_eq_eq, Char.toNat_inj, ih, List.cons_lt_cons_iff]
      exact Iff.rfl

/-- Two comparisons have the same outcome if they find less together and find equal together. -/
theorem eq_of_lt_iff_of_eq_iff {answer answer' : Ordering} (hlt : answer = .lt ↔ answer' = .lt)
    (heq : answer = .eq ↔ answer' = .eq) : answer = answer' := by
  cases answer <;> cases answer' <;> simp_all

/-- **Texts compare by code point.** -/
theorem compare_eq_compare_codePoints (s t : String) :
    compare s t = compare (codePoints s) (codePoints t) := by
  have hlt : compare s t = .lt ↔ compare (codePoints s) (codePoints t) = .lt := by
    have hless : compare s t = .lt ↔ s < t := compareOfLessAndEq_eq_lt
    rw [hless, String.lt_iff, codePoints, codePoints, compare_map_toNat_eq_lt]
  have heq : compare s t = .eq ↔ compare (codePoints s) (codePoints t) = .eq := by
    rw [Std.LawfulEqOrd.compare_eq_iff_eq, Std.LawfulEqOrd.compare_eq_iff_eq,
      codePoints_injective.eq_iff]
  exact eq_of_lt_iff_of_eq_iff hlt heq

theorem compare_eq_compare_toNat (c d : Char) : compare c d = compare c.toNat d.toNat := by
  have hlt : compare c d = .lt ↔ compare c.toNat d.toNat = .lt := by
    rw [Nat.compare_eq_lt]
    exact compareOfLessAndEq_eq_lt
  have heq : compare c d = .eq ↔ compare c.toNat d.toNat = .eq := by
    rw [Std.LawfulEqOrd.compare_eq_iff_eq, Nat.compare_eq_eq, Char.toNat_inj]
  exact eq_of_lt_iff_of_eq_iff hlt heq

/-! ### Ranks -/

/-- What a relation is compared by, the weightiest first. -/
def Relation.rank (r : Relation) : List (List Nat) :=
  [codePoints r.name, [r.schema.toNat], [r.kind.letter.toNat], [r.oid.toNat]]

/-- What an overload is compared by, the weightiest first. -/
def Overload.rank (o : Overload) : List (List Nat) :=
  [codePoints o.argumentType, codePoints o.name, codePoints o.returnType, [o.schema.toNat],
    [o.oid.toNat]]

theorem Relation.order_eq_compare_rank (a b : Relation) :
    a.order b = compare a.rank b.rank := by
  simp only [order, rank, List.compare_cons_cons, List.compare_nil_nil, Ordering.then_eq,
    compare_eq_compare_codePoints, compare_eq_compare_toNat, UInt32.compare_eq_toNat_compare_toNat]

theorem Overload.order_eq_compare_rank (a b : Overload) :
    a.order b = compare a.rank b.rank := by
  simp only [order, rank, List.compare_cons_cons, List.compare_nil_nil, Ordering.then_eq,
    compare_eq_compare_codePoints, UInt32.compare_eq_toNat_compare_toNat]

/-! ### Sorted lists -/

section

variable {α : Type} {order : α → α → Ordering} {rank : α → List (List Nat)}
  {l l' sorted sorted' : List α}

/-- `sorted` has the members of `l`, each no greater than those after it. -/
structure IsSortedBy (order : α → α → Ordering) (l sorted : List α) : Prop where
  perm : sorted.Perm l
  ascending : sorted.Pairwise fun a b => (order a b).isLE = true

/-- `order` compares whole records by their ranks and is a total order on them. -/
structure IsRecordOrder (order : α → α → Ordering) (rank : α → List (List Nat)) : Prop where
  /-- The first difference between the ranks decides. -/
  eq_compare_rank : ∀ a b, order a b = compare (rank a) (rank b)
  refl : ∀ a, order a a = .eq
  /-- The other way round the answer is the opposite. -/
  swap : ∀ a b, order b a = (order a b).swap
  trans : ∀ a b c answer, order a b = answer → order b c = answer → order a c = answer
  isLE_trans : ∀ a b c, (order a b).isLE = true → (order b c).isLE = true →
    (order a c).isLE = true
  /-- Only the same record compares equal. -/
  eq_iff : ∀ a b, order a b = .eq ↔ a = b
  /-- Nothing is left to choose when the members of a list are sorted, however that is done. -/
  sorted_unique : ∀ l l' sorted sorted', l.Perm l' → IsSortedBy order l sorted →
    IsSortedBy order l' sorted' → sorted = sorted'
  /-- Every list can be sorted. -/
  sorted_mergeSort : ∀ l, IsSortedBy order l (l.mergeSort fun a b => (order a b).isLE)

variable [Std.TransCmp order]

theorem isSortedBy_mergeSort (l : List α) :
    IsSortedBy order l (l.mergeSort fun a b => (order a b).isLE) where
  perm := List.mergeSort_perm _ _
  ascending := by
    have htrans : ∀ a b c, (order a b).isLE = true → (order b c).isLE = true →
        (order a c).isLE = true := fun _ _ _ => Std.TransCmp.isLE_trans
    have htotal : ∀ a b, ((order a b).isLE || (order b a).isLE) = true := fun a b => by
      have hswap : order b a = (order a b).swap := Std.OrientedCmp.eq_swap
      rw [hswap]
      cases order a b <;> rfl
    exact List.pairwise_mergeSort htrans htotal l

/-- The first member with a property, in a sorted list, is the least of those with it. -/
theorem IsSortedBy.isChoice_find? (h : IsSortedBy order l sorted) (p : α → Bool) :
    IsChoice order l (fun a => p a = true) (sorted.find? p) := by
  cases hfind : sorted.find? p with
  | none => exact fun s hs => List.find?_eq_none.mp hfind s (h.perm.mem_iff.mpr hs)
  | some r =>
    obtain ⟨hr, before, after, rfl, hbefore⟩ := List.find?_eq_some_iff_append.mp hfind
    refine ⟨h.perm.mem_iff.mp (by simp), hr, fun s hs hps => ?_⟩
    rcases List.mem_append.mp (h.perm.mem_iff.mpr hs) with hs | hs
    · -- None of the members before the first has the property.
      have hnot := hbefore s hs
      rw [hps] at hnot
      cases hnot
    · rcases List.mem_cons.mp hs with rfl | hs
      · exact isLE_self
      · have hafter := (List.pairwise_append.mp h.ascending).2.1
        exact (List.pairwise_cons.mp hafter).1 s hs

variable [Std.LawfulEqCmp order]

/-- **There is one way to sort.** -/
theorem IsSortedBy.eq_of_perm (hl : l.Perm l') (h : IsSortedBy order l sorted)
    (h' : IsSortedBy order l' sorted') : sorted = sorted' := by
  refine (h.perm.trans (hl.trans h'.perm.symm)).eq_of_pairwise ?_ h.ascending h'.ascending
  intro a b _ _ hab hba
  exact Std.LawfulEqCmp.eq_of_compare (Std.OrientedCmp.isLE_antisymm hab hba)

theorem isRecordOrder_of_rank (hrank : ∀ a b, order a b = compare (rank a) (rank b)) :
    IsRecordOrder order rank where
  eq_compare_rank := hrank
  refl _ := Std.ReflCmp.compare_self
  swap _ _ := Std.OrientedCmp.eq_swap
  trans a b c answer hab hbc := by
    cases answer with
    | lt => exact Std.TransCmp.lt_trans hab hbc
    | eq => exact Std.TransCmp.eq_trans hab hbc
    | gt => exact Std.TransCmp.gt_trans hab hbc
  isLE_trans _ _ _ := Std.TransCmp.isLE_trans
  eq_iff _ _ := Std.LawfulEqCmp.compare_eq_iff_eq
  sorted_unique _ _ _ _ := IsSortedBy.eq_of_perm
  sorted_mergeSort := isSortedBy_mergeSort

end

/-- **Ties are broken by total orders on whole records.** -/
theorem orders_isRecordOrder :
    IsRecordOrder Relation.order Relation.rank ∧ IsRecordOrder Overload.order Overload.rank :=
  ⟨isRecordOrder_of_rank Relation.order_eq_compare_rank,
    isRecordOrder_of_rank Overload.order_eq_compare_rank⟩

/-- Letters decide between kinds, and not the place of a kind among the kinds. -/
example :
    [.foreignTable, .materializedView, .partitionedTable, .ordinaryTable, .view].Pairwise
      fun k k' => Relation.order ⟨2, 2200, "x", k⟩ ⟨1, 2200, "x", k'⟩ = .lt := by decide

/-! ### Sorting and then keeping the first -/

/-- **A name stands for the first relation of that name,** once the relations are sorted. -/
theorem Relation.get?_leastByName_eq_find? {l sorted : List Relation}
    (h : IsSortedBy order l sorted) (n : String) :
    (leastByName l).get? n = sorted.find? fun r => r.name = n := by
  have hfind := h.isChoice_find? fun r => r.name = n
  simp only [decide_eq_true_eq] at hfind
  exact (isChoice_leastByName l n).unique hfind

/-- **The overload listed is the first of its argument type and name,** once the overloads are
sorted. -/
theorem AggregateCatalog.find?_ofOverloads_eq_find? {l sorted : List Overload}
    (h : IsSortedBy Overload.order l sorted) (type : TypeName) (name : String) :
    (ofOverloads l).find? type name =
      sorted.find? fun o => o.argumentType = type ∧ o.name = name := by
  have hfind := h.isChoice_find? fun o => o.argumentType = type ∧ o.name = name
  simp only [decide_eq_true_eq] at hfind
  exact (isChoice_find? l type name).unique hfind

end SchemaSurvey.Survey
