/-
  `Sorting` — what a stable sort by a number keeps and what it loses.

  The constraints of a catalog are sorted by oid and the columns of a relation by number, and equal
  numbers are not ruled out. The order in which the rows came is lost where the numbers tell the
  rows apart (`mergeSort_eq_of_perm`). In any case rows may be chosen before they are sorted as well
  as after, since those of one number keep their order (`filter_mergeSort`).

What a stable sort is can be said without sorting: the rows ascend, and those of each number are in
the order they had (`IsStableSort`). No other list is like that (`IsStableSort.unique`).
-/
import Mathlib.Data.List.Sort

namespace SchemaSurvey

variable {α β γ : Type} [LE β] [DecidableLE β] [Std.IsLinearOrder β] {l l' : List α}

theorem trans_le_key (key : α → β) (a b c : α) (hab : decide (key a ≤ key b) = true)
    (hbc : decide (key b ≤ key c) = true) : decide (key a ≤ key c) = true := by
  rw [decide_eq_true_eq] at *
  exact Std.IsPreorder.le_trans _ _ _ hab hbc

theorem total_le_key (key : α → β) (a b : α) :
    (decide (key a ≤ key b) || decide (key b ≤ key a)) = true := by
  rw [Bool.or_eq_true, decide_eq_true_eq, decide_eq_true_eq]
  exact Std.le_total

theorem pairwise_mergeSort_key (key : α → β) (l : List α) :
    (l.mergeSort fun a b => key a ≤ key b).Pairwise fun a b => key a ≤ key b := by
  have h := List.pairwise_mergeSort (trans_le_key key) (total_le_key key) l
  simpa only [decide_eq_true_eq] using h

/-- A list whose members are all the same is determined by its length. -/
theorem eq_of_perm_of_subsingleton (hl : ∀ a ∈ l, ∀ b ∈ l, a = b) (h : l.Perm l') : l = l' :=
  h.eq_of_pairwise (fun a b ha hb _ _ => hl a ha b (h.mem_iff.mpr hb))
    (List.pairwise_of_forall fun _ _ => trivial) (List.pairwise_of_forall fun _ _ => trivial)

/-- **Sorting loses the order** of rows that are told apart by what they are sorted by. -/
theorem mergeSort_eq_of_perm (key : α → β)
    (hl : ∀ a ∈ l, ∀ b ∈ l, key a = key b → a = b) (h : l.Perm l') :
    l.mergeSort (fun a b => key a ≤ key b) = l'.mergeSort fun a b => key a ≤ key b := by
  refine List.Perm.eq_of_pairwise ?_ (pairwise_mergeSort_key key l) (pairwise_mergeSort_key key l')
    ?_
  · intro a b ha hb hab hba
    have ha' := List.mem_mergeSort.mp ha
    have hb' := h.mem_iff.mpr (List.mem_mergeSort.mp hb)
    exact hl a ha' b hb' (Std.IsPartialOrder.le_antisymm _ _ hab hba)
  · exact (List.mergeSort_perm _ _).trans (h.trans (List.mergeSort_perm _ _).symm)

/-- The first row is put after those that are less and before all others. -/
theorem mergeSort_cons_key (key : α → β) (a : α) (l : List α) :
    (a :: l).mergeSort (fun a b => key a ≤ key b) =
        (l.mergeSort fun a b => key a ≤ key b).filter (fun b => !decide (key a ≤ key b)) ++
          a :: (l.mergeSort fun a b => key a ≤ key b).filter (fun b => decide (key a ≤ key b)) ∧
      l.mergeSort (fun a b => key a ≤ key b) =
        (l.mergeSort fun a b => key a ≤ key b).filter (fun b => !decide (key a ≤ key b)) ++
          (l.mergeSort fun a b => key a ≤ key b).filter fun b => decide (key a ≤ key b) := by
  obtain ⟨less, rest, hsorted, htail, hless⟩ :=
    List.mergeSort_cons (trans_le_key key) (total_le_key key) a l
  have hrest : ∀ b ∈ rest, decide (key a ≤ key b) = true := fun b hb => by
    have hpairwise := pairwise_mergeSort_key key (a :: l)
    rw [hsorted] at hpairwise
    exact decide_eq_true ((List.pairwise_cons.mp (List.pairwise_append.mp hpairwise).2.1).1 b hb)
  have hless_none : less.filter (fun b => decide (key a ≤ key b)) = [] :=
    List.filter_eq_nil_iff.mpr fun b hb => by simpa using hless b hb
  have hrest_none : rest.filter (fun b => !decide (key a ≤ key b)) = [] :=
    List.filter_eq_nil_iff.mpr fun b hb => by rw [hrest b hb]; decide
  rw [hsorted, htail, List.filter_append, List.filter_append, List.filter_eq_self.mpr hless,
    List.filter_eq_self.mpr hrest, hless_none, hrest_none, List.append_nil, List.nil_append]
  exact ⟨rfl, rfl⟩

/-- **Rows may be chosen before they are sorted as well as after.** -/
theorem filter_mergeSort (key : α → β) (p : α → Bool) (l : List α) :
    (l.mergeSort fun a b => key a ≤ key b).filter p =
      (l.filter p).mergeSort fun a b => key a ≤ key b := by
  induction l with
  | nil => simp only [List.mergeSort_nil, List.filter_nil]
  | cons a l ih =>
    obtain ⟨hcons, hsplit⟩ := mergeSort_cons_key key a l
    rw [hcons, List.filter_append]
    by_cases hp : p a = true
    · rw [List.filter_cons_of_pos hp, List.filter_cons_of_pos hp,
        (mergeSort_cons_key key a (l.filter p)).1, ← ih, List.filter_comm, List.filter_comm p]
    · rw [List.filter_cons_of_neg hp, List.filter_cons_of_neg hp, ← ih, ← List.filter_append,
        ← hsplit]

/-! ### Rows chosen and translated -/

omit [LE β] [DecidableLE β] [Std.IsLinearOrder β] in
/-- What is translated may be chosen before as well as after. -/
theorem filter_filterMap_of_iff {f : α → Option γ} {p : γ → Bool} {q : α → Bool}
    (h : ∀ a ∈ l, ∀ c, f a = some c → p c = q a) :
    (l.filterMap f).filter p = (l.filter q).filterMap f := by
  rw [List.filter_filterMap, List.filterMap_filter]
  refine List.filterMap_congr fun a ha => ?_
  cases hc : f a with
  | none => exact (ite_self none).symm
  | some c =>
    rw [← h a ha c hc]
    cases hp : p c <;> simp [Option.filter, hp]

/-! ### What a stable sort is -/

section

variable [DecidableEq β]

/-- `sorted` has the rows of `l` by ascending key, and rows of one key in the order of `l`. -/
structure IsStableSort (key : α → β) (l sorted : List α) : Prop where
  perm : sorted.Perm l
  ascending : sorted.Pairwise fun a b => key a ≤ key b
  stable : ∀ k, sorted.filter (fun a => key a = k) = l.filter fun a => key a = k

theorem isStableSort_mergeSort (key : α → β) (l : List α) :
    IsStableSort key l (l.mergeSort fun a b => key a ≤ key b) where
  perm := List.mergeSort_perm _ _
  ascending := pairwise_mergeSort_key key l
  stable k := by
    rw [filter_mergeSort]
    -- Rows of one key are in order as they come.
    refine List.mergeSort_of_pairwise (List.pairwise_of_forall_mem_list fun a ha b hb => ?_)
    have ha_key : key a = k := of_decide_eq_true (List.mem_filter.mp ha).2
    have hb_key : key b = k := of_decide_eq_true (List.mem_filter.mp hb).2
    rw [ha_key, hb_key]
    exact decide_eq_true (Std.IsPreorder.le_refl k)

omit [DecidableLE β] [DecidableEq β] in
/-- The first of ascending rows has the least key. -/
theorem key_head_le {key : α → β} {a b : α} (hl : (a :: l).Pairwise fun a b => key a ≤ key b)
    (hb : b ∈ a :: l) : key a ≤ key b := by
  rcases List.mem_cons.mp hb with rfl | hb
  · exact Std.IsPreorder.le_refl _
  · exact (List.pairwise_cons.mp hl).1 b hb

omit [LE β] [DecidableLE β] [Std.IsLinearOrder β] in
theorem mem_iff_of_filter_key_eq {key : α → β}
    (h : ∀ k, l.filter (fun a => key a = k) = l'.filter fun a => key a = k) (a : α) :
    a ∈ l ↔ a ∈ l' := by
  have hkey : a ∈ l.filter (fun b => key b = key a) ↔ a ∈ l'.filter fun b => key b = key a := by
    rw [h (key a)]
  simpa using hkey

omit [DecidableLE β] in
/-- Ascending rows are determined by the order within each key. -/
theorem eq_of_filter_key_eq {key : α → β} (hl : l.Pairwise fun a b => key a ≤ key b)
    (hl' : l'.Pairwise fun a b => key a ≤ key b)
    (h : ∀ k, l.filter (fun a => key a = k) = l'.filter fun a => key a = k) : l = l' := by
  have mem_iff := mem_iff_of_filter_key_eq h
  induction l generalizing l' with
  | nil => exact (List.eq_nil_iff_forall_not_mem.mpr fun a ha => nomatch (mem_iff a).mpr ha).symm
  | cons a l ih =>
    cases l' with
    | nil => exact nomatch (mem_iff a).mp List.mem_cons_self
    | cons b l' =>
      -- Both heads have the least key, and of the rows of that key both are the first.
      have hle : key a ≤ key b := key_head_le hl ((mem_iff b).mpr List.mem_cons_self)
      have hge : key b ≤ key a := key_head_le hl' ((mem_iff a).mp List.mem_cons_self)
      have hkey : key b = key a := Std.IsPartialOrder.le_antisymm _ _ hge hle
      have hheads := h (key a)
      rw [List.filter_cons_of_pos (by simp), List.filter_cons_of_pos (by simp [hkey])] at hheads
      obtain ⟨rfl, -⟩ := List.cons.inj hheads
      have htails : ∀ k, l.filter (fun a => key a = k) = l'.filter fun a => key a = k := fun k => by
        have hk := h k
        by_cases hak : key a = k
        · rw [List.filter_cons_of_pos (by simp [hak]),
            List.filter_cons_of_pos (by simp [hak])] at hk
          exact (List.cons.inj hk).2
        · rwa [List.filter_cons_of_neg (by simp [hak]),
            List.filter_cons_of_neg (by simp [hak])] at hk
      rw [ih hl.of_cons hl'.of_cons htails (mem_iff_of_filter_key_eq htails)]

omit [DecidableLE β] in
/-- **A stable sort determines the list.** -/
theorem IsStableSort.unique {key : α → β} {sorted sorted' : List α}
    (h : IsStableSort key l sorted) (h' : IsStableSort key l sorted') : sorted = sorted' :=
  eq_of_filter_key_eq h.ascending h'.ascending fun k => (h.stable k).trans (h'.stable k).symm

omit [DecidableLE β] [Std.IsLinearOrder β] in
/-- Rows that keep their keys when they are translated stay sorted. -/
theorem IsStableSort.filterMap {key : α → β} {key' : γ → β} {f : α → Option γ} {sorted : List α}
    (h : IsStableSort key l sorted) (hf : ∀ a c, f a = some c → key' c = key a) :
    IsStableSort key' (l.filterMap f) (sorted.filterMap f) where
  perm := h.perm.filterMap f
  ascending := by
    rw [List.pairwise_filterMap]
    refine h.ascending.imp fun hab c hc d hd => ?_
    rw [hf _ c hc, hf _ d hd]
    exact hab
  stable k := by
    have hkey : ∀ a c, f a = some c → decide (key' c = k) = decide (key a = k) := fun a c hc => by
      rw [hf a c hc]
    rw [filter_filterMap_of_iff fun a _ c hc => hkey a c hc,
      filter_filterMap_of_iff fun a _ c hc => hkey a c hc, h.stable k]

end

end SchemaSurvey
