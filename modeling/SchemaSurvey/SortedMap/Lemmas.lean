/-
  `SortedMap.Lemmas` — what each operation does to `get?`.

  The one view of a map is `get?`: a map is determined by it (`ext_get?`), `insert` changes it at
  one key (`get?_insert`), `map` and `filterMap` act on the value found (`get?_map`,
  `get?_filterMap`), and the entries listed are exactly the answers it gives (`mem_toList_iff`).
-/
import SchemaSurvey.SortedMap.Basic

namespace SchemaSurvey.SortedMap

variable {κ ν μ : Type} [Ord κ]

/-! ### Entries and lookup -/

@[simp] theorem get?_empty (k : κ) : (empty : SortedMap κ ν).get? k = none := rfl

theorem lookupEntry_eq_none {k : κ} {l : List (κ × ν)}
    (h : ∀ e ∈ l, compare k e.1 ≠ .eq) : lookupEntry k l = none := by
  induction l with
  | nil => rfl
  | cons hd tl ih =>
    have hne := h hd (by simp)
    have hd_eq : hd = (hd.1, hd.2) := rfl
    rw [hd_eq, lookupEntry, if_neg hne]
    exact ih fun e he => h e (by simp [he])

variable [Std.TransOrd κ] [Std.LawfulEqOrd κ]

omit [Std.TransOrd κ] in
theorem ne_of_compare_eq_lt {a b : κ} (h : compare a b = .lt) : a ≠ b := by
  rintro rfl
  have : compare a a = .eq := Std.LawfulEqOrd.compare_eq_iff_eq.2 rfl
  rw [this] at h
  exact absurd h (by decide)

omit [Std.TransOrd κ] in
theorem lookupEntry_eq_some_iff {k : κ} {v : ν} {l : List (κ × ν)}
    (hl : l.Pairwise fun a b => compare a.1 b.1 = .lt) :
    lookupEntry k l = some v ↔ (k, v) ∈ l := by
  induction l with
  | nil => simp [lookupEntry]
  | cons hd tl ih =>
    obtain ⟨j, w⟩ := hd
    obtain ⟨hd_lt, tl_sorted⟩ := List.pairwise_cons.1 hl
    unfold lookupEntry
    split
    · rename_i heq
      obtain rfl : k = j := Std.LawfulEqOrd.eq_of_compare heq
      have not_mem : (k, v) ∉ tl := fun hmem => ne_of_compare_eq_lt (hd_lt _ hmem) rfl
      simp [not_mem, eq_comm]
    · rename_i hne
      have : k ≠ j := fun e => hne (Std.LawfulEqOrd.compare_eq_iff_eq.2 e)
      simp [ih tl_sorted, this]

omit [Std.TransOrd κ] in
/-- **The entries are the answers.** -/
theorem mem_toList_iff {m : SortedMap κ ν} {k : κ} {v : ν} :
    (k, v) ∈ m.toList ↔ m.get? k = some v :=
  (lookupEntry_eq_some_iff m.sorted).symm

/-- **A map is what it answers.** Two maps with the same answers list the same entries, and a list
in strict order is determined by its members. -/
theorem ext_get? {m n : SortedMap κ ν} (h : ∀ k, m.get? k = n.get? k) : m = n := by
  have mem_iff : ∀ e, e ∈ m.toList ↔ e ∈ n.toList := fun ⟨k, v⟩ => by
    rw [mem_toList_iff, mem_toList_iff, h]
  have perm : m.toList.Perm n.toList := by
    have nodup : ∀ p : SortedMap κ ν, p.toList.Nodup := fun p =>
      p.sorted.imp fun hlt e => ne_of_compare_eq_lt hlt (congrArg Prod.fst e)
    exact (List.perm_ext_iff_of_nodup (nodup m) (nodup n)).2 mem_iff
  have : m.toList = n.toList :=
    perm.eq_of_pairwise (fun a b _ _ hab hba => by
      have hswap : compare a.1 b.1 = (compare b.1 a.1).swap := Std.OrientedCmp.eq_swap
      rw [hswap, hba] at hab
      exact absurd hab (by decide)) m.sorted n.sorted
  cases m; cases n; simp_all

/-! ### Insertion -/

theorem lookupEntry_insertEntry [DecidableEq κ] (k j : κ) (v : ν) (l : List (κ × ν)) :
    lookupEntry j (insertEntry k v l) = if j = k then some v else lookupEntry j l := by
  have compare_eq : ∀ {a b : κ}, compare a b = .eq ↔ a = b := Std.LawfulEqOrd.compare_eq_iff_eq
  induction l with
  | nil => simp [insertEntry, lookupEntry, compare_eq]
  | cons hd tl ih =>
    obtain ⟨i, w⟩ := hd
    unfold insertEntry
    split
    · simp [lookupEntry, compare_eq]
    · rename_i heq
      obtain rfl : k = i := compare_eq.1 heq
      by_cases hj : j = k <;> simp [lookupEntry, compare_eq, hj]
    · rename_i hgt
      have hne : k ≠ i := (ne_of_compare_eq_lt (Std.OrientedCmp.gt_iff_lt.1 hgt)).symm
      by_cases hj : j = k
      · subst hj; simp [lookupEntry, compare_eq, hne, ih]
      · simp [lookupEntry, compare_eq, hj, ih]

/-- **Insertion changes one answer.** -/
theorem get?_insert [DecidableEq κ] (m : SortedMap κ ν) (k j : κ) (v : ν) :
    (m.insert k v).get? j = if j = k then some v else m.get? j := by
  simp only [get?, insert, lookupEntry_insertEntry]

omit [Std.TransOrd κ] in
/-- **Removal changes one answer.** -/
theorem get?_erase [DecidableEq κ] (m : SortedMap κ ν) (k j : κ) :
    (m.erase k).get? j = if j = k then none else m.get? j := by
  apply Option.ext
  intro v
  rw [← mem_toList_iff]
  have compare_ne : ∀ {a : κ}, compare k a ≠ .eq ↔ a ≠ k := fun {a} => by
    rw [ne_eq, Std.LawfulEqOrd.compare_eq_iff_eq, eq_comm]
  simp only [erase, List.mem_filter, bne_iff_ne, compare_ne, mem_toList_iff]
  by_cases h : j = k <;> simp [h]

/-! ### Entry by entry -/

omit [Std.TransOrd κ] in
@[simp] theorem get?_map (m : SortedMap κ ν) (f : κ → ν → μ) (k : κ) :
    (m.map f).get? k = (m.get? k).map (f k) := by
  suffices h : ∀ l : List (κ × ν),
      lookupEntry k (l.map fun e => (e.1, f e.1 e.2)) = (lookupEntry k l).map (f k) from h m.toList
  intro l
  induction l with
  | nil => rfl
  | cons hd tl ih =>
    obtain ⟨j, w⟩ := hd
    simp only [List.map_cons, lookupEntry]
    split
    · rename_i heq
      obtain rfl : k = j := Std.LawfulEqOrd.eq_of_compare heq
      rfl
    · exact ih

omit [Std.TransOrd κ] in
@[simp] theorem get?_filterMap (m : SortedMap κ ν) (f : κ → ν → Option μ) (k : κ) :
    (m.filterMap f).get? k = (m.get? k).bind (f k) := by
  apply Option.ext
  intro v
  rw [← mem_toList_iff]
  simp only [filterMap, List.mem_filterMap, Option.map_eq_some_iff, Prod.exists, Prod.mk.injEq,
    Option.bind_eq_some_iff]
  constructor
  · rintro ⟨j, w, hmem, u, hf, rfl, rfl⟩
    exact ⟨w, mem_toList_iff.1 hmem, hf⟩
  · rintro ⟨w, hget, hf⟩
    exact ⟨k, w, mem_toList_iff.2 hget, v, hf, rfl, rfl⟩

end SchemaSurvey.SortedMap
