/-
  `Building` — what a map built from a list of entries answers.

  `ofList` stores the entries one after another, so the last entry of a key counts
  (`get?_ofList_concat`). Whatever the order, an answer is one of the entries
  (`mem_of_get?_ofList`), and a key is answered as soon as one entry has it (`contains_ofList`).

  Where the entries of each key agree (`Consistent`) the answers are exactly the entries
  (`get?_ofList`), so the order in which they were stored is lost (`ofList_perm`). Where they do
  not, a map built from two lists side by side answers by the last position of a key
  (`get?_ofList_zip`) and has as many entries as there are different keys (`size_ofList`).

  In any case an answer depends on the entries of its key alone (`get?_ofList_filter`), and it is
  not lost when keys get new names (`get?_ofList_map`).
-/
import Mathlib.Data.List.Dedup
import Mathlib.Data.List.Induction
import Mathlib.Data.List.Nodup
import SchemaSurvey.SortedMap.Lemmas

namespace SchemaSurvey.SortedMap

variable {κ ν μ : Type} [Ord κ]

theorem contains_iff {m : SortedMap κ ν} {k : κ} : m.contains k = true ↔ ∃ v, m.get? k = some v :=
  Option.isSome_iff_exists

theorem contains_of_get? {m : SortedMap κ ν} {k : κ} {v : ν} (h : m.get? k = some v) :
    m.contains k = true :=
  contains_iff.mpr ⟨v, h⟩

/-! ### Listings -/

section

variable [Std.LawfulEqOrd κ]

theorem mem_values {m : SortedMap κ ν} {v : ν} : v ∈ m.values ↔ ∃ k, m.get? k = some v := by
  constructor
  · intro h
    obtain ⟨⟨k, w⟩, hmem, rfl⟩ := List.mem_map.mp h
    exact ⟨k, mem_toList_iff.mp hmem⟩
  · rintro ⟨k, h⟩
    exact List.mem_map.mpr ⟨(k, v), mem_toList_iff.mpr h, rfl⟩

theorem mem_keys {m : SortedMap κ ν} {k : κ} : k ∈ m.keys ↔ m.contains k = true := by
  rw [contains_iff]
  constructor
  · intro h
    obtain ⟨⟨j, v⟩, hmem, rfl⟩ := List.mem_map.mp h
    exact ⟨v, mem_toList_iff.mp hmem⟩
  · rintro ⟨v, h⟩
    exact List.mem_map.mpr ⟨(k, v), mem_toList_iff.mpr h, rfl⟩

theorem isEmpty_eq_false_iff {m : SortedMap κ ν} :
    m.isEmpty = false ↔ ∃ k, m.contains k = true := by
  constructor
  · intro h
    obtain ⟨k, hk⟩ : ∃ k, k ∈ m.keys := by
      refine List.exists_mem_of_ne_nil _ fun hnil => ?_
      rw [isEmpty, List.map_eq_nil_iff.mp hnil] at h
      cases h
    exact ⟨k, mem_keys.mp hk⟩
  · rintro ⟨k, hk⟩
    have hmem := mem_keys.mpr hk
    rw [isEmpty, List.isEmpty_eq_false_iff]
    intro hnil
    rw [keys, hnil] at hmem
    cases hmem

theorem nodup_keys (m : SortedMap κ ν) : m.keys.Nodup :=
  List.pairwise_map.mpr (m.sorted.imp ne_of_compare_eq_lt)

theorem contains_map {m : SortedMap κ ν} {f : κ → ν → μ} {k : κ} :
    (m.map f).contains k = m.contains k := by
  rw [contains, get?_map, Option.isSome_map, contains]

omit [Std.LawfulEqOrd κ] in
theorem size_map (m : SortedMap κ ν) (f : κ → ν → μ) : (m.map f).size = m.size :=
  List.length_map _

omit [Std.LawfulEqOrd κ] in
theorem size_filterMap (m : SortedMap κ ν) (f : κ → ν → Option μ) :
    (m.filterMap f).size = m.toList.countP fun e => (f e.1 e.2).isSome := by
  rw [size, filterMap, List.length_filterMap_eq_countP]
  simp only [Option.isSome_map]

omit [Std.LawfulEqOrd κ] in
theorem values_map (m : SortedMap κ ν) (f : ν → μ) :
    (m.map fun _ => f).values = m.values.map f := by
  rw [values, values, map, List.map_map, List.map_map]
  rfl

end

/-! ### Stored one after another -/

/-- The entries of each key agree. -/
def Consistent (l : List (κ × ν)) : Prop := ∀ e ∈ l, ∀ f ∈ l, e.1 = f.1 → e.2 = f.2

omit [Ord κ] in
theorem consistent_map {α : Type} {l : List α} {key : α → κ} {value : α → ν}
    (h : (l.map key).Nodup) : Consistent (l.map fun a => (key a, value a)) := by
  intro e he f hf hkey
  obtain ⟨a, ha, rfl⟩ := List.mem_map.mp he
  obtain ⟨b, hb, rfl⟩ := List.mem_map.mp hf
  exact congrArg value (List.inj_on_of_nodup_map h ha hb hkey)

omit [Ord κ] in
theorem consistent_map_filter {α : Type} {l : List α} {p : α → Bool} {key : α → κ} {value : α → ν}
    (h : (l.map key).Nodup) : Consistent ((l.filter p).map fun a => (key a, value a)) :=
  consistent_map (h.sublist (List.filter_sublist.map key))

variable [Std.TransOrd κ] [Std.LawfulEqOrd κ]

theorem ofList_concat (l : List (κ × ν)) (e : κ × ν) :
    ofList (l ++ [e]) = (ofList l).insert e.1 e.2 := by
  rw [ofList, List.foldl_append]
  rfl

variable [DecidableEq κ]

/-- **The last entry of a key counts.** -/
theorem get?_ofList_concat (l : List (κ × ν)) (e : κ × ν) (k : κ) :
    (ofList (l ++ [e])).get? k = if k = e.1 then some e.2 else (ofList l).get? k := by
  rw [ofList_concat, get?_insert]

theorem mem_of_get?_ofList {l : List (κ × ν)} {k : κ} {v : ν} (h : (ofList l).get? k = some v) :
    (k, v) ∈ l := by
  induction l using List.reverseRecOn with
  | nil => cases h
  | append_singleton l e ih =>
    rw [get?_ofList_concat] at h
    split at h
    · rename_i hkey
      obtain rfl := Option.some.inj h
      simp [hkey]
    · exact List.mem_append_left _ (ih h)

theorem contains_ofList {l : List (κ × ν)} {k : κ} :
    (ofList l).contains k = true ↔ ∃ e ∈ l, e.1 = k := by
  rw [contains_iff]
  constructor
  · rintro ⟨v, h⟩
    exact ⟨(k, v), mem_of_get?_ofList h, rfl⟩
  · intro h
    induction l using List.reverseRecOn with
    | nil => simp at h
    | append_singleton l e ih =>
      rw [get?_ofList_concat]
      by_cases hkey : k = e.1
      · exact ⟨e.2, if_pos hkey⟩
      · rw [if_neg hkey]
        obtain ⟨f, hf, hf_key⟩ := h
        refine ih ⟨f, ?_, hf_key⟩
        rcases List.mem_append.mp hf with hf | hf
        · exact hf
        · obtain rfl := List.mem_singleton.mp hf
          exact absurd hf_key.symm hkey

/-- **Consistent entries are the answers.** -/
theorem get?_ofList {l : List (κ × ν)} (hl : Consistent l) {k : κ} {v : ν} :
    (ofList l).get? k = some v ↔ (k, v) ∈ l := by
  refine ⟨mem_of_get?_ofList, fun h => ?_⟩
  obtain ⟨w, hw⟩ := contains_iff.mp (contains_ofList.mpr ⟨(k, v), h, rfl⟩)
  have hvw : v = w := hl _ h _ (mem_of_get?_ofList hw) rfl
  rw [hw, hvw]

/-- **A map is built from its own entries.** -/
theorem ofList_toList (m : SortedMap κ ν) : ofList m.toList = m := by
  have hconsistent : Consistent m.toList := by
    intro e he f hf hkey
    have hget := mem_toList_iff.mp hf
    rw [← hkey, mem_toList_iff.mp he] at hget
    exact Option.some.inj hget
  apply ext_get?
  intro k
  apply Option.ext
  intro v
  rw [get?_ofList hconsistent, mem_toList_iff]

/-- A value for each key, listed by key, is a map with the same keys. -/
theorem ofList_map_keys (m : SortedMap κ ν) (f : κ → μ) :
    ofList (m.keys.map fun k => (k, f k)) = m.map fun k _ => f k := by
  have hentries : m.keys.map (fun k => (k, f k)) = (m.map fun k _ => f k).toList := by
    rw [keys, map, List.map_map]
    rfl
  rw [hentries, ofList_toList]

/-- **The order of consistent entries is lost.** -/
theorem ofList_perm {l l' : List (κ × ν)} (hl : Consistent l) (h : l.Perm l') :
    ofList l = ofList l' := by
  have hl' : Consistent l' := fun e he f hf => hl e (h.mem_iff.mpr he) f (h.mem_iff.mpr hf)
  apply ext_get?
  intro k
  apply Option.ext
  intro v
  rw [get?_ofList hl, get?_ofList hl', h.mem_iff]

/-! ### Keys that repeat -/

theorem size_ofList (l : List (κ × ν)) : (ofList l).size = (l.map Prod.fst).dedup.length := by
  have hperm : (ofList l).keys.Perm (l.map Prod.fst).dedup := by
    refine (List.perm_ext_iff_of_nodup (nodup_keys _) (List.nodup_dedup _)).mpr fun k => ?_
    rw [mem_keys, contains_ofList, List.mem_dedup, List.mem_map]
  rw [← hperm.length_eq, keys, List.length_map, size]

/-- A key is answered by its own entries. -/
theorem get?_ofList_filter (l : List (κ × ν)) (k : κ) :
    (ofList (l.filter fun e => e.1 = k)).get? k = (ofList l).get? k := by
  induction l using List.reverseRecOn with
  | nil => rfl
  | append_singleton l e ih =>
    rw [List.filter_append, get?_ofList_concat]
    by_cases hkey : e.1 = k
    · have hkept : [e].filter (fun f => decide (f.1 = k)) = [e] := by simp [hkey]
      rw [hkept, get?_ofList_concat, if_pos hkey.symm, if_pos hkey.symm]
    · have hdropped : [e].filter (fun f => decide (f.1 = k)) = [] := by simp [hkey]
      rw [hdropped, List.append_nil, ih, if_neg (Ne.symm hkey)]

/-- **Keys may be renamed,** as long as different keys get different names. -/
theorem get?_ofList_map {f : κ → κ} (hf : Function.Injective f) (g : ν → μ) (l : List (κ × ν))
    (k : κ) : (ofList (l.map fun e => (f e.1, g e.2))).get? (f k) = ((ofList l).get? k).map g := by
  induction l using List.reverseRecOn with
  | nil => rfl
  | append_singleton l e ih =>
    rw [List.map_append, List.map_singleton, get?_ofList_concat, get?_ofList_concat, ih]
    by_cases hkey : k = e.1
    · rw [if_pos hkey, if_pos (congrArg f hkey), Option.map_some]
    · rw [if_neg hkey, if_neg fun h => hkey (hf h)]

omit [Ord κ] [Std.TransOrd κ] [Std.LawfulEqOrd κ] [DecidableEq κ] in
/-- A new last entry is at none of the positions of another. -/
theorem getElem?_concat_of_ne {l : List (κ × ν)} {e f : κ × ν} (hne : e ≠ f) (i : Nat) :
    (l ++ [e])[i]? = some f ↔ l[i]? = some f := by
  rw [List.getElem?_append]
  split
  · exact Iff.rfl
  · rename_i hi
    rw [List.getElem?_eq_none (Nat.le_of_not_lt hi), List.getElem?_singleton]
    refine ⟨fun h => ?_, fun h => absurd h.symm (Option.some_ne_none _)⟩
    split at h
    · exact absurd (Option.some.inj h) hne
    · exact h

/-- `a` stands in `l` at position `i`, and not after it. -/
def IsLastAt {α : Type} (l : List α) (i : Nat) (a : α) : Prop :=
  l[i]? = some a ∧ ∀ j, i < j → l[j]? ≠ some a

theorem get?_ofList_eq_some_iff {l : List (κ × ν)} {k : κ} {v : ν} :
    (ofList l).get? k = some v ↔
      ∃ i : Nat, l[i]? = some (k, v) ∧ ∀ j, i < j → ∀ w, l[j]? ≠ some (k, w) := by
  induction l using List.reverseRecOn with
  | nil => simp [ofList]
  | append_singleton l e ih =>
    rw [get?_ofList_concat]
    by_cases hkey : k = e.1
    · -- The new entry stands last.
      rw [if_pos hkey]
      constructor
      · intro h
        refine ⟨l.length, ?_, fun j hj w => ?_⟩
        · rw [List.getElem?_concat_length, hkey, ← Option.some.inj h]
        · rw [List.getElem?_eq_none (by simpa [Nat.succ_le_iff] using hj)]
          exact (Option.some_ne_none _).symm
      · rintro ⟨i, hi, hlast⟩
        have hbound : i ≤ l.length := by
          have := (List.getElem?_eq_some_iff.mp hi).1
          simpa [Nat.lt_succ_iff] using this
        obtain hlt | rfl := Nat.lt_or_eq_of_le hbound
        · refine absurd ?_ (hlast l.length hlt e.2)
          rw [List.getElem?_concat_length, hkey]
        · rw [List.getElem?_concat_length] at hi
          rw [Option.some.inj hi]
    · have hne : ∀ w, e ≠ (k, w) := fun w h => hkey (congrArg Prod.fst h).symm
      rw [if_neg hkey, ih]
      simp only [ne_eq, getElem?_concat_of_ne (hne _)]

/-- **A key is answered by its last position.** -/
theorem get?_ofList_zip {ks : List κ} {vs : List ν} (h : ks.length = vs.length) {k : κ} {v : ν} :
    (ofList (ks.zip vs)).get? k = some v ↔ ∃ i, IsLastAt ks i k ∧ vs[i]? = some v := by
  rw [get?_ofList_eq_some_iff]
  simp only [ne_eq, List.getElem?_zip_eq_some, IsLastAt]
  constructor
  · rintro ⟨i, ⟨hk, hv⟩, hlast⟩
    refine ⟨i, ⟨hk, fun j hj hjk => ?_⟩, hv⟩
    have hbound : j < vs.length := h ▸ (List.getElem?_eq_some_iff.mp hjk).1
    exact hlast j hj vs[j] ⟨hjk, List.getElem?_eq_getElem hbound⟩
  · rintro ⟨i, ⟨hk, hlast⟩, hv⟩
    exact ⟨i, ⟨hk, hv⟩, fun j hj w hw => hlast j hj hw.1⟩

end SchemaSurvey.SortedMap
