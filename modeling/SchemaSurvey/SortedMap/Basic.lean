/-
  `SortedMap` — finite maps held in key order.

  `SortedMap κ ν` is the list of a map's entries in strictly ascending key order. The order is part
  of the type, so a map has exactly one representation: two maps that answer every `get?` alike are
  equal (`SortedMap.ext_get?`, in `SortedMap.Lemmas`), and the text written from a map depends on
  nothing but its content.

  Every operation is a single structural pass over the entries, so closed examples evaluate.
-/

namespace SchemaSurvey

/-- A finite map whose entries are listed in strictly ascending key order. -/
structure SortedMap (κ ν : Type) [Ord κ] where
  /-- The entries, by ascending key. -/
  toList : List (κ × ν)
  /-- Keys ascend strictly; in particular no key occurs twice. -/
  sorted : toList.Pairwise fun a b => compare a.1 b.1 = .lt

namespace SortedMap

variable {κ ν μ : Type} [Ord κ]

/-- The map without entries. -/
def empty : SortedMap κ ν := ⟨[], .nil⟩

instance : EmptyCollection (SortedMap κ ν) := ⟨empty⟩

instance : Inhabited (SortedMap κ ν) := ⟨empty⟩

instance [DecidableEq κ] [DecidableEq ν] : DecidableEq (SortedMap κ ν) := fun m n =>
  if h : m.toList = n.toList then
    .isTrue (by cases m; cases n; simp_all)
  else
    .isFalse fun e => h (e ▸ rfl)

/-- The keys, ascending. -/
def keys (m : SortedMap κ ν) : List κ := m.toList.map Prod.fst

/-- The values, in the order of their keys. -/
def values (m : SortedMap κ ν) : List ν := m.toList.map Prod.snd

/-- The number of entries. -/
def size (m : SortedMap κ ν) : Nat := m.toList.length

/-- Whether there are no entries. -/
def isEmpty (m : SortedMap κ ν) : Bool := m.toList.isEmpty

/-! ### Lookup -/

/-- The value listed under `k`. -/
def lookupEntry (k : κ) : List (κ × ν) → Option ν
  | [] => none
  | (j, v) :: rest => if compare k j = .eq then some v else lookupEntry k rest

/-- The value stored under `k`, if there is one. -/
def get? (m : SortedMap κ ν) (k : κ) : Option ν := lookupEntry k m.toList

/-- Whether a value is stored under `k`. -/
def contains (m : SortedMap κ ν) (k : κ) : Bool := (m.get? k).isSome

/-! ### Insertion -/

/-- Puts an entry in its place; an entry with an equal key is replaced. -/
def insertEntry (k : κ) (v : ν) : List (κ × ν) → List (κ × ν)
  | [] => [(k, v)]
  | (j, w) :: rest =>
    match compare k j with
    | .lt => (k, v) :: (j, w) :: rest
    | .eq => (k, v) :: rest
    | .gt => (j, w) :: insertEntry k v rest

theorem mem_insertEntry {k : κ} {v : ν} {e : κ × ν} {l : List (κ × ν)}
    (h : e ∈ insertEntry k v l) : e = (k, v) ∨ e ∈ l := by
  induction l with
  | nil => simp_all [insertEntry]
  | cons hd tl ih =>
    obtain ⟨j, w⟩ := hd
    unfold insertEntry at h
    split at h
    · simpa using h
    · rcases List.mem_cons.1 h with h | h <;> simp [h]
    · rcases List.mem_cons.1 h with h | h
      · simp [h]
      · rcases ih h with h | h <;> simp [h]

theorem pairwise_insertEntry [Std.TransOrd κ] [Std.LawfulEqOrd κ] (k : κ) (v : ν)
    {l : List (κ × ν)} (h : l.Pairwise fun a b => compare a.1 b.1 = .lt) :
    (insertEntry k v l).Pairwise fun a b => compare a.1 b.1 = .lt := by
  induction l with
  | nil => simp [insertEntry]
  | cons hd tl ih =>
    obtain ⟨j, w⟩ := hd
    obtain ⟨hd_lt, tl_sorted⟩ := List.pairwise_cons.1 h
    unfold insertEntry
    split
    · rename_i hlt
      refine List.pairwise_cons.2 ⟨fun e he => ?_, h⟩
      rcases List.mem_cons.1 he with rfl | he
      · exact hlt
      · exact Std.TransCmp.lt_trans hlt (hd_lt e he)
    · rename_i heq
      obtain rfl : k = j := Std.LawfulEqOrd.eq_of_compare heq
      exact List.pairwise_cons.2 ⟨fun e he => hd_lt e he, tl_sorted⟩
    · rename_i hgt
      refine List.pairwise_cons.2 ⟨fun e he => ?_, ih tl_sorted⟩
      rcases mem_insertEntry he with rfl | he
      · exact Std.OrientedCmp.gt_iff_lt.1 hgt
      · exact hd_lt e he

variable [Std.TransOrd κ] [Std.LawfulEqOrd κ]

/-- Stores `v` under `k`; a value already there is replaced. -/
def insert (m : SortedMap κ ν) (k : κ) (v : ν) : SortedMap κ ν :=
  ⟨insertEntry k v m.toList, pairwise_insertEntry k v m.sorted⟩

/-- Stores the entries one after another, so the last entry of a key wins. -/
def ofList (l : List (κ × ν)) : SortedMap κ ν := l.foldl (fun m e => m.insert e.1 e.2) empty

/-- Stores `v` under `k`, or what `f` makes of the value that is there already. -/
def insertWith (m : SortedMap κ ν) (k : κ) (f : Option ν → ν) : SortedMap κ ν :=
  m.insert k (f (m.get? k))

omit [Std.TransOrd κ] [Std.LawfulEqOrd κ]

/-! ### Entry by entry -/

/-- Applies `f` to every entry and keeps the results that there are, each under its old key. -/
def filterMap (m : SortedMap κ ν) (f : κ → ν → Option μ) : SortedMap κ μ where
  toList := m.toList.filterMap fun e => (f e.1 e.2).map (e.1, ·)
  sorted := by
    refine List.pairwise_filterMap.2 (m.sorted.imp ?_)
    intro a b h a' ha b' hb
    obtain ⟨x, -, rfl⟩ := Option.map_eq_some_iff.1 ha
    obtain ⟨y, -, rfl⟩ := Option.map_eq_some_iff.1 hb
    exact h

/-- Applies `f` to every value, with its key at hand. -/
def map (m : SortedMap κ ν) (f : κ → ν → μ) : SortedMap κ μ where
  toList := m.toList.map fun e => (e.1, f e.1 e.2)
  sorted := by simpa [List.pairwise_map] using m.sorted

/-- Removes the entry of `k`, if there is one. -/
def erase (m : SortedMap κ ν) (k : κ) : SortedMap κ ν where
  toList := m.toList.filter fun e => compare k e.1 != .eq
  sorted := m.sorted.sublist List.filter_sublist

end SortedMap

end SchemaSurvey
