/-
  `SampleKeys` — catalogs built by hand keep the keys that a server keeps.

  A sample hands out its oids in sequence, so what it builds is known from the calls alone: the oids
  of its objects are those handed out so far, each once, and its attributes are the columns of the
  relations declared so far, numbered in order. `Sample.Built` says this of a sample together with
  the calls' own account of what they declare. It holds of a fresh sample, every call keeps it
  (`Sample.Built.run`), and so it holds after any calls (`Sample.built_build`).

  Oids wrap around at 2 ^ 32 and column numbers at 2 ^ 15. As long as neither happens the keys are
  distinct (`Sample.Built.keysUnique`, `Sample.Built.keysDistinct`), and so the order of the rows
  does not matter to a survey. `Sample.build_keysUnique` has it all together.
-/
import Mathlib.Data.List.Nodup
import SchemaSurvey.Proofs.Survey.RowOrder

namespace SchemaSurvey.Catalog

open Sample.Oids

/-- The oids of all relations, constraints and functions. -/
def Snapshot.objectOids (s : Snapshot) : List Oid :=
  s.classes.map ClassRow.oid ++ s.constraints.map ConstraintRow.oid ++
    s.procedures.map ProcedureRow.oid

namespace Sample

/-! ### Calls -/

/-- A call on a sample. -/
inductive Step where
  | relation (schema : Oid) (name : String) (kind : Char) (columns : List ColumnSpec)
  | table (schema : Oid) (name : String) (columns : List ColumnSpec)
  | primaryKey (relation : Oid) (name : String) (key : List Int16)
  | unique (relation : Oid) (name : String) (key : List Int16)
  | check (relation : Oid) (name : String) (key : List Int16)
  | foreignKey (relation : Oid) (name : String) (key : List Int16) (foreignRelation : Oid)
      (foreignKey : List Int16)
  | comment (relation : Oid) (part : Int32) (text : String)
  | aggregate (name : String) (arguments : List Oid) (returnType : Oid) (directArguments : Int16)
  | shop

/-- Makes a call. -/
def run (b : Sample) : Step → Sample
  | .relation schema name kind columns => b.relation schema name kind columns
  | .table schema name columns => b.table schema name columns
  | .primaryKey relation name key => b.primaryKey relation name key
  | .unique relation name key => b.unique relation name key
  | .check relation name key => b.check relation name key
  | .foreignKey relation name key foreignRelation foreignKey =>
    b.foreignKey relation name key foreignRelation foreignKey
  | .comment relation part text => b.comment relation part text
  | .aggregate name arguments returnType directArguments =>
    b.aggregate name arguments returnType directArguments
  | .shop => b.shop

/-- The sample after some calls on a fresh one. -/
def build (steps : List Step) : Sample := steps.foldl run {}

/-! ### What calls declare -/

/-- The oid that is handed out after `n` others. -/
def handedOut (n : Nat) : Oid := UInt32.ofNat (60001 + n)

/-- A relation in the words of the call that declares it. -/
structure Declaration where
  oid : Oid
  columns : List ColumnSpec

/-- The rows of the declared columns. -/
def Declaration.rows (d : Declaration) : List AttributeRow :=
  d.columns.mapIdx fun i c =>
    { relation := d.oid, name := c.name, number := Int16.ofNat (i + 1), type := c.type,
      notNull := c.notNull, dropped := false }

namespace Step

/-- How many oids a call takes. -/
def oidCount : Step → Nat
  | comment .. => 0
  | shop => 6
  | _ => 1

/-- The list of columns that a call is given. -/
def columns : Step → List ColumnSpec
  | .relation _ _ _ columns => columns
  | .table _ _ columns => columns
  | _ => []

/-- The relations that a call declares after `n` oids have been handed out. -/
def declarations (n : Nat) : Step → List Declaration
  | relation _ _ _ columns => [⟨handedOut n, columns⟩]
  | table _ _ columns => [⟨handedOut n, columns⟩]
  | shop => [⟨handedOut n, customerColumns⟩, ⟨handedOut (n + 3), orderColumns⟩]
  | _ => []

/-- The relation, or part of one, that a call comments on. -/
def commented? : Step → Option (Oid × Int32)
  | comment object part _ => some (object, part)
  | _ => none

end Step

/-- How many oids some calls take. -/
def oidCount : List Step → Nat
  | [] => 0
  | step :: steps => step.oidCount + oidCount steps

/-- The relations that some calls declare after `n` oids have been handed out. -/
def declarations (n : Nat) : List Step → List Declaration
  | [] => []
  | step :: steps => step.declarations n ++ declarations (n + step.oidCount) steps

theorem length_le_of_mem_declarations {bound n : Nat} {steps : List Step} (hbound : 3 ≤ bound)
    (h : ∀ step ∈ steps, step.columns.length ≤ bound) :
    ∀ d ∈ declarations n steps, d.columns.length ≤ bound := by
  induction steps generalizing n with
  | nil => exact fun d hd => absurd hd List.not_mem_nil
  | cons step steps ih =>
    obtain ⟨hstep, hsteps⟩ := List.forall_mem_cons.mp h
    intro d hd
    rcases List.mem_append.mp hd with hd | hd
    · cases step with
      | relation schema name kind columns => exact List.mem_singleton.mp hd ▸ hstep
      | table schema name columns => exact List.mem_singleton.mp hd ▸ hstep
      | shop =>
        -- Both tables of the shop have three columns.
        rcases List.mem_pair.mp hd with rfl | rfl <;> exact hbound
      | _ => exact absurd hd List.not_mem_nil
    · exact ih hsteps d hd

/-! ### Columns in order -/

/-- `rows` are the declared columns in order, live and numbered from 1. -/
structure Declaration.Numbers (d : Declaration) (rows : List AttributeRow) : Prop where
  columns : rows.map (fun a => ⟨a.name, a.type, a.notNull⟩) = d.columns
  numbers : rows.map (fun a => a.number.toInt) =
    (List.range d.columns.length).map fun i : Nat => (i : Int) + 1
  live : ∀ a ∈ rows, a.dropped = false

theorem Declaration.relation_of_mem_rows {d : Declaration} {a : AttributeRow} (h : a ∈ d.rows) :
    a.relation = d.oid := by
  obtain ⟨i, hi, rfl⟩ := List.mem_mapIdx.mp h
  rfl

theorem Declaration.filter_rows_self (d : Declaration) :
    d.rows.filter (fun a => a.relation = d.oid) = d.rows :=
  List.filter_eq_self.mpr fun _ ha => decide_eq_true (relation_of_mem_rows ha)

theorem Declaration.filter_rows_of_ne {d : Declaration} {oid : Oid} (h : d.oid ≠ oid) :
    d.rows.filter (fun a => a.relation = oid) = [] :=
  List.filter_eq_nil_iff.mpr fun _ ha hrelation =>
    h ((relation_of_mem_rows ha).symm.trans (of_decide_eq_true hrelation))

theorem Declaration.numbers_rows {d : Declaration} (h : d.columns.length ≤ 32767) :
    d.Numbers d.rows where
  columns := List.ext_getElem (by simp [rows]) fun i _ _ => by simp [rows]
  numbers := by
    refine List.ext_getElem (by simp [rows]) fun i hi _ => ?_
    have hlt : i + 1 < 2 ^ 15 := by
      rw [List.length_map, rows, List.length_mapIdx] at hi
      omega
    simp only [rows, List.getElem_map, List.getElem_mapIdx, List.getElem_range,
      Int16.toInt_ofNat_of_lt hlt]
    rfl
  live a ha := by
    obtain ⟨i, hi, rfl⟩ := List.mem_mapIdx.mp ha
    rfl

section

variable {declared : List Declaration}

/-- The rows of a relation are found by its oid. -/
theorem filter_flatMap_rows (hnodup : (declared.map Declaration.oid).Nodup) {d : Declaration}
    (hd : d ∈ declared) :
    (declared.flatMap Declaration.rows).filter (fun a => a.relation = d.oid) = d.rows := by
  induction declared with
  | nil => exact absurd hd List.not_mem_nil
  | cons e declared ih =>
    obtain ⟨hnot_mem, hnodup⟩ := List.nodup_cons.mp hnodup
    rw [List.flatMap_cons, List.filter_append]
    rcases List.mem_cons.mp hd with rfl | hd
    · have hother :
          (declared.flatMap Declaration.rows).filter (fun a => a.relation = d.oid) = [] := by
        rw [List.filter_flatMap, List.flatMap_eq_nil_iff]
        exact fun e he => Declaration.filter_rows_of_ne fun heq =>
          hnot_mem (heq ▸ List.mem_map_of_mem he)
      rw [Declaration.filter_rows_self, hother, List.append_nil]
    · have hne : e.oid ≠ d.oid := fun heq => hnot_mem (heq ▸ List.mem_map_of_mem hd)
      rw [Declaration.filter_rows_of_ne hne, List.nil_append, ih hnodup hd]

/-- No two declared columns share relation and number. -/
theorem nodup_flatMap_rows (hnodup : (declared.map Declaration.oid).Nodup)
    (hcolumns : ∀ d ∈ declared, d.columns.length ≤ 32767) :
    ((declared.flatMap Declaration.rows).map fun a => (a.relation, a.number)).Nodup := by
  rw [List.map_flatMap]
  refine List.nodup_flatMap.mpr ⟨fun d hd => ?_, (List.pairwise_map.mp hnodup).imp fun hne => ?_⟩
  · -- Within a relation the numbers tell columns apart, as long as they do not wrap around.
    refine List.Nodup.of_map (fun key => key.2.toInt) ?_
    rw [List.map_map]
    show (d.rows.map fun a => a.number.toInt).Nodup
    rw [(Declaration.numbers_rows (hcolumns d hd)).numbers]
    exact List.nodup_range.map fun i j hij => by omega
  · -- Columns of different relations differ in the relation.
    refine List.disjoint_left.mpr fun key hkey hkey' => hne ?_
    obtain ⟨a, ha, rfl⟩ := List.mem_map.mp hkey
    obtain ⟨b, hb, heq⟩ := List.mem_map.mp hkey'
    rw [← Declaration.relation_of_mem_rows ha, ← Declaration.relation_of_mem_rows hb]
    exact (congrArg Prod.fst heq).symm

end

/-! ### The account of a sample -/

/-- The sample has handed out `count` oids, one for each object, and has these relations and
comments and the types and schemas of a stock server. -/
structure Built (b : Sample) (count : Nat) (declared : List Declaration)
    (commented : List (Oid × Int32)) : Prop where
  nextOid : b.nextOid = handedOut count
  objects : b.snapshot.objectOids.Perm ((List.range count).map handedOut)
  classes : b.snapshot.classes.map ClassRow.oid = declared.map Declaration.oid
  attributes : b.snapshot.attributes = declared.flatMap Declaration.rows
  aggregates : b.snapshot.aggregates.map AggregateRow.procedure =
    b.snapshot.procedures.map ProcedureRow.oid
  descriptions : b.snapshot.descriptions.map (fun d => (d.object, d.holder, d.part)) =
    commented.map fun c => (c.1, Survey.relationHolder, c.2)
  namespaces : b.snapshot.namespaces = Snapshot.stock.namespaces
  types : b.snapshot.types = Snapshot.stock.types

theorem handedOut_succ (n : Nat) : handedOut (n + 1) = handedOut n + 1 :=
  UInt32.ofNat_add (60001 + n) 1

theorem built_fresh : Built {} 0 [] [] where
  nextOid := rfl
  objects := .nil
  classes := rfl
  attributes := rfl
  aggregates := rfl
  descriptions := rfl
  namespaces := rfl
  types := rfl

/-- A foreign key is a constraint like the others, and no other row changes. -/
theorem addForeignKey_eq (s : Snapshot) (oid relation : Oid) (name : String) (key : List Int16)
    (foreignRelation : Oid) (foreignKey : List Int16) :
    s.addForeignKey oid relation name key foreignRelation foreignKey =
      { s with
        constraints := s.constraints ++
          [⟨oid, publicSchema, name, relation, 'f', key, foreignRelation, foreignKey⟩] } := by
  -- The constraint that was added last stands at the end of the list.
  rw [Snapshot.addForeignKey, Snapshot.pointLast, Snapshot.addConstraint]
  simp [List.modify_eq_take_cons_drop]

namespace Built

variable {b : Sample} {n : Nat} {declared : List Declaration} {commented : List (Oid × Int32)}

/-! ### Call by call -/

theorem nextOid_place (h : Built b n declared commented) (add : Snapshot → Oid → Snapshot) :
    (b.place add).nextOid = handedOut (n + 1) := by
  rw [handedOut_succ, ← h.nextOid]
  rfl

/-- The new object has the oid that comes next. -/
theorem objects_place (h : Built b n declared commented) {add : Snapshot → Oid → Snapshot}
    (hadd : (add b.snapshot b.nextOid).objectOids.Perm (b.snapshot.objectOids ++ [b.nextOid])) :
    (b.place add).snapshot.objectOids.Perm ((List.range (n + 1)).map handedOut) := by
  rw [List.range_succ, List.map_append, List.map_singleton, ← h.nextOid]
  exact hadd.trans (h.objects.append_right _)

theorem relation (h : Built b n declared commented) (schema : Oid) (name : String) (kind : Char)
    (columns : List ColumnSpec) :
    Built (b.relation schema name kind columns) (n + 1) (declared ++ [⟨handedOut n, columns⟩])
      commented where
  nextOid := h.nextOid_place _
  objects := h.objects_place <| by
    simp only [Snapshot.objectOids, Snapshot.addRelation, List.map_append, List.map_singleton,
      List.append_assoc]
    exact (List.perm_append_comm.trans (by simp)).append_left _
  classes := by
    rw [List.map_append, ← h.classes, ← h.nextOid]
    exact List.map_append
  attributes := by
    rw [List.flatMap_append, ← h.attributes, ← h.nextOid, List.flatMap_singleton]
    rfl
  aggregates := h.aggregates
  descriptions := h.descriptions
  namespaces := h.namespaces
  types := h.types

/-- What adds one constraint under the next oid changes nothing else. -/
theorem constraint (h : Built b n declared commented) {add : Snapshot → Oid → Snapshot}
    (hadd : ∀ s oid, ∃ c : ConstraintRow, c.oid = oid ∧
      add s oid = { s with constraints := s.constraints ++ [c] }) :
    Built (b.place add) (n + 1) declared commented := by
  obtain ⟨c, hoid, hsnapshot⟩ := hadd b.snapshot b.nextOid
  have hplaced : (b.place add).snapshot =
      { b.snapshot with constraints := b.snapshot.constraints ++ [c] } := hsnapshot
  refine ⟨h.nextOid_place _, h.objects_place ?_, ?_, ?_, ?_, ?_, ?_, ?_⟩
  · rw [hsnapshot]
    simp only [Snapshot.objectOids, List.map_append, List.map_singleton, List.append_assoc, hoid]
    exact (List.perm_append_comm.append_left _).append_left _
  all_goals rw [hplaced]
  exacts [h.classes, h.attributes, h.aggregates, h.descriptions, h.namespaces, h.types]

theorem key (h : Built b n declared commented) (relation : Oid) (name : String) (kind : Char)
    (key : List Int16) :
    Built (b.place fun s oid => s.addConstraint oid relation name kind key) (n + 1) declared
      commented :=
  h.constraint fun _ _ => ⟨_, rfl, rfl⟩

theorem foreignKey (h : Built b n declared commented) (relation : Oid) (name : String)
    (key : List Int16) (foreignRelation : Oid) (foreignKey : List Int16) :
    Built (b.foreignKey relation name key foreignRelation foreignKey) (n + 1) declared
      commented :=
  h.constraint fun s oid => ⟨_, rfl, addForeignKey_eq s oid ..⟩

theorem comment (h : Built b n declared commented) (relation : Oid) (part : Int32)
    (text : String) :
    Built (b.comment relation part text) n declared (commented ++ [(relation, part)]) where
  nextOid := h.nextOid
  objects := h.objects
  classes := h.classes
  attributes := h.attributes
  aggregates := h.aggregates
  descriptions := by
    rw [List.map_append, ← h.descriptions]
    exact List.map_append
  namespaces := h.namespaces
  types := h.types

theorem aggregate (h : Built b n declared commented) (name : String) (arguments : List Oid)
    (returnType : Oid) (directArguments : Int16) :
    Built (b.aggregate name arguments returnType directArguments) (n + 1) declared
      commented where
  nextOid := h.nextOid_place _
  objects := h.objects_place <| by
    simp only [Snapshot.objectOids, Snapshot.addAggregate, List.map_append, List.map_singleton,
      List.append_assoc]
    exact .refl _
  classes := h.classes
  attributes := h.attributes
  aggregates := by
    -- The function and its aggregate are added side by side.
    have haggregates := congrArg (· ++ [b.nextOid]) h.aggregates
    simpa [Sample.aggregate, place, Snapshot.addAggregate] using haggregates
  descriptions := h.descriptions
  namespaces := h.namespaces
  types := h.types

/-- The shop makes six calls. -/
theorem shop (h : Built b n declared commented) :
    Built b.shop (n + 6)
      (declared ++ [⟨handedOut n, customerColumns⟩, ⟨handedOut (n + 3), orderColumns⟩])
      commented := by
  have hcustomers := h.relation publicSchema "customers" 'r' customerColumns
  have hcustomer_keys :=
    (hcustomers.key b.nextOid "customers_pkey" 'p' [1]).key b.nextOid "customers_email_key" 'u' [3]
  have horders := hcustomer_keys.relation publicSchema "orders" 'r' orderColumns
  rw [List.append_assoc] at horders
  exact (horders.key _ "orders_pkey" 'p' [1]).foreignKey _ "orders_customer_id_fkey" [2]
    b.nextOid [1]

/-- **Every call keeps the account.** -/
theorem run (h : Built b n declared commented) (step : Step) :
    Built (b.run step) (n + step.oidCount) (declared ++ step.declarations n)
      (commented ++ step.commented?.toList) := by
  cases step <;> simp only [Step.declarations, Step.commented?, Option.toList_none,
    Option.toList_some, List.append_nil]
  case relation schema name kind columns => exact h.relation schema name kind columns
  case table schema name columns => exact h.relation schema name 'r' columns
  case primaryKey relation name key => exact h.key relation name 'p' key
  case unique relation name key => exact h.key relation name 'u' key
  case check relation name key => exact h.key relation name 'c' key
  case foreignKey relation name key foreignRelation foreignKey =>
    exact h.foreignKey relation name key foreignRelation foreignKey
  case comment relation part text => exact h.comment relation part text
  case aggregate name arguments returnType directArguments =>
    exact h.aggregate name arguments returnType directArguments
  case shop => exact h.shop

/-- **What a sample holds stays known,** whatever calls follow. -/
theorem foldl (h : Built b n declared commented) (steps : List Step) :
    Built (steps.foldl Sample.run b) (n + oidCount steps) (declared ++ declarations n steps)
      (commented ++ steps.filterMap Step.commented?) := by
  -- The sample moves on with each call, and its account with it.
  induction steps generalizing b n declared commented with
  | nil => simpa [oidCount, declarations] using h
  | cons step steps ih =>
    have hsteps := ih (h.run step)
    rw [List.append_assoc, List.append_assoc, Nat.add_assoc] at hsteps
    have hcommented : step.commented?.toList ++ steps.filterMap Step.commented? =
        (step :: steps).filterMap Step.commented? := by
      cases hstep : step.commented? <;> simp [hstep]
    rw [hcommented] at hsteps
    exact hsteps

end Built

/-- **What a sample holds is known from the calls.** -/
theorem built_build (steps : List Step) :
    Built (build steps) (oidCount steps) (declarations 0 steps)
      (steps.filterMap Step.commented?) := by
  simpa [build] using built_fresh.foldl steps

/-! ### Distinct keys -/

theorem toNat_handedOut {n : Nat} (h : n < UInt32.size - 60001) : (handedOut n).toNat = 60001 + n :=
  UInt32.toNat_ofNat_of_lt' (by omega)

theorem nodup_map_handedOut {n : Nat} (h : n < UInt32.size - 60000) :
    ((List.range n).map handedOut).Nodup := by
  refine List.Nodup.map_on (fun i hi j hj hij => ?_) List.nodup_range
  rw [List.mem_range] at hi hj
  have htoNat := congrArg UInt32.toNat hij
  rw [toNat_handedOut (by omega), toNat_handedOut (by omega)] at htoNat
  omega

/-- The keys of a snapshot in which these relations are declared. -/
structure KeysUnique (s : Snapshot) (declared : List Declaration) : Prop where
  /-- Relations, constraints and functions share no oid. -/
  objects : s.objectOids.Nodup
  above : ∀ oid ∈ s.objectOids, 60000 < oid
  /-- The relations are those declared. -/
  classes : s.classes.map ClassRow.oid = declared.map Declaration.oid
  /-- Their attributes are the declared columns, numbered in order. -/
  numbered : ∀ d ∈ declared, d.Numbers (s.attributes.filter fun a => a.relation = d.oid)
  attributes : (s.attributes.map fun a => (a.relation, a.number)).Nodup
  /-- Every function is an aggregate once. -/
  aggregates : ∀ p ∈ s.procedures, s.aggregates.countP (fun a => a.procedure = p.oid) = 1

namespace Built

variable {b : Sample} {n : Nat} {declared : List Declaration} {commented : List (Oid × Int32)}

theorem nodup_objectOids (h : Built b n declared commented) (hn : n < UInt32.size - 60000) :
    b.snapshot.objectOids.Nodup :=
  h.objects.nodup_iff.mpr (nodup_map_handedOut hn)

theorem nodup_declared (h : Built b n declared commented) (hn : n < UInt32.size - 60000) :
    (declared.map Declaration.oid).Nodup := by
  rw [← h.classes]
  exact (List.nodup_append.mp (List.nodup_append.mp (h.nodup_objectOids hn)).1).1

theorem nodup_procedures (h : Built b n declared commented) (hn : n < UInt32.size - 60000) :
    (b.snapshot.procedures.map ProcedureRow.oid).Nodup :=
  (List.nodup_append.mp (h.nodup_objectOids hn)).2.1

theorem keysUnique (h : Built b n declared commented) (hn : n < UInt32.size - 60000)
    (hcolumns : ∀ d ∈ declared, d.columns.length ≤ 32767) : KeysUnique b.snapshot declared where
  objects := h.nodup_objectOids hn
  above oid hoid := by
    obtain ⟨i, hi, rfl⟩ := List.mem_map.mp (h.objects.mem_iff.mp hoid)
    rw [List.mem_range] at hi
    rw [UInt32.lt_iff_toNat_lt, toNat_handedOut (by omega)]
    show 60000 < 60001 + i
    omega
  classes := h.classes
  numbered d hd := by
    rw [h.attributes, filter_flatMap_rows (h.nodup_declared hn) hd]
    exact Declaration.numbers_rows (hcolumns d hd)
  attributes := by
    rw [h.attributes]
    exact nodup_flatMap_rows (h.nodup_declared hn) hcolumns
  aggregates p hp := by
    -- Aggregates and functions list the same oids, and no function shares its own.
    have hmem : p.oid ∈ b.snapshot.aggregates.map AggregateRow.procedure := by
      rw [h.aggregates]
      exact List.mem_map_of_mem hp
    have hcount := List.count_eq_one_of_mem (h.aggregates ▸ h.nodup_procedures hn) hmem
    rw [List.count, List.countP_map] at hcount
    rw [← hcount]
    exact List.countP_congr fun a _ => by simp

/-- The order of the rows does not matter if nothing is commented twice. -/
theorem keysDistinct (h : Built b n declared commented) (hn : n < UInt32.size - 60000)
    (hcolumns : ∀ d ∈ declared, d.columns.length ≤ 32767) (hcommented : commented.Nodup) :
    b.snapshot.KeysDistinct where
  namespaces := by
    rw [h.namespaces]
    decide
  types := by
    rw [h.types]
    decide
  attributes := (h.keysUnique hn hcolumns).attributes
  descriptions := by
    rw [h.descriptions]
    refine hcommented.map fun c d heq => ?_
    obtain ⟨hrelation, hpart⟩ : c.1 = d.1 ∧ c.2 = d.2 := by simpa using heq
    exact Prod.ext hrelation hpart
  constraints := (List.nodup_append.mp (List.nodup_append.mp (h.nodup_objectOids hn)).1).2.1
  aggregates := by
    rw [h.aggregates]
    exact h.nodup_procedures hn

end Built

/-- **Samples keep their keys.** Whatever calls are made on a fresh sample, as long as the oids
suffice and no relation has more columns than can be numbered: no two objects share an oid, columns
are numbered in the order of their declaration, and every function is an aggregate once. A foreign
key adds its row and changes no other. So if nothing is commented twice, the document does not
depend on the order of the rows. -/
theorem build_keysUnique {steps : List Step} (hoids : oidCount steps < UInt32.size - 60000)
    (hcolumns : ∀ step ∈ steps, step.columns.length ≤ 32767) :
    KeysUnique (build steps).snapshot (declarations 0 steps) ∧
      (∀ (b : Sample) (relation : Oid) (name : String) (key : List Int16) (foreignRelation : Oid)
        (foreignKey : List Int16),
        (b.foreignKey relation name key foreignRelation foreignKey).snapshot =
          { b.snapshot with
            constraints := b.snapshot.constraints ++
              [⟨b.nextOid, publicSchema, name, relation, 'f', key, foreignRelation,
                foreignKey⟩] }) ∧
      ((steps.filterMap Step.commented?).Nodup → ∀ (s : Snapshot) (excluded : List String),
        (build steps).snapshot.Reordered s →
          (build steps).snapshot.resolve excluded = s.resolve excluded) := by
  have hbuilt := built_build steps
  have hdeclared : ∀ d ∈ declarations 0 steps, d.columns.length ≤ 32767 :=
    length_le_of_mem_declarations (by decide) hcolumns
  refine ⟨hbuilt.keysUnique hoids hdeclared, fun b _ _ _ _ _ => ?_, ?_⟩
  · exact addForeignKey_eq b.snapshot b.nextOid ..
  · intro hcommented s excluded hrows
    exact resolve_reordered (hbuilt.keysDistinct hoids hdeclared hcommented) hrows (.refl _)

/-- Calls of every kind, one foreign key between the shop and a table of another schema. -/
def branches : List Step :=
  [.shop, .table sales "branches" [⟨"id", int4, true⟩, ⟨"city", text, false⟩],
    .primaryKey 60007 "branches_pkey" [1], .unique 60007 "branches_city_key" [2],
    .relation archive "orders" 'v' [⟨"id", int4, false⟩],
    .foreignKey 60004 "orders_branch_fkey" [2] 60007 [1], .check 60004 "orders_check" [3],
    .comment 60007 0 "Where the shop sells", .comment 60007 2 "Name of the city",
    .aggregate "sum" [int4] int8 0]

/-- The branches may come in any order. -/
theorem branches_keysUnique :
    oidCount branches < UInt32.size - 60000 ∧
      (∀ step ∈ branches, step.columns.length ≤ 32767) ∧
      (branches.filterMap Step.commented?).Nodup ∧
      KeysUnique (build branches).snapshot (declarations 0 branches) ∧
      (declarations 0 branches).map Declaration.oid = [60001, 60004, 60007, 60010] ∧
      (build branches).snapshot.resolve excluded =
        (build branches).snapshot.reversed.resolve excluded := by
  have hoids : oidCount branches < UInt32.size - 60000 := by decide
  have hcolumns : ∀ step ∈ branches, step.columns.length ≤ 32767 := by decide
  have hcommented : (branches.filterMap Step.commented?).Nodup := by decide
  obtain ⟨hkeys, -, hreordered⟩ := build_keysUnique hoids hcolumns
  exact ⟨hoids, hcolumns, hcommented, hkeys, by decide,
    hreordered hcommented _ _ (Snapshot.reordered_reversed _)⟩

end Sample

end SchemaSurvey.Catalog
