/-
  `Abridging` — what may be left out of a written object, and what may not.

  A `Shape` says where a written value has members that may be left out, each with its default, and
  where it has members that may not. It says so in JSON, apart from the codecs. From a shape it is
  clear what it is to abridge a value, by leaving out members that have their defaults at any depth
  (`Shape.Abridges`), and what it is to lack a required member somewhere (`Shape.Lacks`).

  A codec follows a shape if it reads an abridged value as the value itself and refuses a value that
  lacks a member, naming the member (`Codec.Follows`). Every combinator keeps this. For records the
  induction is on the fields: the members before the one in question are read whether they are
  abridged or not, and those after it are only looked at if it is the object itself that lacks it.
-/
import SchemaSurvey.Proofs.Json.Record
import SchemaSurvey.Proofs.Json.RoundTrip
import SchemaSurvey.Proofs.SortedMap.Building

namespace SchemaSurvey.Json

/-! ### Shapes -/

mutual

/-- Where a value has members that may be left out. -/
inductive Shape where
  /-- Nothing inside the value can be left out, and nothing is missed. -/
  | whole
  /-- An object of entries under any keys, all of one shape. -/
  | entries (value : Shape)
  /-- An object with fixed members. -/
  | record (members : Members)

/-- The members of an object in the order in which they are written. A member with a default may be
left out where it has that value; one without is required. -/
inductive Members where
  | nil
  | cons (name : String) (default? : Option Json) (value : Shape) (rest : Members)

end

/-- A required member. -/
abbrev Members.required (name : String) (value : Shape) (rest : Members) : Members :=
  .cons name none value rest

/-- A member that may be left out where it has its default. -/
abbrev Members.optional (name : String) (default : Json) (value : Shape) (rest : Members) :
    Members :=
  .cons name (some default) value rest

/-! ### Leaving out -/

mutual

/-- The second value is the first without some members that have their defaults, at any depth. -/
inductive Shape.Abridges : Shape → Json → Json → Prop where
  | whole (v : Json) : Shape.Abridges .whole v v
  | entries {shape : Shape} {ms ms' : List (String × Json)}
      (hentries : shape.AbridgesEntries ms ms') :
      Shape.Abridges (.entries shape) (.object ms) (.object ms')
  | record {members : Members} {ms ms' : List (String × Json)}
      (hmembers : members.Abridges ms ms') :
      Shape.Abridges (.record members) (.object ms) (.object ms')

/-- Every entry is there, and may be abridged. -/
inductive Shape.AbridgesEntries :
    Shape → List (String × Json) → List (String × Json) → Prop where
  | nil {shape : Shape} : Shape.AbridgesEntries shape [] []
  | cons {shape : Shape} {key : String} {v w : Json} {ms ms' : List (String × Json)}
      (hvalue : shape.Abridges v w) (hrest : shape.AbridgesEntries ms ms') :
      Shape.AbridgesEntries shape ((key, v) :: ms) ((key, w) :: ms')

/-- Members are kept, abridged or not, or left out where they have their defaults. -/
inductive Members.Abridges :
    Members → List (String × Json) → List (String × Json) → Prop where
  | nil : Members.Abridges .nil [] []
  | kept {name : String} {default? : Option Json} {shape : Shape} {rest : Members} {v w : Json}
      {ms ms' : List (String × Json)} (hvalue : shape.Abridges v w) (hrest : rest.Abridges ms ms') :
      Members.Abridges (.cons name default? shape rest) ((name, v) :: ms) ((name, w) :: ms')
  | left {name : String} {default : Json} {shape : Shape} {rest : Members}
      {ms ms' : List (String × Json)} (hrest : rest.Abridges ms ms') :
      Members.Abridges (.cons name (some default) shape rest) ((name, default) :: ms) ms'
  /-- The first value has no such member either. -/
  | absent {name : String} {default : Json} {shape : Shape} {rest : Members}
      {ms ms' : List (String × Json)} (habsent : ∀ m ∈ ms, m.1 ≠ name)
      (hrest : rest.Abridges ms ms') :
      Members.Abridges (.cons name (some default) shape rest) ms ms'

end

mutual

/-- The second value is the first without a required member of this name, somewhere inside it. It
may be abridged otherwise. -/
inductive Shape.Lacks (name : String) : Shape → Json → Json → Prop where
  | entries {shape : Shape} {ms ms' : List (String × Json)}
      (hentries : shape.LacksEntries name ms ms') :
      Shape.Lacks name (.entries shape) (.object ms) (.object ms')
  | record {members : Members} {ms ms' : List (String × Json)}
      (hmembers : members.Lacks name ms ms') :
      Shape.Lacks name (.record members) (.object ms) (.object ms')

/-- One of the entries lacks the member. -/
inductive Shape.LacksEntries (name : String) :
    Shape → List (String × Json) → List (String × Json) → Prop where
  | here {shape : Shape} {key : String} {v w : Json} {ms ms' : List (String × Json)}
      (hvalue : shape.Lacks name v w) (hrest : shape.AbridgesEntries ms ms') :
      Shape.LacksEntries name shape ((key, v) :: ms) ((key, w) :: ms')
  | later {shape : Shape} {key : String} {v w : Json} {ms ms' : List (String × Json)}
      (hvalue : shape.Abridges v w) (hrest : shape.LacksEntries name ms ms') :
      Shape.LacksEntries name shape ((key, v) :: ms) ((key, w) :: ms')

/-- The member itself is missing, or one of the members lacks it. -/
inductive Members.Lacks (name : String) :
    Members → List (String × Json) → List (String × Json) → Prop where
  | missing {shape : Shape} {rest : Members} {v : Json} {ms ms' : List (String × Json)}
      (hrest : rest.Abridges ms ms') :
      Members.Lacks name (.cons name none shape rest) ((name, v) :: ms) ms'
  | inside {field : String} {default? : Option Json} {shape : Shape} {rest : Members} {v w : Json}
      {ms ms' : List (String × Json)} (hvalue : shape.Lacks name v w)
      (hrest : rest.Abridges ms ms') :
      Members.Lacks name (.cons field default? shape rest) ((field, v) :: ms) ((field, w) :: ms')
  | kept {field : String} {default? : Option Json} {shape : Shape} {rest : Members} {v w : Json}
      {ms ms' : List (String × Json)} (hvalue : shape.Abridges v w)
      (hrest : rest.Lacks name ms ms') :
      Members.Lacks name (.cons field default? shape rest) ((field, v) :: ms) ((field, w) :: ms')
  | left {field : String} {default : Json} {shape : Shape} {rest : Members}
      {ms ms' : List (String × Json)} (hrest : rest.Lacks name ms ms') :
      Members.Lacks name (.cons field (some default) shape rest) ((field, default) :: ms) ms'
  | absent {field : String} {default : Json} {shape : Shape} {rest : Members}
      {ms ms' : List (String × Json)} (habsent : ∀ m ∈ ms, m.1 ≠ field)
      (hrest : rest.Lacks name ms ms') :
      Members.Lacks name (.cons field (some default) shape rest) ms ms'

end

/-! What is left has its members in the order of the original, under their names. -/

theorem Members.Abridges.sublist : ∀ {members : Members} {ms ms' : List (String × Json)},
    members.Abridges ms ms' → (ms'.map Prod.fst).Sublist (ms.map Prod.fst)
  | _, _, _, .nil => .slnil
  | _, _, _, .kept _ hrest => hrest.sublist.cons_cons _
  | _, _, _, .left hrest => hrest.sublist.cons _
  | _, _, _, .absent _ hrest => hrest.sublist

theorem Members.Lacks.sublist {name : String} :
    ∀ {members : Members} {ms ms' : List (String × Json)},
      members.Lacks name ms ms' → (ms'.map Prod.fst).Sublist (ms.map Prod.fst)
  | _, _, _, .missing hrest => hrest.sublist.cons _
  | _, _, _, .inside _ hrest => hrest.sublist.cons_cons _
  | _, _, _, .kept _ hrest => hrest.sublist.cons_cons _
  | _, _, _, .left hrest => hrest.sublist.cons _
  | _, _, _, .absent _ hrest => hrest.sublist

/-! What is left has no numbers that were not there before. -/

mutual

theorem Shape.Abridges.fits : ∀ {shape : Shape} {v w : Json},
    shape.Abridges v w → v.Fits → w.Fits
  | _, _, _, .whole _, h => h
  | _, _, _, .entries hentries, h => hentries.membersFit h
  | _, _, _, .record hmembers, h => hmembers.membersFit h

theorem Shape.AbridgesEntries.membersFit : ∀ {shape : Shape} {ms ms' : List (String × Json)},
    shape.AbridgesEntries ms ms' → MembersFit ms → MembersFit ms'
  | _, _, _, .nil, _ => trivial
  | _, _, _, .cons hvalue hrest, h => ⟨hvalue.fits h.1, hrest.membersFit h.2⟩

theorem Members.Abridges.membersFit : ∀ {members : Members} {ms ms' : List (String × Json)},
    members.Abridges ms ms' → MembersFit ms → MembersFit ms'
  | _, _, _, .nil, _ => trivial
  | _, _, _, .kept hvalue hrest, h => ⟨hvalue.fits h.1, hrest.membersFit h.2⟩
  | _, _, _, .left hrest, h => hrest.membersFit h.2
  | _, _, _, .absent _ hrest, h => hrest.membersFit h

end

mutual

theorem Shape.Lacks.fits {name : String} : ∀ {shape : Shape} {v w : Json},
    shape.Lacks name v w → v.Fits → w.Fits
  | _, _, _, .entries hentries, h => hentries.membersFit h
  | _, _, _, .record hmembers, h => hmembers.membersFit h

theorem Shape.LacksEntries.membersFit {name : String} :
    ∀ {shape : Shape} {ms ms' : List (String × Json)},
      shape.LacksEntries name ms ms' → MembersFit ms → MembersFit ms'
  | _, _, _, .here hvalue hrest, h => ⟨hvalue.fits h.1, hrest.membersFit h.2⟩
  | _, _, _, .later hvalue hrest, h => ⟨hvalue.fits h.1, hrest.membersFit h.2⟩

theorem Members.Lacks.membersFit {name : String} :
    ∀ {members : Members} {ms ms' : List (String × Json)},
      members.Lacks name ms ms' → MembersFit ms → MembersFit ms'
  | _, _, _, .missing hrest, h => hrest.membersFit h.2
  | _, _, _, .inside hvalue hrest, h => ⟨hvalue.fits h.1, hrest.membersFit h.2⟩
  | _, _, _, .kept hvalue hrest, h => ⟨hvalue.fits h.1, hrest.membersFit h.2⟩
  | _, _, _, .left hrest, h => hrest.membersFit h.2
  | _, _, _, .absent _ hrest, h => hrest.membersFit h

end

/-! ### Codecs -/

/-- **A codec that follows a shape.** It writes values of the shape, it reads an abridged value as
the value itself, and it names a required member that a value lacks, wherever `height` levels of
nesting are allowed. -/
structure Codec.Follows {α : Type} (c : Codec α) (shape : Shape) (height : Nat) : Prop where
  fits : ∀ a, (c.write a).Fits
  abridges_self : ∀ a, shape.Abridges (c.write a) (c.write a)
  read_of_abridges : ∀ a v depth, height < depth → shape.Abridges (c.write a) v →
    c.read depth v.tree = .ok a
  read_of_lacks : ∀ name a v depth, height < depth → shape.Lacks name (c.write a) v →
    c.read depth v.tree = .error (.missingField name)

namespace Codec

variable {α : Type} {c : Codec α} {shape : Shape} {height : Nat}

theorem Follows.mono (h : c.Follows shape height) {height' : Nat} (hle : height ≤ height') :
    c.Follows shape height' where
  fits := h.fits
  abridges_self := h.abridges_self
  read_of_abridges a v depth hdepth := h.read_of_abridges a v depth (Nat.lt_of_le_of_lt hle hdepth)
  read_of_lacks name a v depth hdepth :=
    h.read_of_lacks name a v depth (Nat.lt_of_le_of_lt hle hdepth)

/-- Values are also read in full. -/
theorem Follows.lawful (h : c.Follows shape height) : c.Lawful height where
  fits := h.fits
  read_tree a depth hdepth := h.read_of_abridges a _ depth hdepth (h.abridges_self a)

/-- What is written of different values is different. -/
theorem Follows.write_injective (h : c.Follows shape height) : Function.Injective c.write := by
  intro a b hab
  have ha := h.lawful.read_tree a (height + 1) (Nat.lt_succ_self _)
  rw [hab, h.lawful.read_tree b (height + 1) (Nat.lt_succ_self _)] at ha
  exact (Except.ok.inj ha).symm

/-- Nothing is left out of a value that is kept whole. -/
theorem Lawful.follows (h : c.Lawful height) : c.Follows .whole height where
  fits := h.fits
  abridges_self _ := .whole _
  read_of_abridges a v depth hdepth hv := by
    cases hv
    exact h.read_tree a depth hdepth
  read_of_lacks _ _ _ _ _ hv := nomatch hv

/-! ### Entries -/

theorem readMembers_of_forall₂ {depth : Nat} {ms : List Member} {es : List (String × α)}
    (h : List.Forall₂ (fun m e => m.1 = .clear e.1 ∧ c.read depth m.2 = .ok e.2) ms es)
    (m : SortedMap String α) :
    readMembers c depth ms m = .ok (es.foldl (fun m e => m.insert e.1 e.2) m) := by
  induction h generalizing m with
  | nil => rfl
  | @cons entry e ms es hentry _ ih =>
    obtain ⟨key, t⟩ := entry
    obtain ⟨rfl, hread⟩ := hentry
    rw [readMembers, hread, List.foldl_cons, ← ih]
    rfl

section

variable (h : c.Follows shape height) {es : List (String × α)} {ms : List (String × Json)}

include h

theorem Follows.abridgesEntries_self :
    shape.AbridgesEntries (es.map fun e => (e.1, c.write e.2))
      (es.map fun e => (e.1, c.write e.2)) := by
  induction es with
  | nil => exact .nil
  | cons e es ih => exact .cons (h.abridges_self e.2) ih

theorem Follows.forall₂_of_abridgesEntries {depth : Nat} (hdepth : height < depth)
    (hms : shape.AbridgesEntries (es.map fun e => (e.1, c.write e.2)) ms) :
    List.Forall₂ (fun m e => m.1 = .clear e.1 ∧ c.read depth m.2 = .ok e.2)
      (memberTrees ms) es := by
  induction es generalizing ms with
  | nil =>
    cases hms
    exact .nil
  | cons e es ih =>
    cases hms with
    | cons hvalue hrest =>
      exact .cons ⟨rfl, h.read_of_abridges e.2 _ depth hdepth hvalue⟩ (ih hrest)

/-- Entries are read up to the one that lacks the member. -/
theorem Follows.readMembers_of_lacksEntries {name : String} {depth : Nat} (hdepth : height < depth)
    (hms : shape.LacksEntries name (es.map fun e => (e.1, c.write e.2)) ms)
    (m : SortedMap String α) :
    readMembers c depth (memberTrees ms) m = .error (.missingField name) := by
  induction es generalizing ms m with
  | nil => cases hms
  | cons e es ih =>
    cases hms with
    | here hvalue hrest =>
      rw [memberTrees, readMembers, h.read_of_lacks name e.2 _ depth hdepth hvalue]
      rfl
    | later hvalue hrest =>
      rw [memberTrees, readMembers, h.read_of_abridges e.2 _ depth hdepth hvalue]
      exact ih hrest _

theorem Follows.sortedMap : c.sortedMap.Follows (.entries shape) (height + 1) where
  fits m := by
    refine membersFit_iff.mpr fun v hv => ?_
    obtain ⟨e, -, rfl⟩ := List.mem_map.mp hv
    exact h.fits e.2
  abridges_self _ := .entries h.abridgesEntries_self
  read_of_abridges m v depth hdepth hv := by
    cases hv with
    | @entries _ _ ms hentries =>
      obtain ⟨inner, henter, hinner⟩ := Tree.enter_of_lt hdepth
      have hmembers : readMembers c inner (memberTrees ms) ∅ = .ok m := by
        rw [readMembers_of_forall₂ (h.forall₂_of_abridgesEntries hinner hentries)]
        exact congrArg Except.ok (SortedMap.ofList_toList m)
      show (Tree.enter depth >>= fun inner => readMembers c inner (memberTrees ms) ∅ >>= _) = _
      rw [henter]
      show (readMembers c inner _ ∅ >>= _) = _
      rw [hmembers]
      rfl
  read_of_lacks name m v depth hdepth hv := by
    cases hv with
    | @entries _ _ ms hentries =>
      obtain ⟨inner, henter, hinner⟩ := Tree.enter_of_lt hdepth
      show (Tree.enter depth >>= fun inner => readMembers c inner (memberTrees ms) ∅ >>= _) = _
      rw [henter]
      show (readMembers c inner _ ∅ >>= _) = _
      rw [h.readMembers_of_lacksEntries hinner hentries]
      rfl

end

end Codec

/-! ### Records -/

namespace Fields

/-- **Fields that follow the members of a shape.** The value of a field that is left out is the
default of its member, and no other value is left out when the record is written. -/
inductive Follows (height : Nat) : {σ : Type} → Fields σ → Members → Prop where
  | nil : Follows height .nil .nil
  | cons {α σ : Type} {field : RecordField α} {default? : Option Json} {shape : Shape}
      {rest : Fields σ} {members : Members} (hcodec : field.codec.Follows shape height)
      (homitted : ∀ a, field.isOmitted a = true → field.absent? = some a)
      (hdefault : field.absent?.map field.codec.write = default?)
      (hfresh : field.name ∉ rest.names) (hrest : Follows height rest members) :
      Follows height (.cons field rest) (.cons field.name default? shape members)

section

variable {height : Nat} {σ : Type} {fs : Fields σ} {members : Members} {α : Type} {name : String}
  {codec : Codec α} {shape : Shape}

theorem Follows.required (hcodec : codec.Follows shape height) (hfresh : name ∉ fs.names)
    (hrest : fs.Follows height members) :
    (Fields.cons (.required name codec) fs).Follows height (.required name shape members) :=
  .cons hcodec (fun _ h => absurd h Bool.false_ne_true) rfl hfresh hrest

theorem Follows.defaulted {value : α} {default : Json} (hcodec : codec.Follows shape height)
    (hdefault : codec.write value = default) (hfresh : name ∉ fs.names)
    (hrest : fs.Follows height members) :
    (Fields.cons (.defaulted name codec value) fs).Follows height
      (.optional name default shape members) :=
  .cons hcodec (fun _ h => absurd h Bool.false_ne_true) (congrArg some hdefault) hfresh hrest

theorem Follows.optional (hcodec : codec.Lawful height) (hnull : ∀ a, codec.write a ≠ .null)
    (hfresh : name ∉ fs.names) (hrest : fs.Follows height members) :
    (Fields.cons (.optional name codec) fs).Follows height
      (.optional name .null .whole members) := by
  refine .cons (hcodec.optional hnull).follows (fun a h => ?_) rfl hfresh hrest
  rw [Option.isNone_iff_eq_none.mp h]
  rfl

end

/-! What is left of the first field. -/

section

variable {height : Nat} {α σ : Type} {field : RecordField α} {rest : Fields σ} {a : α} {others : σ}
  {default? : Option Json} {shape : Shape} {members : Members}
  (hcodec : field.codec.Follows shape height)
  (hdefault : field.absent?.map field.codec.write = default?)

include hcodec hdefault

/-- A member that has its default has the value that is put in for it. -/
theorem absent?_of_default {v : Json} (hv : default? = some v) (ha : v = field.codec.write a) :
    field.absent? = some a := by
  rw [hv, Option.map_eq_some_iff] at hdefault
  obtain ⟨value, hvalue, hwritten⟩ := hdefault
  rw [hvalue, hcodec.write_injective (hwritten.trans ha)]

variable (homitted : ∀ a, field.isOmitted a = true → field.absent? = some a)
  (hfresh : field.name ∉ rest.names)

include homitted hfresh

/-- **An abridged record** has a member for the first field, or the field has the value that is put
in for it. -/
theorem abridges_cons {ms : List (String × Json)}
    (h : (Members.cons field.name default? shape members).Abridges
      ((cons field rest).write (a, others)) ms) :
    (∃ w ms', ms = (field.name, w) :: ms' ∧ shape.Abridges (field.codec.write a) w ∧
      members.Abridges (rest.write others) ms') ∨
    field.absent? = some a ∧ members.Abridges (rest.write others) ms := by
  generalize hwritten : (cons field rest).write (a, others) = written at h
  cases h with
  | kept hvalue hrest =>
    obtain ⟨rfl, rfl⟩ := of_write_eq_cons hfresh hwritten
    exact .inl ⟨_, _, rfl, hvalue, hrest⟩
  | left hrest =>
    obtain ⟨hdefault_eq, rfl⟩ := of_write_eq_cons hfresh hwritten
    exact .inr ⟨absent?_of_default hcodec hdefault rfl hdefault_eq, hrest⟩
  | absent habsent hrest =>
    subst hwritten
    obtain ⟨ha, hsame⟩ := of_not_mem_write habsent
    rw [hsame] at hrest
    exact .inr ⟨homitted a ha, hrest⟩

/-- **A record that lacks a member** lacks that of the first field, or lacks it in the first field's
value, or lacks it in the other fields. -/
theorem lacks_cons {name : String} {ms : List (String × Json)}
    (h : (Members.cons field.name default? shape members).Lacks name
      ((cons field rest).write (a, others)) ms) :
    (field.absent? = none ∧ name = field.name ∧ members.Abridges (rest.write others) ms) ∨
    (∃ w ms', ms = (field.name, w) :: ms' ∧ shape.Lacks name (field.codec.write a) w ∧
      members.Abridges (rest.write others) ms') ∨
    (∃ w ms', ms = (field.name, w) :: ms' ∧ shape.Abridges (field.codec.write a) w ∧
      members.Lacks name (rest.write others) ms') ∨
    field.absent? = some a ∧ members.Lacks name (rest.write others) ms := by
  generalize hwritten : (cons field rest).write (a, others) = written at h
  cases h with
  | missing hrest =>
    obtain ⟨-, rfl⟩ := of_write_eq_cons hfresh hwritten
    exact .inl ⟨Option.map_eq_none_iff.mp hdefault, rfl, hrest⟩
  | inside hvalue hrest =>
    obtain ⟨rfl, rfl⟩ := of_write_eq_cons hfresh hwritten
    exact .inr (.inl ⟨_, _, rfl, hvalue, hrest⟩)
  | kept hvalue hrest =>
    obtain ⟨rfl, rfl⟩ := of_write_eq_cons hfresh hwritten
    exact .inr (.inr (.inl ⟨_, _, rfl, hvalue, hrest⟩))
  | left hrest =>
    obtain ⟨hdefault_eq, rfl⟩ := of_write_eq_cons hfresh hwritten
    exact .inr (.inr (.inr
      ⟨absent?_of_default hcodec hdefault rfl hdefault_eq, hrest⟩))
  | absent habsent hrest =>
    subst hwritten
    obtain ⟨ha, hsame⟩ := of_not_mem_write habsent
    rw [hsame] at hrest
    exact .inr (.inr (.inr ⟨homitted a ha, hrest⟩))

end

/-! What is left of a record. -/

section

variable {height : Nat} {σ : Type} {fs : Fields σ} {members : Members} {r : σ}
  {ms : List (String × Json)}

/-- A name that no field has is not that of a member that is left. -/
theorem keys_ne_of_sublist (hsub : (ms.map Prod.fst).Sublist ((fs.write r).map Prod.fst))
    {name : String} (hfresh : name ∉ fs.names) :
    ∀ m ∈ memberTrees ms, ∃ key, key ≠ name ∧ m.1 = .clear key := by
  rw [memberTrees_eq_map]
  intro m hm
  obtain ⟨left, hleft, rfl⟩ := List.mem_map.mp hm
  obtain ⟨written, hwritten, hkey⟩ :=
    List.mem_map.mp (hsub.subset (List.mem_map_of_mem hleft))
  refine ⟨left.1, fun heq => hfresh ?_, rfl⟩
  rw [← heq, ← hkey]
  exact keys_write written hwritten

theorem Follows.abridges_self (h : fs.Follows height members) :
    members.Abridges (fs.write r) (fs.write r) := by
  induction h with
  | nil => exact .nil
  | @cons _ _ field default? _ rest _ hcodec homitted hdefault hfresh _ ih =>
    obtain ⟨a, others⟩ := r
    rw [write]
    split
    · rename_i ha
      obtain rfl : some (field.codec.write a) = default? := by
        rw [← hdefault, homitted a ha]
        rfl
      refine .absent (fun m hm heq => hfresh ?_) ih
      rw [← heq]
      exact keys_write m hm
    · exact .kept (hcodec.abridges_self a) ih

theorem Follows.membersFit (h : fs.Follows height members) (r : σ) : MembersFit (fs.write r) := by
  induction h with
  | nil => trivial
  | cons hcodec _ _ _ _ ih =>
    obtain ⟨a, others⟩ := r
    rw [write]
    split
    · exact ih others
    · exact ⟨hcodec.fits a, ih others⟩

variable {depth : Nat} (hdepth : height < depth)

include hdepth

/-- **An abridged record is read as the record itself:** what was left out is put in again. -/
theorem Follows.ofMembers_of_abridges (h : fs.Follows height members)
    (hms : members.Abridges (fs.write r) ms) :
    fs.ofMembers depth (memberTrees ms) .closed = .ok r := by
  induction h generalizing ms with
  | nil =>
    cases hms
    rfl
  | cons hcodec homitted hdefault hfresh _ ih =>
    obtain ⟨a, others⟩ := r
    rcases abridges_cons hcodec hdefault homitted hfresh hms with
      ⟨w, ms', rfl, hvalue, hrest⟩ | ⟨habsent, hrest⟩
    · rw [memberTrees, ofMembers_cons_of_present (keys_ne_of_sublist hrest.sublist hfresh),
        hcodec.read_of_abridges a w depth hdepth hvalue, ih hrest]
      rfl
    · rw [ofMembers_cons_of_absent (keys_ne_of_sublist hrest.sublist hfresh) habsent, ih hrest]
      rfl

/-- **A record that lacks a member is refused,** and the member is named. -/
theorem Follows.ofMembers_of_lacks (h : fs.Follows height members) {name : String}
    (hms : members.Lacks name (fs.write r) ms) :
    fs.ofMembers depth (memberTrees ms) .closed = .error (.missingField name) := by
  induction h generalizing ms with
  | nil => cases hms
  | cons hcodec homitted hdefault hfresh hrest ih =>
    obtain ⟨a, others⟩ := r
    rcases lacks_cons hcodec hdefault homitted hfresh hms with
      ⟨hrequired, rfl, hothers⟩ | ⟨w, ms', rfl, hvalue, hothers⟩ |
      ⟨w, ms', rfl, hvalue, hothers⟩ | ⟨habsent, hothers⟩
    · -- The member of this field is missing. The others are read before it is missed.
      exact ofMembers_cons_of_missing (keys_ne_of_sublist hothers.sublist hfresh) hrequired
        (hrest.ofMembers_of_abridges hdepth hothers)
    · rw [memberTrees, ofMembers_cons_of_present (keys_ne_of_sublist hothers.sublist hfresh),
        hcodec.read_of_lacks name a w depth hdepth hvalue]
      rfl
    · rw [memberTrees, ofMembers_cons_of_present (keys_ne_of_sublist hothers.sublist hfresh),
        hcodec.read_of_abridges a w depth hdepth hvalue, ih hothers]
      rfl
    · rw [ofMembers_cons_of_absent (keys_ne_of_sublist hothers.sublist hfresh) habsent,
        ih hothers]
      rfl

end

end Fields

theorem Codec.Follows.record {α σ : Type} {name : String} {fields : Fields σ} {into : α → σ}
    {of : σ → α} {members : Members} {height : Nat} (h : fields.Follows height members)
    (hof : ∀ a, of (into a) = a) :
    (Codec.record name fields into of).Follows (.record members) (height + 1) where
  fits a := h.membersFit (into a)
  abridges_self _ := .record h.abridges_self
  read_of_abridges a v depth hdepth hv := by
    cases hv with
    | @record _ _ ms hmembers =>
      obtain ⟨inner, henter, hinner⟩ := Tree.enter_of_lt hdepth
      show (Tree.enter depth >>= fun inner =>
        (fields.ofMembers inner (memberTrees ms) .closed).map of) = _
      rw [henter]
      show (fields.ofMembers inner _ _).map of = _
      rw [h.ofMembers_of_abridges hinner hmembers]
      show Except.ok (of (into a)) = _
      rw [hof]
  read_of_lacks name a v depth hdepth hv := by
    cases hv with
    | @record _ _ ms hmembers =>
      obtain ⟨inner, henter, hinner⟩ := Tree.enter_of_lt hdepth
      show (Tree.enter depth >>= fun inner =>
        (fields.ofMembers inner (memberTrees ms) .closed).map of) = _
      rw [henter]
      show (fields.ofMembers inner _ _).map of = _
      rw [h.ofMembers_of_lacks hinner hmembers]
      rfl

end SchemaSurvey.Json
