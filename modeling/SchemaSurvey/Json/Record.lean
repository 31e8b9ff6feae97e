/-
  `Record` — records as JSON objects.

  `Fields σ` lists the fields of a record, first to last; `σ` is the product of their types. From
  that one list come the written object, the reading of an object, whose members may stand in any
  order, and the reading of an array, whose items stand in the order of the fields. Members of other
  names are skipped. A field that occurs twice is refused where it occurs again, one that is missing
  once the end has been reached.
-/
import SchemaSurvey.Json.Codec

namespace SchemaSurvey.Json

/-- A field of a record. -/
structure RecordField (α : Type) where
  name : String
  codec : Codec α
  /-- The value of a field that is left out; a field without one is required. -/
  absent? : Option α := none
  /-- The values that are left out when the record is written. -/
  isOmitted : α → Bool := fun _ => false

namespace RecordField

variable {α : Type}

/-- A field that has to be there. -/
def required (name : String) (codec : Codec α) : RecordField α := { name, codec }

/-- A field that is always written but may be left out. -/
def defaulted (name : String) (codec : Codec α) (value : α) : RecordField α :=
  { name, codec, absent? := some value }

/-- An optional value that is written only if there is one. -/
def optional (name : String) (codec : Codec α) : RecordField (Option α) :=
  { name, codec := codec.optional, absent? := some none, isOmitted := Option.isNone }

end RecordField

/-- The fields of a record, first to last. -/
inductive Fields : Type → Type 1 where
  | nil : Fields Unit
  | cons {α σ : Type} (field : RecordField α) (rest : Fields σ) : Fields (α × σ)

namespace Fields

/-- The number of fields. -/
def count : {σ : Type} → Fields σ → Nat
  | _, nil => 0
  | _, cons _ rest => rest.count + 1

/-- The names of the fields. -/
def names : {σ : Type} → Fields σ → List String
  | _, nil => []
  | _, cons field rest => field.name :: rest.names

/-- The members of the written object. -/
def write : {σ : Type} → Fields σ → σ → List (String × Json)
  | _, nil, _ => []
  | _, cons field rest, (a, others) =>
    if field.isOmitted a then rest.write others
    else (field.name, field.codec.write a) :: rest.write others

/-! ### Reading an object -/

/-- What has been read of a record: for each field its value, if it has occurred. -/
def Slots : {σ : Type} → Fields σ → Type
  | _, nil => Unit
  | _, @cons α _ _ rest => Option α × rest.Slots

/-- Nothing has been read. -/
def blank : {σ : Type} → (fs : Fields σ) → fs.Slots
  | _, nil => ()
  | _, cons _ rest => (none, rest.blank)

/-- Reads a member into its slot; none if no field has its name. -/
def take (depth : Nat) (key : String) (t : Tree) :
    {σ : Type} → (fs : Fields σ) → fs.Slots → Except Fault (Option fs.Slots)
  | _, nil, _ => .ok none
  | _, cons field rest, slots =>
    if field.name = key then
      match slots.1 with
      | some _ => .error (.duplicateField key)
      | none => (field.codec.read depth t).map fun a => some (some a, slots.2)
    else (rest.take depth key t slots.2).map fun taken => taken.map ((slots.1, ·))

/-- Reads the members of an object. -/
def takeAll {σ : Type} (fs : Fields σ) (depth : Nat) :
    List Member → fs.Slots → Except Fault fs.Slots
  | [], slots => .ok slots
  | (key, t) :: ms, slots => do
    match ← fs.take depth (← key.kept) t slots with
    | some slots => fs.takeAll depth ms slots
    | none => do
      t.skip
      fs.takeAll depth ms slots

/-- The record, once all members have been read. -/
def finish : {σ : Type} → (fs : Fields σ) → fs.Slots → Except Fault σ
  | _, nil, _ => .ok ()
  | _, cons field rest, slots =>
    match slots.1.or field.absent? with
    | some a => (rest.finish slots.2).map ((a, ·))
    | none => .error (.missingField field.name)

/-- Reads a record from an object. -/
def ofMembers {σ : Type} (fs : Fields σ) (depth : Nat) (members : List Member) (ending : Ending) :
    Except Fault σ := do
  let slots ← fs.takeAll depth members fs.blank
  ending.ofMembers
  fs.finish slots

/-! ### Reading an array -/

/-- Reads a record from the items of an array, the first of which belongs to the field with a given
index. Fields without an item take the value of a field that is left out. -/
def ofItems (depth : Nat) (arity : Arity) (ending : Ending) :
    {σ : Type} → Nat → Fields σ → List Tree → Except Fault σ
  | _, _, nil, [] => ending.ofSurplus
  | _, _, nil, _ :: _ => .error .trailingCharacters
  | _, index, cons field rest, t :: ts => do
    let a ← field.codec.read depth t
    let others ← ofItems depth arity ending (index + 1) rest ts
    .ok (a, others)
  | _, index, cons field rest, [] => do
    ending.ofItems
    match field.absent? with
    | some a => (ofItems depth arity ending (index + 1) rest []).map ((a, ·))
    | none => .error (.invalidLength index arity)

end Fields

/-- Records: `name` is what messages call the type. -/
def Codec.record {α σ : Type} (name : String) (fields : Fields σ) (into : α → σ) (of : σ → α) :
    Codec α where
  write a := .object (fields.write (into a))
  read
    | depth, .object members ending => do
      let inner ← Tree.enter depth
      (fields.ofMembers inner members ending).map of
    | depth, .array items ending => do
      let inner ← Tree.enter depth
      (Fields.ofItems inner (.record name fields.count) ending 0 fields items).map of
    | _, t => refuse (.record name) t

end SchemaSurvey.Json
