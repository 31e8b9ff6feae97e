/-
  `Failure` — why an operation came to nothing.

  Every failure has a kind, a code for machines and a message for people. Its JSON form is an object
  that names the kind in the member `type`; that member may stand anywhere, so the other members are
  kept until it is known, and read as strings afterwards.
-/
import SchemaSurvey.Json.Enumeration
import SchemaSurvey.Json.Record

namespace SchemaSurvey

/-- The part of the world that a failure comes from. -/
inductive FailureKind where
  | config
  | catalog
  | decode
  | io
  | internal
deriving DecidableEq

/-- A failure. -/
structure Failure where
  kind : FailureKind
  code : String
  message : String
deriving DecidableEq

namespace Failure

/-- The line shown to people. -/
def text (f : Failure) : String := f.code ++ ": " ++ f.message

/-- Whether the catalog's store itself failed. -/
def isCatalogFailure (f : Failure) : Bool := f.kind == .catalog

/-! ### Where failures come from -/

/-- A JSON text that cannot be read. -/
def ofJson (fault : Json.Fault) : Failure := ⟨.decode, "json_error", fault.message⟩

/-- A failure of the operating system that no operation claims. -/
def ofSystem (message : String) : Failure := ⟨.io, "io_error", message⟩

/-- A failure that nobody expected. -/
def ofUnexpected (message : String) : Failure := ⟨.internal, "internal_error", message⟩

end Failure

/-! ### JSON form -/

namespace FailureKind

/-- Kinds by name. -/
def enumeration : Json.Enumeration FailureKind where
  all := [config, catalog, decode, io, internal]
  name
    | config => "config"
    | catalog => "catalog"
    | decode => "decode"
    | io => "io"
    | internal => "internal"

/-- What messages call the kind. -/
def title : FailureKind → String
  | config => "Config"
  | catalog => "Catalog"
  | decode => "Decode"
  | io => "Io"
  | internal => "Internal"

end FailureKind

namespace Failure

open Json

/-- Reads the kind, which is named by a string and nothing else. -/
def readKind : Tree → Except Fault FailureKind
  | .scalar (.string s) => do FailureKind.enumeration.ofName (← s.kept)
  | t => Codec.refuse .variantName t

/-- Splits an object into its kind, if it names one, and its other members, which are checked as
they come. -/
def splitMembers (depth : Nat) :
    List Member → Option FailureKind → Except Fault (Option FailureKind × List (String × Tree))
  | [], kind => .ok (kind, [])
  | (key, t) :: ms, kind => do
    let name ← key.kept
    if name = "type" then
      match kind with
      | some _ => .error (.duplicateField "type")
      | none =>
        let k ← readKind t
        splitMembers depth ms (some k)
    else
      t.check depth
      let (kind, others) ← splitMembers depth ms kind
      .ok (kind, (name, t) :: others)

/-- The fields beside the kind. -/
def fields : Fields (String × String × Unit) :=
  .cons (.required "code" .string) <| .cons (.required "message" .string) .nil

/-- Reads the fields from members that have been kept; members of other names are ignored. -/
def takeKept : List (String × Tree) → fields.Slots → Except Fault fields.Slots
  | [], slots => .ok slots
  | (name, t) :: ms, slots => do
    match ← fields.take Codec.maxDepth name t slots with
    | some slots => takeKept ms slots
    | none => takeKept ms slots

/-- Reads the fields from items that have been kept. -/
def ofItems (kind : FailureKind) : List Tree → Except Fault Failure
  | [] => tooShort 0
  | code :: rest => do
    let code ← Codec.string.read Codec.maxDepth code
    match rest with
    | [] => tooShort 1
    | message :: surplus => do
      let message ← Codec.string.read Codec.maxDepth message
      if surplus.isEmpty then .ok { kind, code, message }
      else .error (.invalidLength (surplus.length + 2) (.sequence 2))
where
  tooShort (length : Nat) : Except Fault Failure :=
    .error (.invalidLength length (.variant ("AppError::" ++ kind.title) 2))

/-- The JSON form of a failure. -/
def codec : Codec Failure where
  write f := .object [("type", .string (FailureKind.enumeration.name f.kind)),
    ("code", .string f.code), ("message", .string f.message)]
  read
    | depth, .object members ending => do
      let inner ← Tree.enter depth
      let (kind, others) ← splitMembers inner members none
      ending.ofMembers
      match kind with
      | none => .error (.missingField "type")
      | some kind => do
        let (code, message, _) ← fields.finish (← takeKept others fields.blank)
        .ok { kind, code, message }
    | depth, .array items ending => do
      let inner ← Tree.enter depth
      match items with
      | [] => do
        ending.ofItems
        .error (.missingField "type")
      | first :: rest => do
        let kind ← readKind first
        Tree.checkItems inner rest
        ending.ofItems
        ofItems kind rest
    | _, t => Codec.refuse (.tagged "AppError") t

end Failure

end SchemaSurvey
