/-
  `Arguments` — what the words of a command line ask for.

  An option is a word, its flag, and its value the word after it, whatever that word is. Options may
  stand anywhere; of a flag with one value the first counts. `head?_values` says that the two ways
  of looking for values agree.
-/
import SchemaSurvey.Configuration.Basic

namespace SchemaSurvey.CommandLine

namespace Arguments

/-- Whether a word occurs. -/
def has (args : List String) (flag : String) : Bool := args.contains flag

/-- The word after the first `flag` that a word follows. -/
def value? (flag : String) : List String → Option String
  | first :: second :: rest =>
    if first = flag then some second else value? flag (second :: rest)
  | _ => none

/-- The words that follow `flag`, in order. -/
def values (flag : String) (args : List String) : List String :=
  (args.zip args.tail).filterMap fun pair => if pair.1 = flag then some pair.2 else none

/-- The first of all values is the value. -/
theorem head?_values (flag : String) (args : List String) :
    (values flag args).head? = value? flag args := by
  fun_induction value? flag args with
  | case1 second rest => simp [values]
  | case2 first second rest h ih => simpa [values, h] using ih
  | case3 args h =>
    match args, h with
    | [], _ => rfl
    | [_], _ => rfl
    | first :: second :: rest, h => exact absurd rfl (h first second rest)

end Arguments

/-- What the program is asked to do. -/
inductive Command where
  /-- Explain itself. -/
  | help
  /-- Bring the deployment file at a path up to date. -/
  | update (path : String)
  /-- Print the schema of a database. -/
  | print (uri : String) (excluded : List String)
deriving DecidableEq

/-- Why a command line asks for nothing that can be done. -/
inductive UsageError where
  | noPath
  | noUri
  | unknownCommand (name : String)
deriving DecidableEq

open Arguments in
/-- What a command line asks for. `uri?` is the database to print if none is named. -/
def Command.ofArguments (uri? : Option String) (args : List String) : Except UsageError Command :=
  match args with
  | [] => .ok .help
  | name :: _ =>
    if has args "--help" || has args "-h" then .ok .help
    else if name = "update" then
      match value? "--config" args with
      | some path => .ok (.update path)
      | none => .error .noPath
    else if name = "print" then
      match value? "--uri" args <|> uri? with
      | some uri =>
        let excluded := values "--exclude" args
        .ok (.print uri (if excluded.isEmpty then Configuration.defaultExcluded else excluded))
      | none => .error .noUri
    else .error (.unknownCommand name)

end SchemaSurvey.CommandLine
