/-
  `LogFilter` — which events are shown, and how.

  A filter is a list of directives, each with a threshold for the targets that begin with a text.
  The longest such text decides; of directives for the same text the last one counts. A target that
  no directive covers is silent.

  In writing, directives are set apart by commas. One is a level, for all targets; or a target and a
  level with `=` between them; or a target alone, for which everything is shown.
-/
import SchemaSurvey.Event
import SchemaSurvey.Text.Blank

namespace SchemaSurvey

/-- How grave an event has to be to be shown; `none` shows nothing. -/
abbrev LogFilter.Threshold := Option Level

/-- A directive: the threshold for the targets that begin with a text. -/
structure LogFilter.Directive where
  target : String
  threshold : LogFilter.Threshold
deriving DecidableEq

/-- Which events are shown. -/
structure LogFilter where
  directives : List LogFilter.Directive
deriving DecidableEq

namespace LogFilter

/-! ### Use -/

/-- Whether a directive is about an event. -/
def Directive.covers (d : Directive) (e : Event) : Bool :=
  d.target.toList.isPrefixOf e.target.toList

/-- Of two directives about an event, the one that decides: the longer one, or else the later one.
-/
def Directive.override (earlier : Option Directive) (d : Directive) : Option Directive :=
  match earlier with
  | some e => if d.target.length < e.target.length then some e else some d
  | none => some d

/-- The directive that decides about an event. -/
def directive? (f : LogFilter) (e : Event) : Option Directive :=
  (f.directives.filter fun d => d.covers e).foldl Directive.override none

/-- Whether an event is shown. -/
def shows (f : LogFilter) (e : Event) : Bool :=
  match (f.directive? e).bind Directive.threshold with
  | some threshold => threshold.rank ≤ e.level.rank
  | none => false

/-- The line of an event. -/
def line (e : Event) : String :=
  let level := e.level.name
  "".pushn ' ' (5 - level.length) ++ level ++ " " ++ e.target ++ ": " ++ e.message ++ "\n"

/-- The lines of the events that are shown. -/
def lines (f : LogFilter) (events : List Event) : String :=
  String.join ((events.filter f.shows).map line)

/-! ### Written form -/

/-- The filter that shows everything from a level on. -/
def atLeast (level : Level) : LogFilter := ⟨[⟨"", some level⟩]⟩

/-- The filter for want of another. -/
def standard : LogFilter := atLeast .info

/-- Thresholds by name. -/
def thresholds : List (String × Threshold) :=
  [("off", none), ("error", some .error), ("warn", some .warn), ("info", some .info),
    ("debug", some .debug), ("trace", some .trace)]

/-- Reads a position in a list: digits, with or without a plus sign in front. -/
def position? (s : String) : Option Nat :=
  let digits := match s.toList with
    | '+' :: cs => cs
    | cs => cs
  if digits.all Char.isDigit then (String.ofList digits).toNat? else none

/-- Reads a threshold: a name, in letters of either case, or its position in the list of names. -/
def threshold? (s : String) : Option Threshold :=
  match thresholds.lookup s.toLower with
  | some t => some t
  | none => (position? s).bind fun n => (thresholds[n]?).map Prod.snd

/-- Whether a directive may begin with a character. -/
def mayStart (c : Char) : Bool := c.isAlphanum || c == '_' || c == ':' || c == '-' || !c.toNat < 128

/-- Reads a directive. White space may stand before a level or a target alone, and then belongs to
it, but not before a target with a level. -/
def Directive.ofText? (s : String) : Option Directive :=
  let cs := s.toList
  let head := cs.takeWhile (· != '=')
  let start := if head = cs then cs.dropWhile Text.isBlank else cs
  if !start.head?.any mayStart || head.contains '[' then none
  else
    match cs.drop head.length with
    | [] =>
      match threshold? s with
      | some threshold => some ⟨"", threshold⟩
      | none => some ⟨s, some .trace⟩
    | ['='] => some ⟨String.ofList head, some .trace⟩
    | _ :: level => (threshold? (String.ofList level)).map (⟨String.ofList head, ·⟩)

/-- Reads a filter. An empty one shows errors. -/
def ofText? (s : String) : Option LogFilter :=
  match (s.splitOn ",").filter (· != "") with
  | [] => some (atLeast .error)
  | parts => (parts.mapM Directive.ofText?).map (⟨·⟩)

/-- The filter that a setting asks for; one that cannot be read counts as none. -/
def ofSetting (setting : Option String) : LogFilter := (setting.bind ofText?).getD standard

end LogFilter

end SchemaSurvey
