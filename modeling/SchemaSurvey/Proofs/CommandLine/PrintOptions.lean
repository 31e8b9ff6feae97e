/-
  `PrintOptions` — options that are written on a command line are read back from it.

  Values are looked for without knowing where an option begins: whatever follows a flag is a value.
  So a line is read as it was written only if no value is itself a word that is looked for. Then a
  word that is not the flag changes nothing (`values_cons_of_ne`), a flag yields the word after it
  (`values_cons_self`), and the values of a line with any number of options, in any order, are those
  of the options with that flag (`values_words`).

  `printLine_recovered` is the result: which schemas to leave out, which database to read, and that
  no help was asked for. The first value is found by a scan of its own; that it is the first of all
  values holds of every line.
-/
import SchemaSurvey.CommandLine.Arguments

namespace SchemaSurvey.CommandLine

/-! ### Options in writing -/

/-- An option of the command that prints a schema. -/
inductive PrintOption where
  /-- The database to read. -/
  | uri (address : String)
  /-- A schema to leave out. -/
  | exclude (schema : String)
deriving DecidableEq

namespace PrintOption

/-- The word that announces the option. -/
def flag : PrintOption → String
  | uri _ => "--uri"
  | exclude _ => "--exclude"

/-- The word after the flag. -/
def value : PrintOption → String
  | uri address => address
  | exclude schema => schema

/-- The database that the option names. -/
def address? : PrintOption → Option String
  | uri address => some address
  | exclude _ => none

/-- The schema that the option leaves out. -/
def schema? : PrintOption → Option String
  | uri _ => none
  | exclude schema => some schema

/-- The value of an option with a given flag. -/
def valueOf? (flag : String) (o : PrintOption) : Option String :=
  if o.flag = flag then some o.value else none

theorem valueOf?_uri : valueOf? "--uri" = address? := by
  funext o
  cases o with
  | uri address => exact if_pos rfl
  | exclude schema => exact if_neg (by simp [flag])

theorem valueOf?_exclude : valueOf? "--exclude" = schema? := by
  funext o
  cases o with
  | uri address => exact if_neg (by simp [flag])
  | exclude schema => exact if_pos rfl

/-- The words of the options. -/
def words (options : List PrintOption) : List String :=
  options.flatMap fun o => [o.flag, o.value]

end PrintOption

/-- The command line that prints a schema with the options in this order. -/
def printLine (options : List PrintOption) : List String := "print" :: PrintOption.words options

/-- The words that are looked for in such a line. -/
def lookedFor : List String := ["--uri", "--exclude", "--help", "-h"]

/-! ### Reading words -/

namespace Arguments

theorem values_cons_self (flag value : String) (args : List String) :
    values flag (flag :: value :: args) = value :: values flag (value :: args) := by
  simp [values]

theorem values_cons_of_ne {word flag : String} (h : word ≠ flag) (args : List String) :
    values flag (word :: args) = values flag args := by
  cases args with
  | nil => rfl
  | cons next args => simp [values, h]

/-- **The values of a flag are those of its options,** unless a value is the flag itself. -/
theorem values_words {flag : String} {options : List PrintOption}
    (h : ∀ o ∈ options, o.value ≠ flag) :
    values flag (PrintOption.words options) = options.filterMap (PrintOption.valueOf? flag) := by
  induction options with
  | nil => rfl
  | cons o options ih =>
    obtain ⟨hvalue, hrest⟩ := List.forall_mem_cons.mp h
    have hwords : PrintOption.words (o :: options) =
        o.flag :: o.value :: PrintOption.words options := rfl
    rw [hwords]
    -- The value is read past in both cases, for it is not the flag.
    by_cases hflag : o.flag = flag
    · have hfound : o.valueOf? flag = some o.value := if_pos hflag
      rw [List.filterMap_cons_some hfound, hflag, values_cons_self, values_cons_of_ne hvalue,
        ih hrest]
    · have hmissed : o.valueOf? flag = none := if_neg hflag
      rw [List.filterMap_cons_none hmissed, values_cons_of_ne hflag, values_cons_of_ne hvalue,
        ih hrest]

theorem values_printLine {flag : String} {options : List PrintOption} (hcommand : "print" ≠ flag)
    (h : ∀ o ∈ options, o.value ≠ flag) :
    values flag (printLine options) = options.filterMap (PrintOption.valueOf? flag) := by
  rw [printLine, values_cons_of_ne hcommand, values_words h]

/-- A word occurs only where it is the command, a flag or a value. -/
theorem has_printLine_eq_false {word : String} {options : List PrintOption}
    (hcommand : "print" ≠ word) (hflags : ∀ o : PrintOption, o.flag ≠ word)
    (h : ∀ o ∈ options, o.value ≠ word) : has (printLine options) word = false := by
  rw [has, List.contains_eq_mem, decide_eq_false_iff_not, printLine, List.mem_cons,
    PrintOption.words, List.mem_flatMap]
  rintro (hword | ⟨o, ho, hword⟩)
  · exact hcommand hword.symm
  · rcases List.mem_cons.mp hword with hword | hword
    · exact hflags o hword.symm
    · exact h o ho (List.mem_singleton.mp hword).symm

end Arguments

open Arguments

/-! ### The command -/

/-- **What is written is read back.** On a line that prints a schema the help test fails, the
schemas left out are those of the options, in order, and the database is that of the first option
that names one; so the command asked for is told by the options alone. On any line, the first value
of a flag is the first of its values. -/
theorem printLine_recovered :
    (∀ options : List PrintOption, (∀ o ∈ options, o.value ∉ lookedFor) →
      has (printLine options) "--help" = false ∧ has (printLine options) "-h" = false ∧
      values "--exclude" (printLine options) = options.filterMap PrintOption.schema? ∧
      value? "--uri" (printLine options) = (options.filterMap PrintOption.address?).head? ∧
      ∀ uri? : Option String, Command.ofArguments uri? (printLine options) =
        match (options.filterMap PrintOption.address?).head? <|> uri? with
        | some uri => .ok (.print uri (if (options.filterMap PrintOption.schema?).isEmpty then
            Configuration.defaultExcluded else options.filterMap PrintOption.schema?))
        | none => .error .noUri) ∧
    ∀ (flag : String) (args : List String), value? flag args = (values flag args).head? := by
  refine ⟨fun options h => ?_, fun flag args => (head?_values flag args).symm⟩
  have hvalues : ∀ word ∈ lookedFor, ∀ o ∈ options, o.value ≠ word := fun word hword o ho heq =>
    h o ho (heq ▸ hword)
  have hhelp : has (printLine options) "--help" = false :=
    has_printLine_eq_false (by decide) (fun o => by cases o <;> simp [PrintOption.flag])
      (hvalues _ (by decide))
  have hh : has (printLine options) "-h" = false :=
    has_printLine_eq_false (by decide) (fun o => by cases o <;> simp [PrintOption.flag])
      (hvalues _ (by decide))
  have hexclude : values "--exclude" (printLine options) =
      options.filterMap PrintOption.schema? := by
    rw [values_printLine (by decide) (hvalues _ (by decide)), PrintOption.valueOf?_exclude]
  have huri : value? "--uri" (printLine options) =
      (options.filterMap PrintOption.address?).head? := by
    rw [← head?_values, values_printLine (by decide) (hvalues _ (by decide)),
      PrintOption.valueOf?_uri]
  refine ⟨hhelp, hh, hexclude, huri, fun uri? => ?_⟩
  simp only [printLine] at hhelp hh hexclude huri
  simp only [Command.ofArguments, printLine, hhelp, hh, hexclude, huri]
  rfl

/-- Options of both kinds, mixed, one of them repeated and one with a value like a command. -/
def mixedOptions : List PrintOption :=
  [.exclude "tiger", .uri "host=a", .exclude "print", .uri "--config", .exclude "tiger"]

/-- The mixed options are read back. A flag at the end of a line has no value. -/
theorem mixedOptions_recovered :
    (∀ o ∈ mixedOptions, o.value ∉ lookedFor) ∧
      has (printLine mixedOptions) "--help" = false ∧
      values "--exclude" (printLine mixedOptions) = ["tiger", "print", "tiger"] ∧
      value? "--uri" (printLine mixedOptions) = some "host=a" ∧
      Command.ofArguments none (printLine mixedOptions) =
        .ok (.print "host=a" ["tiger", "print", "tiger"]) ∧
      value? "--uri" ["print", "--uri"] = none := by
  obtain ⟨hline, hfirst⟩ := printLine_recovered
  have hvalues : ∀ o ∈ mixedOptions, o.value ∉ lookedFor := by decide
  obtain ⟨hhelp, -, hexclude, huri, hcommand⟩ := hline mixedOptions hvalues
  exact ⟨hvalues, hhelp, hexclude, huri, hcommand none, hfirst "--uri" ["print", "--uri"]⟩

end SchemaSurvey.CommandLine
