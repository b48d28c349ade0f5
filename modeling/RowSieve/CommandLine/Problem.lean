/-
What can be wrong with a command line, and what is told about it: what was wrong, something
similar that exists, how the command line may go on, and where to find help. Reading also stops
where help or the version is asked for.
-/
import RowSieve.CommandLine.Help

namespace RowSieve.CommandLine

/-- What is wrong with a command line. -/
inductive Problem where
  | missingValue (o : Opt)
  /-- A value other than the few that are allowed. -/
  | notAllowed (o : Opt) (value : String) (allowed : List String) (similar? : Option String)
  | unreadable (o : Opt) (value reason : String)
  | repeated (o : Opt)
  /-- A value for an option that takes none. -/
  | unexpectedValue (o : Opt) (value : String) (used : List Opt)
  | unknownOption (name : String) (similar? : Option Opt) (used : List Opt)
  | unknownLetter (c : Char)
  /-- A word that is no command where one could stand. -/
  | unknownCommand (word : String) (similar : List String)
  /-- A word where no command can stand. -/
  | unexpectedWord (word : String)
  /-- A command behind two hyphens. -/
  | hiddenCommand (word : String)

/-- Where the reading of a command line stops before its end. -/
inductive Stop where
  | help (p : Page)
  | version
  | problem (p : Page) (what : Problem)

/-! ## What is told -/

/-- A usage line that shows what was used; the whole pattern when nothing was. -/
def Page.usageWith (p : Page) (used : List Opt) : String :=
  if used.isEmpty then p.usage
  else "Usage: " ++ String.intercalate " " (p.called :: used.eraseDups.map Opt.shown)

namespace Problem

/-- What was wrong, with marks. -/
def text : Problem → String
  | missingValue o => s!"a value is required for '{o.shown}' but none was supplied"
  | notAllowed o value allowed _ =>
    let first :=
      if value.isEmpty then s!"a value is required for '{o.shown}' but none was supplied"
      else s!"invalid value '{Terminal.invalid value}' for '{o.shown}'"
    let values := String.intercalate ", " allowed
    s!"{first}\n  [possible values: {values}]"
  | unreadable o value reason =>
    s!"invalid value '{Terminal.invalid value}' for '{o.shown}': {reason}"
  | repeated o => s!"the argument '{o.shown}' cannot be used multiple times"
  | unexpectedValue o value _ =>
    s!"unexpected value '{Terminal.invalid value}' for '{o.shown}' found; " ++
      "no more were expected"
  | unknownOption name _ _ =>
    let word := Terminal.invalid s!"--{name}"
    s!"unexpected argument '{word}' found"
  | unknownLetter c =>
    let word := Terminal.invalid s!"-{c}"
    s!"unexpected argument '{word}' found"
  | unknownCommand word _ => s!"unrecognized subcommand '{Terminal.invalid word}'"
  | unexpectedWord word | hiddenCommand word =>
    s!"unexpected argument '{Terminal.invalid word}' found"

/-- Something that exists and may have been meant. -/
def tip? : Problem → Option String
  | notAllowed _ _ _ (some s) => some s!"a similar value exists: '{s}'"
  | unknownOption _ (some o) _ => some s!"a similar argument exists: '--{o.name}'"
  | unknownCommand _ [word] => some s!"a similar subcommand exists: '{word}'"
  | unknownCommand _ (word :: more) =>
    let words := String.intercalate ", " ((word :: more).map fun w => s!"'{w}'")
    some s!"some similar subcommands exist: {words}"
  | hiddenCommand word =>
    some s!"subcommand '{word}' exists; to use it, remove the '--' before it"
  | _ => none

/-- The usage line that goes with the problem; a bad value needs none. -/
def usage? (p : Page) : Problem → Option String
  | missingValue _ | notAllowed .. | unreadable .. => none
  | unexpectedValue _ _ used | unknownOption _ _ used => some (p.usageWith used)
  | _ => some p.usage

/-- All that is told about a problem. -/
def message (p : Page) (what : Problem) : String :=
  let tip := (what.tip?.map fun t => s!"\n\n  tip: {t}").getD ""
  let usage := ((what.usage? p).map ("\n\n" ++ ·)).getD ""
  let help := if p.options.contains .help then "\n\nFor more information, try '--help'." else ""
  Terminal.plain s!"error: {what.text}{tip}{usage}{help}\n"

end Problem

end RowSieve.CommandLine
