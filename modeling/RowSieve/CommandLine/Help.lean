/-
The pages of help: what a command is about, how it is called, and its commands and options in
columns, with the values that the environment gives to the options.
-/
import RowSieve.CommandLine.Opt
import RowSieve.CommandLine.Terminal

namespace RowSieve.CommandLine

/-- The variables of an environment. -/
abbrev Variables := List (String × String)

def Variables.get? (vars : Variables) (name : String) : Option String := vars.lookup name

/-- An entry of a list, as it is read and with its marks, and what is said about it. -/
structure Entry where
  plain : String
  marked : String
  about : String

def spaces (n : Nat) : String := String.ofList (List.replicate n ' ')

/-- Entries and what is said about them, in two columns; lines of the second column stand below
each other. -/
def columns (entries : List Entry) : String :=
  let width := entries.foldl (fun w e => max w e.plain.length) 0 + 2
  String.join (entries.map fun e =>
    e.marked ++ spaces (width - e.plain.length) ++
      e.about.replace "\n" ("\n" ++ spaces width) ++ "\n")

namespace Opt

/-- The option as it is listed, with its letter or the space of it; `mark` is put on the words
that are meant literally. -/
def listed (o : Opt) (mark : String → String) : String :=
  let long := mark s!"--{o.name}"
  let value := (o.placeholder?.map fun word => s!" <{word}>").getD ""
  match o.letter? with
  | some c =>
    let short := mark s!"-{c}"
    s!"  {short}, {long}{value}"
  | none => s!"      {long}{value}"

/-- What is listed about the option, with what its variable holds. -/
def described (vars : Variables) (o : Opt) : String :=
  match o.standIn? with
  | some v =>
    let held := (vars.get? v).getD ""
    s!"{o.about} [env: {v}={held}]"
  | none => o.about

def entry (vars : Variables) (o : Opt) : Entry :=
  ⟨o.listed id, o.listed Terminal.literal, o.described vars⟩

end Opt

namespace Page

def usage (p : Page) : String := s!"Usage: {p.called} {p.pattern}"

/-- The page in full. -/
def text (vars : Variables) (p : Page) : String :=
  let commands := match p.below with
    | [] => ""
    | entries => "\nCommands:\n" ++
        columns (entries.map fun (e : String × Page) => ⟨s!"  {e.1}", s!"  {e.1}", e.2.about⟩)
  let arguments := match p with
    | help => "\nArguments:\n  [COMMAND]...  Print help for the subcommand(s)\n"
    | _ => ""
  let options := match p.options with
    | [] => ""
    | os => "\nOptions:\n" ++ columns (os.map (Opt.entry vars))
  Terminal.plain s!"{p.about}\n\n{p.usage}\n{commands}{arguments}{options}"

end Page

end RowSieve.CommandLine
