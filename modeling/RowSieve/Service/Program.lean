/-
A run of the program: it reads its arguments, and then shows help, its version or the filters, or
starts a server. What it writes and the code it ends with depend on nothing but the words of the
command line and the surroundings.
-/
import RowSieve.CommandLine.Reader
import RowSieve.Json.Printer
import RowSieve.Service.Banner
import RowSieve.Service.EnvironmentFile
import RowSieve.Service.Startup

namespace RowSieve.Service

open RowSieve.CommandLine (Arguments Stop)
open RowSieve.Files (Tree)

/-- What a run of the program leaves behind. -/
structure Outcome where
  code : Nat
  output : String
  errors : String
deriving DecidableEq

namespace Outcome

/-- What a command line ends in that is not carried out. -/
def ofStop (vars : CommandLine.Variables) : Stop → Outcome
  | .help page => ⟨0, page.text vars, ""⟩
  | .version => ⟨0, s!"{CommandLine.programName} {Http.version}\n", ""⟩
  | .problem page what => ⟨2, "", what.message page⟩

/-- An error with its causes, which are numbered when there are several. -/
def report (message : String) (causes : List String) : String :=
  let lines := match causes with
    | [] => []
    | [cause] => ["", "Caused by:", s!"    {cause}"]
    | _ => "" :: "Caused by:" :: causes.zipIdx.map fun (cause, i) => s!"    {i}: {cause}"
  String.join ((s!"Error: {message}" :: lines).map (· ++ "\n"))

/-- A run that fails after some output. -/
def ofError (output : String) (e : StartError) : Outcome := ⟨1, output, report e.message e.causes⟩

end Outcome

/-- Shows the filters that the listing takes. -/
def showFilters : Outcome :=
  match Invoice.Search.standard with
  | .ok search => ⟨0, search.catalog.toJson.indented ++ "\n", ""⟩
  | .error e => .ofError "" (.search e)

/-- Starts a server and says where it is. -/
def startServer (s : Surroundings) (args : Arguments) : Outcome × Tree :=
  match (openAll s args).run.run s.tree with
  | (.error e, tree) => (.ofError "" e, tree)
  | (.ok opened, tree) =>
    let settings := opened.settings
    let banner := Banner.text settings.host settings.port opened.databasePath
    match opened.address.run.run tree with
    | (.error e, tree) => (.ofError banner e, tree)
    | (.ok _, tree) => (⟨0, banner, ""⟩, tree)

/-- A run of the program. -/
def run (s : Surroundings) (words : List String) : Outcome × Tree :=
  let s := EnvironmentFile.load s
  match Arguments.read s.environment words with
  | .error stop => (.ofStop s.environment stop, s.tree)
  | .ok args => match args.command? with
    | some .filters => (showFilters, s.tree)
    | some .start | none => startServer s args

end RowSieve.Service
