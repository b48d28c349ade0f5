/-
The banner of a server: its name and version, where its listings are, and its database, with the
colours of a terminal.
-/
import RowSieve.Files.Path
import RowSieve.Http.Origin
import RowSieve.Http.Router

namespace RowSieve.Service.Banner

def applicationName : String := "RelQuery"

/-- A text in a colour or weight, given by its number. -/
def styled (number : Nat) (text : String) : String := s!"\x1b[{number}m{text}"

/-- The end of all colours and weights. -/
def plain : String := styled 0 ""

def bold : Nat := 1
def green : Nat := 32
def cyan : Nat := 36
def grey : Nat := 90

/-- A label in its column. -/
def label (s : String) : String := s ++ String.ofList (List.replicate (10 - s.length) ' ')

/-- The line that shows where something is served. -/
def link (name address : String) : String :=
  let arrow := styled green "➜"
  s!"  {arrow}{plain}  {styled bold (label name)}{plain} {styled cyan address}{plain}\n"

/-- The banner of a server at a host and port. -/
def text (host : String) (port : Nat) (database : Files.Path) : String :=
  let shownHost := if Http.isAllInterfaces host then "localhost" else host
  let base := s!"http://{shownHost}:{port}/api/v1/invoices"
  let name := styled bold (styled cyan applicationName)
  let version := styled grey ("v" ++ Http.version)
  let links := link "Invoices:" base ++ link "Filters:" (base ++ "/filters")
  let file := label "Database:" ++ " " ++ String.ofList database
  let fileLine := styled grey ("➜  " ++ file)
  s!"\n  {name}{plain} {version}{plain}\n\n{links}  {fileLine}{plain}\n\n"

end RowSieve.Service.Banner
