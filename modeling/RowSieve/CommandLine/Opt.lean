/-
The options and commands of the command line: how each is written, which variable of the
environment stands in for it, and what help says about it.
-/
namespace RowSieve.CommandLine

/-- The name the program is called by. -/
def programName : String := "relquery"

/-- An option. -/
inductive Opt where
  | host
  | port
  | debug
  | config
  | dbPath
  | seedDemo
  | maxFilters
  | help
  | version
deriving DecidableEq

namespace Opt

/-- The options that set something, in order; every command takes them. -/
def settings : List Opt := [host, port, debug, config, dbPath, seedDemo, maxFilters]

/-- The name behind two hyphens. -/
def name : Opt → String
  | host => "host"
  | port => "port"
  | debug => "debug"
  | config => "config"
  | dbPath => "db-path"
  | seedDemo => "seed-demo"
  | maxFilters => "max-filters"
  | help => "help"
  | version => "version"

/-- The letter behind one hyphen. -/
def letter? : Opt → Option Char
  | host => some 'H'
  | port => some 'p'
  | config => some 'c'
  | help => some 'h'
  | version => some 'V'
  | _ => none

/-- The word that stands for the value in help; an option without it takes no value. -/
def placeholder? : Opt → Option String
  | host => some "HOST"
  | port => some "PORT"
  | config => some "CONFIG"
  | dbPath => some "DB_PATH"
  | maxFilters => some "MAX_FILTERS"
  | _ => none

def takesValue (o : Opt) : Bool := o.placeholder?.isSome

/-- The variable whose value is taken when the option is not given. -/
def standIn? : Opt → Option String
  | host => some "RELQUERY_HOST"
  | port => some "RELQUERY_PORT"
  | debug => some "RELQUERY_DEBUG"
  | config => some "RELQUERY_CONFIG"
  | dbPath => some "RELQUERY_DB_PATH"
  | seedDemo => some "RELQUERY_SEED_DEMO"
  | maxFilters => some "RELQUERY_MAX_FILTERS"
  | _ => none

def about : Opt → String
  | host => "Server host address"
  | port => "Server port"
  | debug => "Enable debug mode (verbose filter compilation logs)"
  | config => "Path to config file"
  | dbPath => "SQLite database file (defaults to the data directory)"
  | seedDemo => "Insert demo invoices when the database is empty"
  | maxFilters => "Maximum number of filters per request"
  | help => "Print help"
  | version => "Print version"

/-- The option with the place of its value. -/
def shown (o : Opt) : String :=
  match o.placeholder? with
  | some word => s!"--{o.name} <{word}>"
  | none => s!"--{o.name}"

end Opt

/-- A command that the program carries out. -/
inductive Command where
  | start
  | filters
deriving DecidableEq

namespace Command

def all : List Command := [start, filters]

def name : Command → String
  | start => "start"
  | filters => "filters"

def about : Command → String
  | start => "Start the server (default command)"
  | filters => "Print the filters accepted by each endpoint and exit"

end Command

/-- A page of help, and the part of the command line that it is about. -/
inductive Page where
  | program
  | command (c : Command)
  | help
deriving DecidableEq

namespace Page

/-- The word that asks for help on commands. -/
def helpWord : String := "help"

/-- The pages under a page, with the words that lead there. -/
def below : Page → List (String × Page)
  | program => Command.all.map (fun c => (c.name, command c)) ++ [(helpWord, help)]
  | _ => []

/-- The page that a word leads to. -/
def below? (p : Page) (word : String) : Option Page := (p.below.find? (·.1 == word)).map (·.2)

/-- The options that can be given, in order. -/
def options : Page → List Opt
  | program => Opt.settings ++ [.help, .version]
  | command _ => Opt.settings ++ [.help]
  | help => []

/-- The words that lead to the page. -/
def called : Page → String
  | program => programName
  | command c => s!"{programName} {c.name}"
  | help => s!"{programName} {helpWord}"

def about : Page → String
  | program => "Filterable REST listings over SQLite"
  | command c => c.about
  | help => "Print this message or the help of the given subcommand(s)"

/-- How the command line goes on from here. -/
def pattern : Page → String
  | program => "[OPTIONS] [COMMAND]"
  | command _ => "[OPTIONS]"
  | help => "[COMMAND]..."

end Page

end RowSieve.CommandLine
