/-
The paths whose files decide what a run of the program does. Some of them are named in files that
are consulted first, so each round of looking may bring new ones; after three rounds there are no
more.
-/
import RowSieve.Service.Program

namespace RowSieve.Service

open RowSieve.CommandLine (Arguments)
open RowSieve.Files (Path)

/-- The files of variables from a directory upwards; the directory is given by the names on the
way, innermost first. -/
def environmentFiles : List (List Char) → List Path
  | [] => [EnvironmentFile.candidate []]
  | name :: above => EnvironmentFile.candidate (name :: above) :: environmentFiles above

/-- The paths of a database file and of those beside it. -/
def databasePaths (database : Path) : List Path :=
  database :: Storage.Companion.all.map fun c => database ++ c.suffix

/-- The paths below the data directory, and those of the database if the settings are known. -/
def dataPaths (s : Surroundings) (args : Arguments) : List Path :=
  let data := Storage.dataDirectory s
  let database := (Settings.load s args).toOption.map fun settings =>
    Storage.databasePath settings data
  [data, data.join Storage.databaseDirectoryName] ++ database.toList.flatMap databasePaths

/-- The paths that a run consults, as far as the tree shows them. -/
def consulted (s : Surroundings) (words : List String) : List Path :=
  let loaded := EnvironmentFile.load s
  let named := match Arguments.read loaded.environment words with
    | .error _ => []
    | .ok args =>
      (args.config?.toList.map fun p => s.expand p.toList) ++ dataPaths loaded args
  environmentFiles s.current.names.reverse ++
    ([Settings.profilePath s, Settings.fileName] ++ named).map s.current.join

/-- The number of rounds after which no path comes to light. -/
def rounds : Nat := 3

end RowSieve.Service
