/-
The program on a machine: it looks at the environment and at the files that a run consults,
computes the run, and then makes the directories and files and writes the texts that it leaves
behind.
-/
import RowSieve.Service.Consulted

namespace RowSieve

open RowSieve.Files (Node Path Place Tree)
open RowSieve.Service (Outcome Surroundings)

/-- The variables that a run may read. -/
def variableNames : List String :=
  CommandLine.Opt.settings.filterMap CommandLine.Opt.standIn? ++
    ["HOME", "RELQUERY_DATA_DIR", "XDG_DATA_HOME"]

def environment : IO CommandLine.Variables := do
  let held ← variableNames.mapM fun name => do return (name, ← IO.getEnv name)
  return held.filterMap fun (name, value?) => value?.map fun value => (name, value)

/-- What stands at a place on the machine. -/
def lookAt (place : Place) : IO (Option Node) := do
  let path := (← IO.currentDir) / String.ofList (Path.ofNames place)
  if ← path.isDir then return some .directory
  try return some (.file (← IO.FS.readBinFile path)) catch _ => return none

/-- The tree with what stands on the way to a path. -/
def lookAlong (tree : Tree) (path : Path) : IO Tree :=
  (List.range (path.names.length + 1)).foldlM (fun tree count => do
    let place := Service.Storage.nominalPlace (.ofNames (path.names.take count))
    if (tree.node? place).isSome then return tree
    match ← lookAt place with
    | some node => return tree.put place node
    | none => return tree) tree

/-- The surroundings with what stands at all paths that a run consults. -/
def lookAround (s : Surroundings) (words : List String) : (rounds : Nat) → IO Surroundings
  | 0 => return s
  | rounds + 1 => do
    let tree ← (Service.consulted s words).foldlM lookAlong s.tree
    lookAround { s with tree := tree } words rounds

/-- Makes what a run has added to the tree. -/
def makeAdded (before after : Tree) : IO Unit := do
  let current ← IO.currentDir
  (after.nodes.filter fun (place, _) => (before.node? place).isNone).forM fun (place, node) => do
    let path := current / String.ofList (Path.ofNames place)
    match node with
    | .directory => IO.FS.createDirAll path
    | .file bytes => IO.FS.writeBinFile path bytes

/-- Runs the program on the machine. -/
def runHere (words : List String) : IO UInt32 := do
  let vars ← environment
  let home := ((vars.get? "HOME").getD "/").toList
  let current := (toString (← IO.currentDir)).toList
  -- A run ends before any question is asked, and it shows no time.
  let s ← lookAround ⟨vars, home, current, .bare, .untroubled 0, fun _ => ⟨0, 0⟩⟩ words
    Service.rounds
  let (outcome, tree) := Service.run s words
  makeAdded s.tree tree
  (← IO.getStdout).putStr outcome.output
  (← IO.getStderr).putStr outcome.errors
  return UInt32.ofNat outcome.code

end RowSieve

def main (words : List String) : IO UInt32 := RowSieve.runHere words
