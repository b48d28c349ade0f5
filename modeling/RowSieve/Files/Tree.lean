/-
A tree of directories and files, as a program finds it. A path is followed step by step from the
root, and every step has to be made inside a directory; what stands in the way is told as a fault.
Directories are made one at a time or together with all that are missing above them.
-/
import RowSieve.Files.Path
import RowSieve.Text.Utf8

namespace RowSieve.Files

/-- Why a path cannot be used. -/
inductive Fault where
  | notFound
  | taken
  | notDirectory
  | isDirectory
  | nameTooLong
  | nulByte
  | notText
deriving DecidableEq

def Fault.message : Fault → String
  | notFound => "No such file or directory (os error 2)"
  | taken => "File exists (os error 17)"
  | notDirectory => "Not a directory (os error 20)"
  | isDirectory => "Is a directory (os error 21)"
  | nameTooLong => "File name too long (os error 36)"
  | nulByte => "file name contained an unexpected NUL byte"
  | notText => "stream did not contain valid UTF-8"

/-- What stands at a place. -/
inductive Node where
  | directory
  | file (bytes : ByteArray)

def Node.isDirectory : Node → Bool
  | directory => true
  | file _ => false

/-- A place in a tree: the names on the way from the root. -/
abbrev Place := List (List Char)

/-- The places below the root at which something stands. -/
structure Tree where
  nodes : List (Place × Node)

namespace Tree

/-- The tree with nothing below its root. -/
def bare : Tree := ⟨[]⟩

/-- The greatest number of bytes in a name. -/
def nameLimit : Nat := 255

/-- The greatest number of bytes in a path. -/
def pathLimit : Nat := 4095

/-- Refuses a path that nothing can stand at. -/
def accept (p : Path) : Except Fault Unit :=
  if p.contains '\x00' then .error .nulByte
  else if pathLimit < Text.Utf8.byteLength p then .error .nameTooLong
  else .ok ()

/-- What stands at a place; the root is a directory. -/
def node? (t : Tree) (p : Place) : Option Node :=
  if p.isEmpty then some .directory else (t.nodes.find? (·.1 == p)).map (·.2)

/-- The tree with something put at a free place. -/
def put (t : Tree) (p : Place) (n : Node) : Tree := ⟨t.nodes ++ [(p, n)]⟩

/-- A place inside a directory. -/
def inside (t : Tree) (p : Place) (name : List Char) : Except Fault Place :=
  match t.node? p with
  | none => .error .notFound
  | some (.file _) => .error .notDirectory
  | some .directory =>
    if nameLimit < Text.Utf8.byteLength name then .error .nameTooLong else .ok (p ++ [name])

/-- Follows steps from a place. The last of them may lead where nothing stands. -/
def follow (t : Tree) : Place → List (List Char) → Except Fault Place
  | p, [] => .ok p
  | p, step :: rest => do
    let next ← t.inside p step
    if step.isEmpty || step == Path.here then t.follow p rest
    else if step == Path.up then t.follow p.dropLast rest
    else t.follow next rest

/-- The place of a path and what stands there. -/
def locate (t : Tree) (p : Path) : Except Fault (Place × Node) := do
  accept p
  let place ← t.follow [] p.steps
  match t.node? place with
  | none => .error .notFound
  | some n => .ok (place, n)

def exists? (t : Tree) (p : Path) : Bool := (t.locate p).toOption.isSome

def isDirectory (t : Tree) (p : Path) : Bool :=
  (t.locate p).toOption.any fun (_, n) => n.isDirectory

/-- The plainest path to where a path leads, if something stands there. -/
def canonical? (t : Tree) (p : Path) : Option Path :=
  (t.locate p).toOption.map fun (place, _) => .ofNames place

/-- The text of a file. -/
def readText (t : Tree) (p : Path) : Except Fault String := do
  match ← t.locate p with
  | (_, .directory) => .error .isDirectory
  | (_, .file bytes) =>
    match String.fromUTF8? bytes with
    | some s => .ok s
    | none => .error .notText

/-! ## Making directories -/

/-- Makes one directory, in a directory that exists. -/
def makeDirectory (t : Tree) (p : Path) : Except Fault Tree := do
  accept p
  match p.steps.reverse.dropWhile (·.isEmpty) with
  | [] => .error .taken
  | name :: above => do
    let parent ← t.follow [] above.reverse
    let place ← t.inside parent name
    if name == Path.here || name == Path.up || (t.node? place).isSome then .error .taken
    else .ok (t.put place .directory)

/-- Makes a directory that may be there already; if the one above it is missing, `above` is made
first. -/
def ensure (t : Tree) (p : Path) (above : Except Fault Tree) : Except Fault Tree :=
  let orThere (t : Tree) (fault : Fault) : Except Fault Tree :=
    if t.isDirectory p then .ok t else .error fault
  match t.makeDirectory p with
  | .ok t' => .ok t'
  | .error .notFound =>
    match above with
    | .error fault => .error fault
    | .ok t' =>
      match t'.makeDirectory p with
      | .ok t'' => .ok t''
      | .error fault => orThere t' fault
  | .error fault => orThere t fault

/-- Makes the directory of the given names, the last name first, and those above it. -/
def makeNames (t : Tree) : List (List Char) → Except Fault Tree
  | [] => .ok t
  | name :: above => t.ensure (.ofNames (name :: above).reverse) (t.makeNames above)

/-- Makes the directory of an absolute path and all that are missing above it. -/
def makeAll (t : Tree) (p : Path) : Except Fault Tree :=
  t.ensure p (t.makeNames p.names.reverse.tail)

end Tree

end RowSieve.Files
