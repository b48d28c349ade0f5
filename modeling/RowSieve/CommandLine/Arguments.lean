/-
The arguments of the program: the command and the settings that the command line and the
environment give. A value that is given at two places counts where it was given more directly: on
the command line before the environment, and behind the command before in front of it.
-/
import RowSieve.CommandLine.Likeness
import RowSieve.CommandLine.Problem
import RowSieve.Number.Integer

namespace RowSieve.CommandLine

/-- The arguments of the program. -/
structure Arguments where
  command? : Option Command
  host? : Option String
  port? : Option Nat
  debug : Bool
  config? : Option String
  dbPath? : Option String
  seedDemo : Bool
  maxFilters? : Option Nat
deriving DecidableEq

/-- A value of an option. -/
inductive Value where
  | text (s : String)
  | number (n : Nat)
  | truth (b : Bool)
deriving DecidableEq

namespace Opt

/-- Reads a number within bounds; `reason` tells why a number that is read first cannot stay. -/
def readNumber (o : Opt) (b : Number.Bounds) (kept : Int → Except String Nat) (s : String) :
    Except Problem Value :=
  match Number.readInteger b s.toList with
  | .error e => .error (.unreadable o s e.message)
  | .ok n => match kept n with
    | .error reason => .error (.unreadable o s reason)
    | .ok n => .ok (.number n)

/-- A port, among all integers of 64 bits. -/
def portOf (n : Int) : Except String Nat :=
  if Number.Bounds.word16.Contains n then .ok n.toNat else .error s!"{n} is not in 0..=65535"

/-- Reads a path, which cannot be empty. -/
def readPath (o : Opt) (s : String) : Except Problem Value :=
  if s.isEmpty then .error (.missingValue o) else .ok (.text s)

/-- Reads a truth value. -/
def readTruth (o : Opt) (s : String) : Except Problem Value :=
  if s == "true" then .ok (.truth true)
  else if s == "false" then .ok (.truth false)
  else
    let allowed := ["true", "false"]
    .error (.notAllowed o s allowed (Likeness.similar s allowed).getLast?)

/-- The value of an option that a text writes. -/
def read (o : Opt) (s : String) : Except Problem Value :=
  match o with
  | port => o.readNumber .signed64 portOf s
  | maxFilters => o.readNumber .word64 (fun n => .ok n.toNat) s
  | config | dbPath => o.readPath s
  | debug | seedDemo => o.readTruth s
  | host | help | version => .ok (.text s)

end Opt

/-! ## Values given -/

/-- Where a value was given. -/
inductive Source where
  | environment
  | words
deriving DecidableEq

/-- A value that was given to an option. -/
structure Given where
  option : Opt
  value : Value
  source : Source

/-- The value of an option that counts, of those in front of the command and those behind it. -/
def pick (before behind : List Given) (o : Opt) : Option Value :=
  let first? := before.find? fun g => g.option == o
  let second? := behind.find? fun g => g.option == o
  let chosen? : Option Given := match first?, second? with
    | some g, some h => if g.source = .words ∧ h.source = .environment then some g else some h
    | some g, none => some g
    | none, h? => h?
  chosen?.map (·.value)

namespace Value

def text? : Value → Option String
  | text s => some s
  | _ => none

def number? : Value → Option Nat
  | number n => some n
  | _ => none

def isTrue : Value → Bool
  | truth b => b
  | _ => false

end Value

/-- The arguments that given values make. -/
def Arguments.ofGiven (command? : Option Command) (before behind : List Given) : Arguments :=
  let value := pick before behind
  { command? := command?
    host? := (value .host).bind Value.text?
    port? := (value .port).bind Value.number?
    debug := (value .debug).any Value.isTrue
    config? := (value .config).bind Value.text?
    dbPath? := (value .dbPath).bind Value.text?
    seedDemo := (value .seedDemo).any Value.isTrue
    maxFilters? := (value .maxFilters).bind Value.number? }

end RowSieve.CommandLine
