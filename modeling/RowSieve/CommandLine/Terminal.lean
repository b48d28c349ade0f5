/-
Texts for terminals. A text may be marked with control sequences, which a terminal carries out
and does not show; `plain` is what is left of it where no terminal reads it. Control sequences
within a value that is told about are taken out as well, and one that does not end takes with it
what follows, up to the next mark.

A sequence that is broken by a blank that moves the cursor shows its rest, until something else
that is not shown interrupts it.
-/
namespace RowSieve.CommandLine.Terminal

/-! ## Marks -/

def reset : String := "\x1b[0m"

/-- A word that is meant literally. -/
def literal (s : String) : String := "\x1b[1m" ++ s ++ reset

/-- A word that is wrong. -/
def invalid (s : String) : String := "\x1b[33m" ++ s ++ reset

/-! ## Control sequences -/

/-- What a character stands in. -/
inductive State where
  | ground
  | escape
  | escapeIntermediate
  | controlEntry
  | controlParameter
  | controlIntermediate
  | controlIgnored
  | deviceEntry
  | deviceParameter
  | deviceIntermediate
  | deviceIgnored
  | deviceData
  | systemCommand
  | message
deriving DecidableEq

/-- A blank that moves the cursor. -/
def isMove (c : Char) : Bool := c == '\t' || c == '\n' || c == '\x0c' || c == '\r'

/-- Whether a character is shown outside of control sequences. -/
def isShown (c : Char) : Bool := isMove c || (' ' ≤ c && c != '\x7f')

/-- Whether a byte behind the first one of the character is the one that ends strings. -/
def holdsTerminator (c : Char) : Bool :=
  0x80 ≤ c.toNat &&
    (c.toNat % 64 = 0x1C ||
      0x800 ≤ c.toNat && c.toNat / 64 % 64 = 0x1C ||
      0x10000 ≤ c.toNat && c.toNat / 4096 % 64 = 0x1C)

namespace State

/-- Whether a character is shown in a state. -/
def shows (s : State) (c : Char) : Bool :=
  match s with
  | ground => isShown c
  | escape | escapeIntermediate | controlEntry | controlParameter | controlIntermediate
  | controlIgnored => isMove c
  | _ => false

/-- The state behind a character that belongs to an escape. -/
def afterEscape (c : Char) : State :=
  match c with
  | '[' => controlEntry
  | ']' => systemCommand
  | 'P' => deviceEntry
  | 'X' | '^' | '_' => message
  | c => if c ≤ '/' then escapeIntermediate else ground

/-- The state behind a character from the space to the tilde, in an escape or in a control or
device sequence. -/
def after (s : State) (c : Char) : State :=
  match s with
  | escape => afterEscape c
  | escapeIntermediate => if c ≤ '/' then s else ground
  | controlEntry =>
    if c ≤ '/' then controlIntermediate else if c ≤ '?' then controlParameter else ground
  | controlParameter =>
    if c ≤ '/' then controlIntermediate
    else if c ≤ ';' then s
    else if c ≤ '?' then controlIgnored
    else ground
  | controlIntermediate =>
    if c ≤ '/' then s else if c ≤ '?' then controlIgnored else ground
  | controlIgnored => if c ≤ '?' then s else ground
  | deviceEntry =>
    if c ≤ '/' then deviceIntermediate else if c ≤ '?' then deviceParameter else deviceData
  | deviceParameter =>
    if c ≤ '/' then deviceIntermediate
    else if c ≤ ';' then s
    else if c ≤ '?' then deviceIgnored
    else deviceData
  | deviceIntermediate =>
    if c ≤ '/' then s else if c ≤ '?' then deviceIgnored else deviceData
  | _ => s

/-- The state behind a character that is not shown. -/
def next (s : State) (c : Char) : State :=
  if c = '\x1b' then escape
  else if c = '\x18' ∨ c = '\x1a' then ground
  else if ' ' ≤ c ∧ c ≤ '~' then s.after c
  else match s with
    | systemCommand => if c = '\x07' then ground else s
    | message | deviceData | deviceIgnored => if holdsTerminator c then ground else s
    | _ => s

end State

/-- What is shown of a text behind a state; `showing` while characters are shown one after
another, whatever the state. -/
def visible (s : State) (showing : Bool) : List Char → List Char
  | [] => []
  | c :: rest =>
    if showing && isShown c || s.shows c then
      c :: visible (if 0x80 ≤ c.toNat then .ground else s) true rest
    else visible (s.next c) false rest

/-- The text without its control sequences. -/
def plain (s : String) : String := String.ofList (visible .ground false s.toList)

end RowSieve.CommandLine.Terminal
