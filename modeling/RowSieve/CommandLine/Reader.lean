/-
Reading a command line word by word. In front of a command stand options of the whole program,
behind it options again. A value that stands in a word of its own is looked at when the next
option is met or the words have ended; the values behind the command are looked at before the
last one in front of it. Two hyphens end the options. Where several things are wrong, the first
one that is looked at decides.
-/
import RowSieve.CommandLine.Arguments
import RowSieve.Text.Pieces

namespace RowSieve.CommandLine

/-- What has been read on one side of the command. -/
structure Progress where
  given : List Given
  /-- The options that were met and taken in, in order. -/
  used : List Opt
  /-- An option whose value has not been looked at, and the value if its word has been met. -/
  pending? : Option (Opt × Option String)

def Progress.start : Progress := ⟨[], [], none⟩

/-- Reading on one side of the command. -/
abbrev Reading (α : Type) := ExceptT Stop (StateM Progress) α

namespace Reading

variable (page : Page)

def fail {α : Type} (what : Problem) : Reading α := throw (.problem page what)

/-- Notes that an option is used. -/
def use (o : Opt) : Reading Unit :=
  modify fun p => { p with used := if p.used.contains o then p.used else p.used ++ [o] }

/-- Takes in an option with its value. One that has been taken in before cannot come again. -/
def take (source : Source) (o : Opt) (raw : String) : Reading Unit := do
  if (← get).used.contains o then
    modify fun p => { p with
      given := p.given.filter (·.option != o)
      used := p.used.filter (· != o) }
    fail page (.repeated o)
  use o
  match o.read raw with
  | .ok v => modify fun p => { p with given := p.given ++ [⟨o, v, source⟩] }
  | .error what => fail page what

/-- Takes in the option that is still pending. -/
def settle : Reading Unit := do
  match (← get).pending? with
  | none => return
  | some (o, raw?) =>
    modify fun p => { p with pending? := none }
    match raw? with
    | some raw => take page .words o raw
    | none => fail page (.missingValue o)

/-- Settles before a problem is told, whatever comes of it. -/
def settleAnyway : Reading Unit := tryCatch (settle page) fun _ => return

/-- The option that waits for its value. -/
def waiting? : Reading (Option Opt) := do
  match (← get).pending? with
  | some (o, none) => return some o
  | _ => return none

/-- Meets an option that takes no value. -/
def meetFlag (o : Opt) : Reading Unit := do
  settle page
  match o with
  | .help => throw (.help page)
  | .version => throw .version
  | o => take page .words o "true"

/-- Meets an option that takes a value, which may be in the same word. -/
def meetValued (o : Opt) (raw? : Option String) : Reading Unit := do
  settle page
  match raw? with
  | some raw => take page .words o raw
  | none => modify fun p => { p with pending? := some (o, none) }

/-- Meets an option behind two hyphens. -/
def meetLong (name : String) (raw? : Option String) : Reading Unit := do
  match page.options.find? (·.name == name), raw? with
  | some o, some raw =>
    if o.takesValue then meetValued page o (some raw)
    else fail page (.unexpectedValue o raw ((← get).used ++ [o]))
  | some o, none => if o.takesValue then meetValued page o none else meetFlag page o
  | none, _ => do
    settleAnyway page
    let best? := (Likeness.similar name (page.options.map Opt.name)).getLast?
    let similar? := best?.bind fun n => page.options.find? (·.name == n)
    match similar? with
    | some o => use o
    | none => pure ()
    fail page (.unknownOption name similar? (← get).used)

/-- Meets the letters behind one hyphen. What follows a letter that takes a value is its value,
after an equals sign that may stand between them. -/
def meetLetters : List Char → Reading Unit
  | [] => return
  | c :: rest => do
    match page.options.find? (·.letter? == some c) with
    | none => do
      settleAnyway page
      fail page (.unknownLetter c)
    | some o =>
      if o.takesValue then
        match rest with
        | [] => meetValued page o none
        | '=' :: raw => meetValued page o (some (String.ofList raw))
        | raw => meetValued page o (some (String.ofList raw))
      else do
        meetFlag page o
        meetLetters rest

/-- Meets a word that is neither an option nor a value nor, in front of two hyphens, a page. -/
def meetWord (word : String) (behindHyphens : Bool) : Reading Unit := do
  settleAnyway page
  if behindHyphens && (page.below? word).isSome then fail page (.hiddenCommand word)
  else if page.below.isEmpty then fail page (.unexpectedWord word)
  else fail page (.unknownCommand word (Likeness.similar word (page.below.map (·.1))))

/-- The page that the words behind the help word lead to. -/
def helpPage : Page → List String → Stop
  | page, [] => .help page
  | page, word :: rest =>
    match page.below? word with
    | some next => helpPage next rest
    | none => .problem page (.unknownCommand word [])

/-- Reads words up to a command, and gives it with the words behind it. -/
def words : List String → Reading (Option (Command × List String))
  | [] => return none
  | word :: rest => do
    let waiting? ← waiting?
    match if waiting?.isNone then page.below? word else none with
    | some (.command c) => return some (c, rest)
    | some _ => throw (helpPage page rest)
    | none =>
      match word.toList with
      | ['-', '-'] => do
        match rest with
        | [] => pure ()
        | next :: _ => meetWord page next true
        return none
      | '-' :: '-' :: long => do
        match Text.cut? '=' long with
        | some (name, raw) => meetLong page (String.ofList name) (some (String.ofList raw))
        | none => meetLong page (String.ofList long) none
        words rest
      | '-' :: c :: letters => do
        meetLetters page (c :: letters)
        words rest
      | _ => do
        match waiting? with
        | some o => modify fun p => { p with pending? := some (o, some word) }
        | none => meetWord page word false
        words rest

/-- Takes in what the environment gives for options that the words do not give. -/
def fromEnvironment (vars : Variables) : Reading Unit :=
  Opt.settings.forM fun o => do
    if (← get).used.contains o then return
    match o.standIn?.bind vars.get? with
    | some raw => take page .environment o raw
    | none => return

/-- What is left to do when the words have ended. -/
def finish (vars : Variables) : Reading (List Given) := do
  settle page
  fromEnvironment page vars
  return (← get).given

end Reading

/-- The arguments that words and an environment give. -/
def Arguments.read (vars : Variables) (words : List String) : Except Stop Arguments := do
  let (command?, before) := (Reading.words .program words).run.run .start
  match ← command? with
  | none => do
    let given ← ((Reading.finish .program vars).run.run before).1
    return .ofGiven none given []
  | some (c, rest) => do
    let behindCommand : Reading (List Given) := do
      let _ ← Reading.words (.command c) rest
      Reading.finish (.command c) vars
    let behind ← (behindCommand.run.run .start).1
    let given ← ((Reading.finish .program vars).run.run before).1
    return .ofGiven (some c) given behind

end RowSieve.CommandLine
