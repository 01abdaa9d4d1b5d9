import Folio.CommandLine.Switch
import Folio.Text.Split

/-! The arguments are read from left to right, first those of the program, then those of a command.
What is asked for first counts: help, the version, or the first misuse. The value of a switch that
is an argument of its own is only looked at with the next argument, those of a later level excepted.
-/

namespace Folio.CommandLine

/-- What is wrong with the arguments. -/
inductive Misuse where
  | unknown (arg : String)
  | unknownCommand (name : String)
  | missingCommand
  | missingName
  | missingValue (switch : Switch)
  | unwantedValue (switch : Switch) (value : String)
  | repeated (switch : Switch)
  deriving DecidableEq, Repr

/-- Why the arguments are no order. -/
inductive Stop where
  | help (topic : Level)
  | version
  | misuse (level : Level) (misuse : Misuse)
  deriving DecidableEq, Repr

inductive Token where
  | dashes
  | long (word : String) (value? : Option String)
  | short (letters : List Char)
  | plain
  deriving DecidableEq, Repr

/-- The form of an argument; a single dash is a plain one. -/
def Token.ofString (arg : String) : Token :=
  match arg.toList with
  | ['-', '-'] => .dashes
  | '-' :: '-' :: rest =>
    match Text.cut? '=' rest with
    | some (word, value) => .long (String.ofList word) (some (String.ofList value))
    | none => .long (String.ofList rest) none
  | '-' :: letter :: rest => .short (letter :: rest)
  | _ => .plain

theorem Token.ofString_dashes : Token.ofString "--" = .dashes := rfl

structure Given where
  config? : Option Path := none
  folders : List Path := []
  verbose : Bool := false
  data? : Option Path := none
  output? : Option Path := none
  json : Bool := false
  name? : Option String := none
  deriving DecidableEq, Repr, Inhabited

namespace Given

/-- The path in place of one that was not given before. Paths are not empty. -/
def put (switch : Switch) (old? : Option Path) (path : Path) : Except Misuse (Option Path) :=
  if old?.isSome then .error (.repeated switch)
  else if path = "" then .error (.missingValue switch)
  else .ok (some path)

/-- What is given once a switch is given with a value. Only folders can be given more than once. -/
def store (given : Given) (switch : Switch) (value : String) : Except Misuse Given :=
  match switch with
  | .config => (put switch given.config? value).map fun config? => { given with config? }
  | .data => (put switch given.data? value).map fun data? => { given with data? }
  | .output => (put switch given.output? value).map fun output? => { given with output? }
  | .folder =>
    if value = "" then .error (.missingValue switch)
    else .ok { given with folders := given.folders ++ [value] }
  | .verbose | .json | .help | .version => .error (.unwantedValue switch value)

def turnOn (given : Given) (switch : Switch) : Except Misuse Given :=
  match switch with
  | .verbose =>
    if given.verbose then .error (.repeated switch) else .ok { given with verbose := true }
  | .json => if given.json then .error (.repeated switch) else .ok { given with json := true }
  | _ => .ok given

theorem store_repeated {given : Given} {old : Path} (h : given.config? = some old)
    (value : String) : given.store .config value = .error (.repeated .config) := by
  simp [store, put, h, Except.map]

end Given

/-- How far the arguments of a level are read: what has been given, and a switch that waits for its
value or has a value that has not been looked at. -/
structure Progress where
  given : Given := {}
  pending? : Option (Switch × Option String) := none
  deriving Inhabited

namespace Progress

/-- Looks at the value of the pending switch. -/
def settle (progress : Progress) : Except Misuse Progress :=
  match progress.pending? with
  | none => .ok progress
  | some (switch, none) => .error (.missingValue switch)
  | some (switch, some value) =>
    (progress.given.store switch value).map fun given => { given, pending? := none }

/-- Reads a switch with a value in the same argument, or one that waits for its value. -/
def take (progress : Progress) (switch : Switch) (value? : Option String) :
    Except Misuse Progress := do
  let progress ← progress.settle
  match value? with
  | some value => (progress.given.store switch value).map fun given => { progress with given }
  | none => return { progress with pending? := some (switch, none) }

def flip (level : Level) (progress : Progress) (switch : Switch) : Except Stop Progress :=
  match progress.settle with
  | .error misuse => .error (.misuse level misuse)
  | .ok progress =>
    match switch with
    | .help => .error (.help level)
    | .version => .error .version
    | switch =>
      match progress.given.turnOn switch with
      | .error misuse => .error (.misuse level misuse)
      | .ok given => .ok { progress with given }

end Progress

def atLevel {α : Type} (level : Level) (result : Except Misuse α) : Except Stop α :=
  result.mapError (.misuse level)

/-- Reads an argument of letters. What follows the letter of a switch that takes a value is the
value, with or without an equals sign. -/
def readLetters (level : Level) (progress : Progress) : List Char → Except Stop Progress
  | [] => .ok progress
  | letter :: rest =>
    match level.lettered? letter with
    | none => .error (.misuse level (.unknown (String.ofList ['-', letter])))
    | some switch =>
      if switch.valueName?.isSome then
        let value? := match rest with
          | [] => none
          | '=' :: value => some (String.ofList value)
          | value => some (String.ofList value)
        atLevel level (progress.take switch value?)
      else do
        let progress ← progress.flip level switch
        readLetters level progress rest

def readWord (level : Level) (progress : Progress) (word : String) (value? : Option String) :
    Except Stop Progress :=
  match level.switch? word with
  | none => .error (.misuse level (.unknown ("--" ++ word)))
  | some switch =>
    if switch.valueName?.isSome then atLevel level (progress.take switch value?)
    else match value? with
      | some value => .error (.misuse level (.unwantedValue switch value))
      | none => progress.flip level switch

/-- Reads an argument that is neither a switch nor a value: the name that a command works on. -/
def readName (level : Level) (progress : Progress) (arg : String) : Except Stop Progress :=
  match level, progress.given.name? with
  | .program, _ => .error (.misuse level (.unknownCommand arg))
  | _, some _ => .error (.misuse level (.unknown arg))
  | _, none => do
    let progress ← atLevel level progress.settle
    return { progress with given := { progress.given with name? := some arg } }

def command? (level : Level) (progress : Progress) (arg : String) : Option Level :=
  match level, progress.pending? with
  | .program, some (_, none) => none
  | .program, _ => Level.named? arg
  | _, _ => none

/-- Reads the arguments of a level, up to one that enters a command. After two dashes all arguments
are names. -/
def readLevel (level : Level) (onlyNames : Bool) (progress : Progress) :
    List String → Except Stop (Progress × Option (Level × List String))
  | [] => .ok (progress, none)
  | arg :: rest =>
    if onlyNames then do
      let progress ← readName level progress arg
      readLevel level true progress rest
    else match command? level progress arg with
      | some command => .ok (progress, some (command, rest))
      | none =>
        match Token.ofString arg with
        | .dashes => readLevel level true progress rest
        | .long word value? => do
          let progress ← readWord level progress word value?
          readLevel level false progress rest
        | .short letters => do
          let progress ← readLetters level progress letters
          readLevel level false progress rest
        | .plain =>
          match progress.pending? with
          | some (switch, none) =>
            readLevel level false { progress with pending? := some (switch, some arg) } rest
          | _ => do
            let progress ← readName level progress arg
            readLevel level false progress rest

inductive Task where
  | render (name : String) (data? output? : Option Path)
  | find (name : String) (json : Bool)
  deriving DecidableEq, Repr

structure Order where
  config? : Option Path
  folders : List Path
  verbose : Bool
  task : Task
  deriving DecidableEq, Repr

abbrev Environment := List (String × String)

def configVariable : String := "TRELLIS_CONFIG"

/-- What has been given at a level once all its arguments are read. If no settings file has been
given, one named by the environment is looked at, too. -/
def finish (environment : Environment) (progress : Progress) : Except Misuse Given := do
  let progress ← progress.settle
  if progress.given.config?.isNone ∧ environment.lookup configVariable = some "" then
    throw (.missingValue .config)
  return progress.given

def helpTopic : List String → Stop
  | [] => .help .program
  | name :: rest =>
    match Level.named? name, rest with
    | none, _ => .misuse .program (.unknownCommand name)
    | some level, [] => .help level
    | some level, name :: _ => .misuse level (.unknownCommand name)

def task (level : Level) (name : String) (given : Given) : Task :=
  match level with
  | .find => .find name given.json
  | _ => .render name given.data? given.output?

/-- The order that the arguments are. What is given to a command counts more than what is given to
the program, and both count more than the environment. -/
def order (environment : Environment) (args : List String) : Except Stop Order := do
  let (outer, entered?) ← readLevel .program false {} args
  match entered? with
  | none =>
    let _ ← atLevel .program (finish environment outer)
    .error (.misuse .program .missingCommand)
  | some (.help, rest) => .error (helpTopic rest)
  | some (level, rest) =>
    let (inner, _) ← readLevel level false {} rest
    let inner ← atLevel level (finish environment inner)
    let some name := inner.name? | .error (.misuse level .missingName)
    let outer ← atLevel .program (finish environment outer)
    return {
      config? := (inner.config?.or outer.config?).or (environment.lookup configVariable)
      folders := if inner.folders.isEmpty then outer.folders else inner.folders
      verbose := inner.verbose || outer.verbose
      task := task level name inner }

end Folio.CommandLine
