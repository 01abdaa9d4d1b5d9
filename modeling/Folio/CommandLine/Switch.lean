import Folio.Files.Path

namespace Folio.CommandLine

inductive Level where
  | program
  | render
  | find
  | help
  deriving DecidableEq, Repr

def programName : String := "trellis"

def programVersion : String := "0.1.0"

def Level.name : Level → String
  | .program => programName
  | .render => "render"
  | .find => "find"
  | .help => "help"

def Level.commands : List Level := [.render, .find, .help]

def Level.named? (name : String) : Option Level :=
  Level.commands.find? fun level => level.name = name

theorem Level.named?_name {level : Level} (h : level ≠ .program) :
    Level.named? level.name = some level := by
  cases level
  · contradiction
  all_goals decide

inductive Switch where
  | config
  | folder
  | verbose
  | data
  | output
  | json
  | help
  | version
  deriving DecidableEq, Repr

namespace Switch

/-- The word of a switch, without its dashes. -/
def long : Switch → String
  | .config => "config"
  | .folder => "dir"
  | .verbose => "verbose"
  | .data => "data"
  | .output => "output"
  | .json => "json"
  | .help => "help"
  | .version => "version"

def short? : Switch → Option Char
  | .config => some 'c'
  | .folder => some 'd'
  | .verbose => some 'v'
  | .data => none
  | .output => some 'o'
  | .json => none
  | .help => some 'h'
  | .version => some 'V'

def valueName? : Switch → Option String
  | .config => some "CONFIG"
  | .folder => some "DIRS"
  | .data => some "DATA"
  | .output => some "OUTPUT"
  | _ => none

def usage (switch : Switch) : String :=
  "--" ++ switch.long ++
    match switch.valueName? with
    | some name => " <" ++ name ++ ">"
    | none => ""

end Switch

def Level.switches : Level → List Switch
  | .program => [.config, .folder, .verbose, .help, .version]
  | .render => [.config, .data, .folder, .output, .verbose, .help]
  | .find => [.config, .json, .folder, .verbose, .help]
  | .help => []

def Level.lettered? (level : Level) (letter : Char) : Option Switch :=
  level.switches.find? fun switch => switch.short? = some letter

def Level.switch? (level : Level) (word : String) : Option Switch :=
  level.switches.find? fun switch => switch.long = word

/-- At each level the words of the switches differ. -/
theorem Level.switch?_long {level : Level} {switch : Switch} (h : switch ∈ level.switches) :
    level.switch? switch.long = some switch := by
  cases level <;> cases switch <;> revert h <;> decide

end Folio.CommandLine
