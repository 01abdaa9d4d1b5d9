import Folio.CommandLine.Order
import Folio.Text.Split

namespace Folio.CommandLine

def lineWidth : Nat := 100

def Level.summary : Level → String
  | .program => ""
  | .render => "Render a template"
  | .find => "Show which file a template name resolves to"
  | .help => "Print this message or the help of the given subcommand(s)"

def Level.usage : Level → String
  | .program => "Usage: " ++ programName ++ " [OPTIONS] <COMMAND>"
  | .help => "Usage: " ++ programName ++ " help [COMMAND]..."
  | level => "Usage: " ++ programName ++ " " ++ level.name ++ " [OPTIONS] <NAME>"

def Switch.summary (environment : Environment) : Switch → String
  | .config =>
    "Engine settings file (defaults to ./trellis.toml when present) [env: " ++ configVariable
      ++ "=" ++ (environment.lookup configVariable).getD "" ++ "]"
  | .folder => "Extra template folder, searched before configured folders"
  | .verbose => ""
  | .data => "JSON or TOML file with the render context"
  | .output => "Write the result here instead of stdout"
  | .json => "Output as JSON"
  | .help => "Print help"
  | .version => "Print version"

/-- The names that follow the switches of a level, with what they are. -/
def Level.names : Level → List (String × String)
  | .program => []
  | .render => [("<NAME>", "Template name or path to a template file")]
  | .find => [("<NAME>", "")]
  | .help => [("[COMMAND]...", "Print help for the subcommand(s)")]

/-- Words put on lines of at most `width` characters, as long as each word is no longer than that;
`column` characters of the first line are taken. -/
def fill (width column : Nat) : List String → List String
  | [] => [""]
  | [word] => [word]
  | word :: next :: rest =>
    let column := column + word.length
    if width < column + 1 + next.length then word :: fill width 0 (next :: rest)
    else match fill width (column + 1) (next :: rest) with
      | [] => [word]
      | line :: lines => (word ++ " " ++ line) :: lines

def spaces (count : Nat) : String :=
  String.ofList (List.replicate count ' ')

/-- A line of two columns; the second one starts after `column` characters and is filled. -/
def entry (column : Nat) (label text : String) : String :=
  let lines := fill (lineWidth - column) 0 (Text.splitString ' ' text)
  label ++ spaces (column - label.length) ++ Text.joinWith ("\n" ++ spaces column) lines ++ "\n"

/-- A titled list of two columns, two spaces apart and two spaces from the left; nothing if the list
is empty. -/
def listing (title : String) (entries : List (String × String)) : String :=
  let column := (entries.map fun line => line.1.length).foldl max 0 + 2
  if entries.isEmpty then ""
  else "\n" ++ title ++ ":\n" ++ String.join (entries.map fun line => entry column line.1 line.2)

def Switch.label (switch : Switch) : String :=
  match switch.short? with
  | some letter => "  -" ++ String.ofList [letter] ++ ", " ++ switch.usage
  | none => "      " ++ switch.usage

def help (environment : Environment) (level : Level) : String :=
  let indented (line : String × String) : String × String := ("  " ++ line.1, line.2)
  let commands := match level with
    | .program => Level.commands.map fun command => indented (command.name, command.summary)
    | _ => []
  let switches := level.switches.map fun switch => (switch.label, switch.summary environment)
  (if level.summary = "" then "" else level.summary ++ "\n\n") ++ level.usage ++ "\n"
    ++ listing "Commands" commands ++ listing "Arguments" (level.names.map indented)
    ++ listing "Options" switches

def Misuse.message : Misuse → String
  | .unknown arg => "unexpected argument '" ++ arg ++ "' found"
  | .unknownCommand name => "unrecognized subcommand '" ++ name ++ "'"
  | .missingCommand => "'" ++ programName ++ "' requires a subcommand but one was not provided"
  | .missingName => "the following required arguments were not provided:\n  <NAME>"
  | .missingValue switch =>
    "a value is required for '" ++ switch.usage ++ "' but none was supplied"
  | .unwantedValue switch value =>
    "unexpected value '" ++ value ++ "' for '" ++ switch.usage
      ++ "' found; no more were expected"
  | .repeated switch =>
    "the argument '" ++ switch.usage ++ "' cannot be used multiple times"

def report (level : Level) (misuse : Misuse) : String :=
  "error: " ++ misuse.message ++ "\n\n" ++ level.usage
    ++ "\n\nFor more information, try '--help'.\n"

end Folio.CommandLine
