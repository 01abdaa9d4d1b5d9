import Folio.CommandLine.Help
import Folio.Engine.Settings
import Folio.Json.Reader

/-! The program finds or renders a template of the disk and ends with an exit code, with output and
with messages; it may also write a file. Settings are read before data, and data before anything is
rendered. -/

namespace Folio.CommandLine

structure Call where
  args : List String
  environment : Environment := []
  terminal : Bool := false
  disk : Disk

structure Outcome where
  exit : Nat
  output : String := ""
  messages : String := ""
  disk : Disk

inductive Failure where
  | settings (path : Path) (error : SettingsError)
  | unreadableData (path : Path) (error : FileError)
  | malformedData (path : Path)
  | dataNotObject (path : Path) (value : Value)
  | template (error : Error)
  | unwritable (error : FileError)
  | notFound (name : String)
  deriving Repr

def kindName : Value → String
  | .null => "null"
  | .bool _ => "a boolean"
  | .number _ => "a number"
  | .text _ => "a string"
  | .list _ => "an array"
  | .object _ => "an object"

def Failure.message : Failure → String
  | .settings path error => "Failed to load " ++ path ++ ": " ++ (Error.settings error).message
  | .unreadableData path error => "Failed to read " ++ path ++ ": " ++ error.message
  | .malformedData path => "Failed to parse " ++ path ++ ": malformed document"
  | .dataNotObject path value =>
    "Data file " ++ path ++ " must contain an object, got " ++ kindName value
  | .template error => error.message
  | .unwritable error => error.message
  | .notFound name => "template '" ++ name ++ "' not found"

theorem Failure.message_template (error : Error) :
    (Failure.template error).message = error.message := rfl

def settingsFileName : String := "trellis.toml"

def currentFolder (disk : Disk) : Path :=
  "/" ++ Text.joinWith "/" disk.here

/-- The settings file: the one that is asked for, or else the one in the current folder. -/
def settingsFile? (disk : Disk) (order : Order) : Option Path :=
  match order.config? with
  | some path => some (Path.join (currentFolder disk) path)
  | none =>
    let path := Path.join (currentFolder disk) settingsFileName
    if disk.isFile path then some path else none

/-- The settings that an order is carried out with: the folders of the order come first, and without
any folder templates are looked for in the current one. -/
def settings (disk : Disk) (order : Order) : Except Failure Settings := do
  let settings ← match settingsFile? disk order with
    | some path => (Settings.load disk path).mapError (.settings path)
    | none => .ok {}
  let folders := order.folders.map (Path.join (currentFolder disk)) ++ settings.folders
  return { settings with folders := if folders.isEmpty then [currentFolder disk] else folders }

/-- The value that a data file holds: TOML if its extension says so, otherwise JSON. -/
def readData? (path : Path) (text : String) : Option Value :=
  if Path.extension? path = some "toml" then Toml.read? text else Json.read? text

def loadData (disk : Disk) (path : Path) : Except Failure Fields :=
  match disk.read path with
  | .error error => .error (.unreadableData path error)
  | .ok text =>
    match readData? path text with
    | none => .error (.malformedData path)
    | some (.object fields) => .ok fields
    | some value => .error (.dataNotObject path value)

def isOn? (environment : Environment) (name : String) : Option Bool :=
  (environment.lookup name).map (· ≠ "0")

def isColoured (call : Call) : Bool :=
  if isOn? call.environment "CLICOLOR_FORCE" = some true then true
  else if (isOn? call.environment "NO_COLOR").isSome then false
  else (isOn? call.environment "CLICOLOR").getD true && call.terminal

/-- A sign in front of a message, between the codes that switch its colour on and off. -/
def sign (call : Call) (codes text : String) : String :=
  if isColoured call then "\x1b[" ++ codes ++ "m" ++ text ++ "\x1b[0m" else text

/-- The disk with the text in a file, the folders on the way to which are made. -/
def writeFile (disk : Disk) (path : Path) (text : String) : Except FileError Disk := do
  let disk ← match Path.parent? path with
    | some folder => if folder = "" then .ok disk else disk.makeFolders folder
    | none => .ok disk
  disk.write path text

/-- The output of a template: a name that is the path of a file stands for that file. -/
def renderNamed (engine : Engine) (name : String) (context : Fields) : Except Error String :=
  let rendered := if engine.disk.isFile name then engine.renderFile name context
    else engine.render name context
  (rendered.eval .empty).1

def renderTask (call : Call) (verbose : Bool) (settings : Settings) (name : String)
    (data? output? : Option Path) : Outcome × Option Failure :=
  let disk := call.disk
  match data?.elim (.ok []) (loadData disk) with
  | .error failure => ({ exit := 1, disk }, some failure)
  | .ok context =>
    let started :=
      if verbose then sign call "36" "→" ++ " Rendering '" ++ name ++ "'\n" else ""
    match renderNamed (.ofSettings disk settings) name context with
    | .error error => ({ exit := 1, messages := started, disk }, some (.template error))
    | .ok rendered =>
      match output? with
      | none => ({ exit := 0, output := rendered, messages := started, disk }, none)
      | some path =>
        match writeFile disk path rendered with
        | .error error => ({ exit := 1, messages := started, disk }, some (.unwritable error))
        | .ok disk =>
          let done :=
            sign call "1;32" "✓" ++ " Rendered '" ++ name ++ "' to " ++ path ++ "\n"
          ({ exit := 0, messages := started ++ done, disk }, none)

def pathValue (path? : Option Path) : Value :=
  path?.elim .null .text

def findings (disk : Disk) (order : Order) (settings : Settings) (name : String)
    (found? : Option Path) : Value :=
  .ofFields
    [("name", .text name), ("path", pathValue found?),
      ("folders", .list (settings.folders.map .text)),
      ("config", pathValue (settingsFile? disk order))]

def findTask (call : Call) (order : Order) (settings : Settings) (name : String) (json : Bool) :
    Outcome × Option Failure :=
  let disk := call.disk
  let found? := (Engine.ofSettings disk settings).find name
  if json then
    let output := Json.indented 0 (findings disk order settings name found?) ++ "\n"
    ({ exit := 0, output, disk }, none)
  else match found? with
    | some path => ({ exit := 0, output := path ++ "\n", disk }, none)
    | none =>
      let searched := settings.folders.map fun folder =>
        sign call "33" "!" ++ " searched " ++ folder ++ "\n"
      let messages := if order.verbose then String.join searched else ""
      ({ exit := 1, messages, disk }, some (.notFound name))

def carryOut (call : Call) (order : Order) : Outcome × Option Failure :=
  match settings call.disk order with
  | .error failure => ({ exit := 1, disk := call.disk }, some failure)
  | .ok settings =>
    match order.task with
    | .render name data? output? => renderTask call order.verbose settings name data? output?
    | .find name json => findTask call order settings name json

/-- The outcome with the text of its failure as the last message. -/
def tell : Outcome × Option Failure → Outcome
  | (outcome, none) => outcome
  | (outcome, some failure) =>
    { outcome with messages := outcome.messages ++ "Error: " ++ failure.message ++ "\n" }

def stopped (call : Call) : Stop → Outcome
  | .help level => { exit := 0, output := help call.environment level, disk := call.disk }
  | .version =>
    { exit := 0, output := programName ++ " " ++ programVersion ++ "\n", disk := call.disk }
  | .misuse level misuse =>
    let messages := if call.args.isEmpty then help call.environment .program
      else report level misuse
    { exit := 2, messages, disk := call.disk }

def run (call : Call) : Outcome :=
  match order call.environment call.args with
  | .error stop => stopped call stop
  | .ok order => tell (carryOut call order)

/-- Arguments that are no order leave the disk as it is. -/
theorem run_of_order_eq_error {call : Call} {stop : Stop}
    (h : order call.environment call.args = .error stop) : (run call).disk = call.disk := by
  simp only [run, h]
  cases stop <;> rfl

end Folio.CommandLine
