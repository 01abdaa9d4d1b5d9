import Folio.Command.Builtin
import Folio.Engine.Basic
import Folio.Toml.Reader

namespace Folio

structure Settings where
  folders : List Path := []
  extensions : List String := ["tpl", "inc"]
  alias? : Option String := none
  strict : Bool := true
  maxDepth : Nat := 64
  deriving DecidableEq, Repr, Inhabited

namespace Settings

def text? : Value → Option String
  | .text s => some s
  | _ => none

def texts? : Value → Option (List String)
  | .list items => items.mapM text?
  | _ => none

def bool? : Value → Option Bool
  | .bool b => some b
  | _ => none

def nat? : Value → Option Nat
  | .number (.whole n) => if 0 ≤ n then some n.toNat else none
  | _ => none

/-- The decoded setting, or `fallback` if it is absent; `none` if it cannot be decoded. -/
def orElse {α : Type} (found? : Option Value) (decode : Value → Option α) (fallback : α) :
    Option α :=
  match found? with
  | some value => decode value
  | none => some fallback

/-- The settings of which `get` gives the values, by their positions and names. -/
def decode? (get : Nat → String → Option Value) : Option Settings := do
  let folders ← orElse (get 0 "folders") texts? []
  let extensions ← orElse (get 1 "extensions") texts? ({} : Settings).extensions
  let alias? ← orElse (get 2 "alias") (fun value => (text? value).map some) none
  let strict ← orElse (get 3 "strict") bool? true
  let maxDepth ← orElse (get 4 "max_depth") nat? ({} : Settings).maxDepth
  return { folders, extensions, alias?, strict, maxDepth }

/-- The settings that a value stands for: a table, or a list of the settings in their order. What
is not a setting is ignored. -/
def ofValue? : Value → Option Settings
  | .object fields => decode? fun _ name => Fields.get? fields name
  | .list items => decode? fun position _ => items[position]?
  | _ => none

def ofDocument? : Value → Option Settings
  | .object fields => orElse (Fields.get? fields "engine") ofValue? {}
  | _ => none

/-- The settings, if an engine can work with them. -/
def check (settings : Settings) : Except SettingsError Settings :=
  if settings.maxDepth = 0 then .error .zeroDepth
  else if settings.extensions.contains "" then .error .emptyExtension
  else if settings.alias? = some "" then .error .emptyAlias
  else .ok settings

def read (text : String) : Except SettingsError Settings :=
  match (Toml.read? text).bind ofDocument? with
  | some settings => settings.check
  | none => .error .badText

/-- The settings with relative folders seen from `base`. -/
def anchor (base : Path) (settings : Settings) : Settings :=
  { settings with folders := settings.folders.map (Path.join base) }

def load (disk : Disk) (path : Path) : Except SettingsError Settings :=
  match disk.read path with
  | .error error => .error (.unreadable path error)
  | .ok text =>
    match read text with
    | .error error => .error error
    | .ok settings =>
      match path.parent? with
      | some base => .ok (settings.anchor base)
      | none => .ok settings

/-- What an engine can work with: a level to render on, extensions that are not empty, and an alias,
if there is one, that is not empty either. -/
theorem check_eq_ok_iff {settings checked : Settings} :
    settings.check = .ok checked ↔
      settings = checked ∧ settings.maxDepth ≠ 0 ∧ "" ∉ settings.extensions ∧
        settings.alias? ≠ some "" := by
  unfold check
  split
  · simp_all
  · split
    · simp_all
    · split <;> simp_all

theorem read_of_read?_eq_none {text : String} (h : Toml.read? text = none) :
    read text = .error .badText := by
  simp [read, h]

end Settings

def Engine.ofSettings (disk : Disk) (settings : Settings) : Engine where
  disk := disk
  finder := ⟨settings.folders, settings.extensions⟩
  commands := .builtin settings.strict
  alias? := settings.alias?.map Alias.mk
  maxDepth := settings.maxDepth

end Folio
