import Folio.Body.Tag
import Folio.Expr.Basic
import Folio.Files.Disk
import Folio.Json.Writer
import Folio.Page.Operation

namespace Folio

inductive BodyFault where
  | strayClosing (keyword : String)
  | openTag
  | openBlock (block : BlockKind)
  | eachArgs (args : String)
  | notList (key : String)
  | sectionName (value : Value)
  | expression (error : ExprError)
  deriving Repr

def BodyFault.message : BodyFault → String
  | .strayClosing keyword =>
    "Unexpected \x7b\x7b/" ++ keyword ++ "\x7d\x7d without matching \x7b\x7b" ++ keyword
      ++ "\x7d\x7d"
  | .openTag => "Unclosed tag"
  | .openBlock block => "Unclosed " ++ block.keyword ++ " block"
  | .eachArgs args => "Invalid each syntax: '" ++ args ++ "'"
  | .notList key => "'" ++ key ++ "' is not a list"
  | .sectionName value => "Section name must be a string, got " ++ Json.compact value
  | .expression error => error.message

inductive BodyError where
  | undefined (name : String) (line : Nat)
  | malformed (fault : BodyFault) (line : Nat)
  | listInOutput (source : String)
  | objectInOutput (source : String)
  deriving Repr

def BodyError.message : BodyError → String
  | .undefined name line => "line " ++ toString line ++ ": '" ++ name ++ "' is not defined"
  | .malformed fault line => "line " ++ toString line ++ ": " ++ fault.message
  | .listInOutput source =>
    "'" ++ source ++ "' is a list; iterate it with \x7b\x7beach " ++ source ++ " |item|\x7d\x7d"
  | .objectInOutput source => "'" ++ source ++ "' is an object; output one of its fields instead"

/-- What is wrong with the arguments of an operation. Positions start from zero. -/
inductive CallFault where
  | missing (position : Nat)
  | notText (position : Nat) (value : Value)
  | notObject (position : Nat) (value : Value)
  | notStages (position : Nat) (value : Value)
  deriving Repr

/-- The text of a fault in a call; arguments are counted from one. -/
def CallFault.message : CallFault → String
  | .missing position => "argument " ++ toString (position + 1) ++ " is required"
  | .notText position value =>
    "argument " ++ toString (position + 1) ++ " must be a string, got " ++ Json.compact value
  | .notObject position value =>
    "argument " ++ toString (position + 1) ++ " must be an object, got " ++ Json.compact value
  | .notStages position value =>
    "argument " ++ toString (position + 1) ++ " must be an array of argument lists, got "
      ++ Json.compact value

inductive SettingsError where
  | unreadable (path : Path) (error : FileError)
  | badText
  | zeroDepth
  | emptyExtension
  | emptyAlias
  deriving DecidableEq, Repr

def SettingsError.message : SettingsError → String
  | .unreadable path error => "failed to read " ++ path ++ ": " ++ error.message
  | .badText => "TOML parse error"
  | .zeroDepth => "engine.max_depth must be at least 1"
  | .emptyExtension => "engine.extensions must not contain empty entries"
  | .emptyAlias => "engine.alias must not be empty"

inductive Error where
  | layoutNotFound (name : String)
  | templateNotFound (name : String)
  | tooDeep (path : Path) (limit : Nat)
  | helperNotFound (name : String)
  | filterNotFound (name : String)
  | helperFailed (name reason : String)
  | invalidCall (operation : Operation) (fault : CallFault)
  | body (path : Path) (error : BodyError)
  | settings (error : SettingsError)
  | file (error : FileError)
  deriving Repr

/-- The text of an error, with its code in front. -/
def Error.message : Error → String
  | .layoutNotFound name =>
    "INVALID_ARGUMENT: layout '" ++ name ++ "' does not resolve to a template file"
  | .templateNotFound name => "TEMPLATE_NOT_FOUND: template '" ++ name ++ "' not found"
  | .tooDeep path limit =>
    "RECURSION_LIMIT: render nesting exceeded " ++ toString limit ++ " levels at '" ++ path ++ "'"
  | .helperNotFound name => "HELPER_NOT_FOUND: helper '" ++ name ++ "' is not registered"
  | .filterNotFound name => "FILTER_NOT_FOUND: filter '" ++ name ++ "' is not registered"
  | .helperFailed name reason => "HELPER_FAILED: " ++ name ++ ": " ++ reason
  | .invalidCall operation fault => "INVALID_CALL: " ++ operation.name ++ ": " ++ fault.message
  | .body path error => "TEMPLATE_ERROR: " ++ path ++ ": " ++ error.message
  | .settings error => "CONFIG_PARSE_ERROR: " ++ error.message
  | .file error => "IO_ERROR: " ++ error.message

end Folio
