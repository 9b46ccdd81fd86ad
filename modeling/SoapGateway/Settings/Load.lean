import SoapGateway.Settings.OfToml
import SoapGateway.Settings.Rule
import SoapGateway.Toml.Document

/-!
# Loading settings

Settings come from a TOML document in a file, or are the default ones where no file is named. A
document that is read must fulfil all rules; the default settings are taken as they are.
-/
namespace SoapGateway.Settings

inductive Fault where
  | noFile
  /-- The file is not in UTF-8. -/
  | notText
  /-- The text is no TOML document. -/
  | malformed
  | shape (fault : Toml.ShapeFault)
  | invalid (violations : List Violation)

def separated (separator : String) : List String → String
  | [] => ""
  | [s] => s
  | s :: rest => s ++ separator ++ separated separator rest

def Fault.message : Fault → String
  | noFile => "IO error: No such file or directory (os error 2)"
  | notText => "IO error: stream did not contain valid UTF-8"
  | malformed => "Parse error"
  | shape fault => "Parse error: " ++ fault.message
  | invalid violations =>
    "Validation failed: " ++ separated ", " (violations.map Violation.message)

def validated (s : Settings) : Except Fault Settings :=
  match s.violations with
  | [] => .ok s
  | violations => .error (.invalid violations)

def parse (text : String) : Except Fault Settings :=
  match Toml.document? text with
  | none => .error .malformed
  | some members =>
    match ofToml members with
    | .error f => .error (.shape f)
    | .ok s => s.validated

def ofFile (contents : List UInt8) : Except Fault Settings :=
  match Utf8.decode? contents with
  | none => .error .notText
  | some text => parse text

inductive Source where
  /-- No file is named. -/
  | defaults
  /-- A file that does not exist. -/
  | missing
  | file (contents : List UInt8)
  deriving DecidableEq, Repr

def resolve : Source → Except Fault Settings
  | .defaults => .ok {}
  | .missing => .error .noFile
  | .file contents => ofFile contents

end SoapGateway.Settings
