import SoapGateway.Settings.Load
import SoapGateway.Startup

/-!
# The command line

`gateway [--config FILE]` checks the settings before a gateway is deployed with them. Without a
file the default settings are checked. The settings in force are printed as JSON; names in the
deny-list that belong to no operation are only reported. Whatever keeps a gateway from starting
ends the command with status one.
-/
namespace SoapGateway.CommandLine

open SoapGateway (Settings)

inductive Fault where
  | unexpected (argument : String)
  | missingFile
  | repeatedFile
  deriving DecidableEq, Repr

def Fault.message : Fault → String
  | unexpected argument => "unexpected argument " ++ Text.quoted argument
  | missingFile => "a value is required for '--config <FILE>' but none was supplied"
  | repeatedFile => "the argument '--config <FILE>' cannot be used multiple times"

/-- What stands after `start` in an argument. -/
def after? (start argument : String) : Option String :=
  if start.toList.isPrefixOf argument.toList then
    some (String.ofList (argument.toList.drop start.length))
  else none

def settingsFile? : List String → Except Fault (Option String)
  | [] => .ok none
  | [argument] =>
    match after? "--config=" argument with
    | some file => .ok (some file)
    | none =>
      if ["-c", "--config"].contains argument then .error .missingFile
      else .error (.unexpected argument)
  | [option, file] =>
    if ["-c", "--config"].contains option then .ok (some file) else .error (.unexpected option)
  | option :: _ =>
    if ["-c", "--config"].contains option then .error .repeatedFile
    else .error (.unexpected option)

structure Report where
  warnings : List String
  settings : String
  deriving DecidableEq, Repr

def report (s : Settings) : Report where
  warnings := s.unknownDenied.map fun name =>
    "unknown operation in the deny-list: " ++ Text.quoted name
  settings := s.json.compact

/-- Checks the settings of a source: a report, or why a gateway would not start. -/
def check (source : Settings.Source) : Except String Report :=
  match Settings.resolve source with
  | .error f => .error ("configuration: " ++ f.message)
  | .ok s =>
    match s.start false with
    | .error f => .error f.message
    | .ok () => .ok (report s)

/-- Reads the settings file that is named, if one is. -/
def readSource : Option String → IO Settings.Source
  | none => pure .defaults
  | some file => do
    match ← (IO.FS.readBinFile file).toBaseIO with
    | .ok contents => pure (.file contents.toList)
    | .error (.noFileOrDirectory ..) => pure .missing
    | .error e => throw e

def run (args : List String) : IO UInt32 := do
  match settingsFile? args with
  | .error f =>
    IO.eprintln ("error: " ++ f.message)
    pure 2
  | .ok file =>
    match check (← readSource file) with
    | .error message =>
      IO.eprintln ("Error: " ++ message)
      pure 1
    | .ok report =>
      for warning in report.warnings do
        IO.eprintln ("Warning: " ++ warning)
      IO.println report.settings
      pure 0

end SoapGateway.CommandLine

def main (args : List String) : IO UInt32 := SoapGateway.CommandLine.run args
