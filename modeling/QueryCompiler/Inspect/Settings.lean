import QueryCompiler.Json.Basic
import QueryCompiler.Yaml.Decode

/-!
# Settings of the command line

Settings come from a YAML file, in which every field may be missing, and from the
environment, which overrides the file.
-/

namespace QueryCompiler.Inspect

/-- The variables of an environment.  Of a variable that is given twice, the first
one counts. -/
abbrev Environment := List (String × String)

structure OutputSettings where
  pretty : Bool
  fingerprint : Bool
  diagnostics : Bool
  deriving DecidableEq, Repr

structure LoggingSettings where
  level : String
  format : String
  output : String
  directory : String
  deriving DecidableEq, Repr

structure Settings where
  registryPath : Option String
  output : OutputSettings
  logging : LoggingSettings
  deriving DecidableEq, Repr

inductive LogFormat where
  | pretty
  | json
  | compact
  deriving DecidableEq, Repr

inductive LogOutput where
  | stderr
  | file
  | both
  deriving DecidableEq, Repr

namespace LoggingSettings

/-- The form that is asked for; any other name asks for the compact one. -/
def logFormat (settings : LoggingSettings) : LogFormat :=
  match settings.format with
  | "json" => .json
  | "pretty" => .pretty
  | _ => .compact

/-- The place that is asked for; any other name asks for standard error. -/
def logOutput (settings : LoggingSettings) : LogOutput :=
  match settings.output with
  | "file" => .file
  | "both" => .both
  | _ => .stderr

def default : LoggingSettings where
  level := "warn"
  format := "compact"
  output := "stderr"
  directory := "./logs"

def setField : Yaml.Decode.FieldSetter LoggingSettings := fun key settings =>
  match key with
  | "level" => some fun node => do
      return { settings with level := ← Yaml.Decode.string node }
  | "format" => some fun node => do
      return { settings with format := ← Yaml.Decode.string node }
  | "output" => some fun node => do
      return { settings with output := ← Yaml.Decode.string node }
  | "directory" => some fun node => do
      return { settings with directory := ← Yaml.Decode.string node }
  | _ => none

end LoggingSettings

namespace OutputSettings

def default : OutputSettings where
  pretty := true
  fingerprint := false
  diagnostics := false

def setField : Yaml.Decode.FieldSetter OutputSettings := fun key settings =>
  match key with
  | "pretty" => some fun node => do
      return { settings with pretty := ← Yaml.Decode.bool node }
  | "fingerprint" => some fun node => do
      return { settings with fingerprint := ← Yaml.Decode.bool node }
  | "diagnostics" => some fun node => do
      return { settings with diagnostics := ← Yaml.Decode.bool node }
  | _ => none

end OutputSettings

namespace Settings

def default : Settings where
  registryPath := none
  output := .default
  logging := .default

def setPath : Yaml.Decode.FieldSetter (Option String) := fun key _ =>
  match key with
  | "path" => some (Yaml.Decode.option Yaml.Decode.string)
  | _ => none

def setField : Yaml.Decode.FieldSetter Settings := fun key settings =>
  match key with
  | "registry" => some fun node => do
      return { settings with registryPath := ← Yaml.Decode.record setPath none node }
  | "output" => some fun node => do
      return { settings with
        output := ← Yaml.Decode.record OutputSettings.setField .default node }
  | "logging" => some fun node => do
      return { settings with
        logging := ← Yaml.Decode.record LoggingSettings.setField .default node }
  | _ => none

def ofYamlText? (text : String) : Option Settings := do
  (← Yaml.Document.ofText? text).decode? (Yaml.Decode.record setField default)

def override (settings : Settings) (environment : Environment) : Settings where
  registryPath := (environment.lookup "QSPEC_REGISTRY").or settings.registryPath
  output := settings.output
  logging := {
    level := (environment.lookup "RUST_LOG").getD settings.logging.level
    format := (environment.lookup "LOG_FORMAT").getD settings.logging.format
    output := (environment.lookup "LOG_OUTPUT").getD settings.logging.output
    directory := (environment.lookup "LOG_DIR").getD settings.logging.directory }

def toJson (settings : Settings) : Json :=
  .object [
    ("registry", .object [("path", (settings.registryPath.map Json.string).getD .null)]),
    ("output", .object [
      ("pretty", .bool settings.output.pretty),
      ("fingerprint", .bool settings.output.fingerprint),
      ("diagnostics", .bool settings.output.diagnostics)]),
    ("logging", .object [
      ("level", .string settings.logging.level),
      ("format", .string settings.logging.format),
      ("output", .string settings.logging.output),
      ("directory", .string settings.logging.directory)])]

end Settings

end QueryCompiler.Inspect
