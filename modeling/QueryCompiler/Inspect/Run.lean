import QueryCompiler.Compile.Assemble
import QueryCompiler.Folder.MakeDirectory
import QueryCompiler.Inspect.Arguments
import QueryCompiler.Inspect.Environment
import QueryCompiler.Query.Normalize
import QueryCompiler.Relation.RegistryFile

/-!
# Inspecting a query

The command line compiles a query against a registry and shows the descriptor.
`inspect` gives everything that a run shows, from everything that it looks at.
-/

namespace QueryCompiler.Inspect

/-- What a run looks at beside its arguments: the environment, the working directory,
and standard input. -/
structure Surroundings where
  environment : Environment
  folder : Folder
  input : String

/-- What a run leaves: its exit code, its output, its error, and the working
directory. -/
structure Outcome where
  exitCode : Nat
  output : String
  failure : Option String
  folder : Folder
  deriving DecidableEq, Repr

inductive Failure where
  | config (path : String)
  | logDirectory (fault : PathError)
  | registry (path : String)
  | query (path : String)
  | queryText
  | base (path : String)
  | baseText (path : String)
  | compile (error : CompileError)
  deriving DecidableEq

def Failure.message : Failure → String
  | .config path => "loading config " ++ path
  | .logDirectory fault => fault.message
  | .registry path => "loading registry " ++ path
  | .query path => "reading query " ++ path
  | .queryText => "query input is not valid JSON"
  | .base path => "reading base descriptor " ++ path
  | .baseText path => "parsing base descriptor " ++ path
  | .compile error => error.message

def versionText : String := "qspec-inspect 0.1.0\n"

def usageText : String :=
  "Usage: qspec-inspect [OPTIONS] [INPUT]\n"

/-! ## Steps of a run -/

/-- The environment with the variables of the environment file, if they can be
set. -/
def Surroundings.fullEnvironment? (surroundings : Surroundings) : Option Environment :=
  match surroundings.folder.text? ".env" with
  | some text => surroundings.environment.load? text
  | none => some surroundings.environment

def loadSettings (folder : Folder) (environment : Environment) :
    Option String → Except Failure Settings
  | none => .ok (Settings.default.override environment)
  | some path =>
      match (folder.text? path).bind Settings.ofYamlText? with
      | some settings => .ok (settings.override environment)
      | none => .error (.config path)

/-- Whether the settings of logging can be variables, by which logging takes them. -/
def LoggingSettings.canBeVariables (settings : LoggingSettings) : Bool :=
  [settings.level, settings.format, settings.output, settings.directory].all isVariableText

def makeLogDirectory (folder : Folder) (settings : LoggingSettings) :
    Option PathError × Folder :=
  if settings.logOutput = .stderr then (none, folder)
  else folder.makeDirectory settings.directory

def loadRegistry (folder : Folder) : Option String → Except Failure Registry
  | none => .ok (.empty Registry.defaultVersion)
  | some path => (Registry.ofFile folder path).mapError fun _ => .registry path

def readQuery (surroundings : Surroundings) (path : String) : Except Failure QuerySpec := do
  let text ←
    if path = "-" then pure surroundings.input
    else (surroundings.folder.read path).mapError fun _ => .query path
  (QuerySpec.ofText text).mapError fun _ => .queryText

def readBase (folder : Folder) : Option String → Except Failure BaseDescriptor
  | none => .ok .empty
  | some path => do
      let text ← (folder.read path).mapError fun _ => .base path
      (Json.decodeText (BaseDescriptor.decode .text) text).mapError fun _ => .baseText path

/-- The descriptor, with its fingerprint and the diagnostics if they are asked
for. -/
def report (descriptor : Descriptor) (diagnostics : List Diagnostic)
    (showFingerprint showDiagnostics : Bool) : Json :=
  if showFingerprint || showDiagnostics then
    .object ([("descriptor", descriptor.toJson)] ++
      (if showFingerprint then [("fingerprint", .string descriptor.fingerprint)] else []) ++
      (if showDiagnostics then
        [("diagnostics", .object [("entries", Diagnostic.entriesToJson diagnostics)])]
      else []))
  else
    descriptor.toJson

/-- Compile and show, once the settings are known and logging is set up. -/
def compileAndShow (surroundings : Surroundings) (arguments : Arguments) (settings : Settings) :
    Except Failure String := do
  let registry ←
    loadRegistry surroundings.folder (arguments.registry.or settings.registryPath)
  let spec ← readQuery surroundings arguments.input
  let base ← readBase surroundings.folder arguments.base
  let (descriptor, diagnostics) ←
    (assemble ⟨registry.catalog, Filter.translate⟩ spec base arguments.single).mapError .compile
  let result := report descriptor diagnostics
    (arguments.fingerprint || settings.output.fingerprint)
    (arguments.diagnostics || settings.output.diagnostics)
  let text := if settings.output.pretty && !arguments.compact then result.pretty
    else result.compact
  return text ++ "\n"

/-! ## Runs -/

def firstLine (text : String) : String :=
  String.ofList (text.toList.takeWhile (· != '\n'))

def Outcome.failed (failure : Failure) (folder : Folder) : Outcome :=
  ⟨1, "", some (firstLine failure.message), folder⟩

/-- The outcome of a run that had to set a variable to a text that cannot be one. -/
def Outcome.aborted (folder : Folder) : Outcome :=
  ⟨101, "", none, folder⟩

def runWithSettings (surroundings : Surroundings) (arguments : Arguments)
    (settings : Settings) : Outcome :=
  if !settings.logging.canBeVariables then
    .aborted surroundings.folder
  else
    match makeLogDirectory surroundings.folder settings.logging with
    | (some fault, folder) => .failed (.logDirectory fault) folder
    | (none, folder) =>
        match compileAndShow { surroundings with folder } arguments settings with
        | .error failure => .failed failure folder
        | .ok output => ⟨0, output, none, folder⟩

def runWith (surroundings : Surroundings) (environment : Environment) (arguments : Arguments) :
    Outcome :=
  match loadSettings surroundings.folder environment arguments.config with
  | .error failure => .failed failure surroundings.folder
  | .ok settings => runWithSettings surroundings arguments settings

end QueryCompiler.Inspect

namespace QueryCompiler

def inspect (arguments : List String) (surroundings : Inspect.Surroundings) : Inspect.Outcome :=
  match surroundings.fullEnvironment? with
  | none => .aborted surroundings.folder
  | some environment =>
      match Inspect.Invocation.ofArguments arguments (environment.lookup "QSPEC_CONFIG") with
      | .run arguments => Inspect.runWith surroundings environment arguments
      | .version => ⟨0, Inspect.versionText, none, surroundings.folder⟩
      | .help => ⟨0, Inspect.usageText, none, surroundings.folder⟩
      | .misuse => ⟨2, "", none, surroundings.folder⟩

end QueryCompiler
