import QueryCompiler.Inspect.Run

/-!
# The command line

The outer layer of the program: it collects what a run looks at, runs it, and
carries out what it leaves.
-/

open QueryCompiler QueryCompiler.Inspect

/-- The variables that a run looks at. -/
def environmentNames : List String :=
  ["QSPEC_CONFIG", "QSPEC_REGISTRY", "RUST_LOG", "LOG_FORMAT", "LOG_OUTPUT", "LOG_DIR"]

/-- A folder with the files at further paths; those that cannot be read are left
out. -/
def readFiles (folder : Folder) (paths : List String) : IO Folder := do
  let mut folder := folder
  for path in paths do
    try
      folder := folder.write path (← IO.FS.readFile path)
    catch _ =>
      pure ()
  return folder

def readEnvironment : IO Environment := do
  let mut environment := []
  for name in environmentNames do
    if let some value ← IO.getEnv name then
      environment := (name, value) :: environment
  return environment

def pathsOf (arguments : Arguments) : List String :=
  [some arguments.input, arguments.config, arguments.registry, arguments.base].reduceOption

def collect (arguments : List String) : IO Surroundings := do
  let folder ← readFiles .empty [".env"]
  let initial : Surroundings := ⟨← readEnvironment, folder, ""⟩
  let some environment := initial.fullEnvironment? | return initial
  match Invocation.ofArguments arguments (environment.lookup "QSPEC_CONFIG") with
  | .run arguments =>
      let named ← readFiles folder (pathsOf arguments)
      let full ←
        match loadSettings named environment arguments.config with
        | .ok settings => readFiles named settings.registryPath.toList
        | .error _ => pure named
      let input ← if arguments.input = "-" then (← IO.getStdin).readToEnd else pure ""
      return { initial with folder := full, input := input }
  | _ => return initial

def main (arguments : List String) : IO UInt32 := do
  let outcome := inspect arguments (← collect arguments)
  for location in outcome.folder.directories do
    IO.FS.createDirAll ("/".intercalate location)
  IO.print outcome.output
  if let some failure := outcome.failure then
    IO.eprintln ("Error: " ++ failure)
  return outcome.exitCode.toUInt32
