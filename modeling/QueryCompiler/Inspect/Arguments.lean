/-!
# Arguments of the command line

At most one argument is the query; the others are options, some of which take a
value.  No option may be given twice.
-/

namespace QueryCompiler.Inspect

structure Arguments where
  input : String
  config : Option String
  registry : Option String
  base : Option String
  single : Bool
  fingerprint : Bool
  diagnostics : Bool
  compact : Bool
  deriving DecidableEq, Repr

inductive Invocation where
  | run (arguments : Arguments)
  | version
  | help
  | misuse
  deriving DecidableEq, Repr

namespace Arguments

inductive ValueOption where
  | config
  | registry
  | base
  deriving DecidableEq, Repr

inductive Flag where
  | single
  | fingerprint
  | diagnostics
  | compact
  deriving DecidableEq, Repr

/-- What was met so far.  `waiting` is an option whose value comes next. -/
structure Partial where
  input : Option String
  config : Option String
  registry : Option String
  base : Option String
  flags : List Flag
  waiting : Option ValueOption
  plainOnly : Bool

def Partial.empty : Partial :=
  ⟨none, none, none, none, [], none, false⟩

/-- Keep a value that may come once only. -/
def once (before : Option String) (value : String) : Option (Option String) :=
  if before.isSome then none else some (some value)

namespace Partial

def setInput? (partly : Partial) (value : String) : Option Partial := do
  return { partly with input := ← once partly.input value }

/-- Give the value of an option, which may not be empty. -/
def setValue? (partly : Partial) (option : ValueOption) (value : String) : Option Partial :=
  let partly := { partly with waiting := none }
  if value.isEmpty then none
  else
    match option with
    | .config => do return { partly with config := ← once partly.config value }
    | .registry => do return { partly with registry := ← once partly.registry value }
    | .base => do return { partly with base := ← once partly.base value }

def setFlag? (partly : Partial) (flag : Flag) : Option Partial :=
  if partly.flags.contains flag then none
  else some { partly with flags := flag :: partly.flags }

def finish (partly : Partial) : Arguments where
  input := partly.input.getD "-"
  config := partly.config
  registry := partly.registry
  base := partly.base
  single := partly.flags.contains .single
  fingerprint := partly.flags.contains .fingerprint
  diagnostics := partly.flags.contains .diagnostics
  compact := partly.flags.contains .compact

end Partial

/-- What one argument leads to: further arguments are read, or the matter is
settled. -/
abbrev Reading := Except Invocation Partial

/-- A step that counts as misuse if it fails. -/
def orMisuse : Option Partial → Reading
  | some partly => .ok partly
  | none => .error .misuse

def valueOptions : List (String × ValueOption) :=
  [("config", .config), ("registry", .registry), ("base", .base)]

def flags : List (String × Flag) :=
  [("single", .single), ("fingerprint", .fingerprint), ("diagnostics", .diagnostics),
    ("compact", .compact)]

def valueLetters : List (Char × ValueOption) :=
  [('c', .config), ('r', .registry), ('b', .base)]

/-- Read a long option from behind its two hyphens. -/
def readLong (partly : Partial) (text : List Char) : Reading :=
  let (characters, rest) := text.span (· != '=')
  let name := String.ofList characters
  match valueOptions.lookup name, rest with
  | some option, [] => .ok { partly with waiting := some option }
  | some option, _ :: value => orMisuse (partly.setValue? option (String.ofList value))
  | none, _ :: _ => .error .misuse
  | none, [] =>
      match flags.lookup name with
      | some flag => orMisuse (partly.setFlag? flag)
      | none =>
          if name = "help" then .error .help
          else if name = "version" then .error .version
          else .error .misuse

def readShort (partly : Partial) : List Char → Reading
  | 'h' :: _ => .error .help
  | 'V' :: _ => .error .version
  | letter :: rest =>
      match valueLetters.lookup letter, rest with
      | some option, [] => .ok { partly with waiting := some option }
      | some option, '=' :: value =>
          orMisuse (partly.setValue? option (String.ofList value))
      | some option, value => orMisuse (partly.setValue? option (String.ofList value))
      | none, _ => .error .misuse
  | [] => .error .misuse

def readOne (partly : Partial) (argument : String) : Reading :=
  match partly.waiting, partly.plainOnly, argument.toList with
  | some option, _, ['-'] => orMisuse (partly.setValue? option "-")
  | some _, _, '-' :: _ => .error .misuse
  | some option, _, _ => orMisuse (partly.setValue? option argument)
  | none, false, ['-', '-'] => .ok { partly with plainOnly := true }
  | none, false, '-' :: '-' :: text => readLong partly text
  | none, false, '-' :: letter :: text => readShort partly (letter :: text)
  | none, _, _ => orMisuse (partly.setInput? argument)

def readAll (partly : Partial) : List String → Reading
  | [] => if partly.waiting.isSome then .error .misuse else .ok partly
  | argument :: arguments => do readAll (← readOne partly argument) arguments

end Arguments

/-- What the arguments ask for.  A configuration file that is not named in them may
be named by the environment. -/
def Invocation.ofArguments (arguments : List String) (environmentConfig : Option String) :
    Invocation :=
  match Arguments.readAll .empty arguments with
  | .error invocation => invocation
  | .ok partly =>
      match partly.config, environmentConfig with
      | none, some path =>
          match partly.setValue? .config path with
          | some partly => .run partly.finish
          | none => .misuse
      | _, _ => .run partly.finish

end QueryCompiler.Inspect
