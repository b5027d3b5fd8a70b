import Rollout.Cli.Arguments
import Rollout.Config.Discovery

/-!
The commands and their flags.
-/

namespace Rollout.Cli

inductive OutputFormat where
  | text
  | json
  deriving DecidableEq, Repr

structure DeployOptions where
  environment : Option String
  repositories : List String
  parameters : List String
  actionType : String
  user : String
  groups : List String
  owner : Option String
  /-- A file that holds the whole request. -/
  requestFile : Option String
  isLocal : Bool
  localOutputs : Option String
  format : OutputFormat
  deriving DecidableEq, Repr

structure ServeOptions where
  host : Option String
  port : Option Nat
  isLocal : Bool
  localOutputs : Option String
  deriving DecidableEq, Repr

inductive Command where
  | deploy (options : DeployOptions)
  | serve (options : ServeOptions)
  | renderPipeline (output : Option String)
  | showConfig (paths yaml : Bool)
  | validateConfig (file : Option String)
  | generateConfig (output : String) (examples : Bool)
  deriving DecidableEq, Repr

def localFlags : List Flag := [
  { name := "local", takesValue := false },
  { name := "local-outputs", accepts := isPath }]

def deployFlags : List Flag := [
  { name := "environment", letter := some 'e' },
  { name := "repository", letter := some 'r', repeats := true },
  { name := "param", letter := some 'p', repeats := true },
  { name := "action-type" },
  { name := "user", fallback := some "USER" },
  { name := "group", repeats := true },
  { name := "owner" },
  { name := "request", accepts := isPath },
  { name := "output", accepts := isOneOf ["text", "json"] }] ++ localFlags

/-- A port in decimal digits, with a sign in front at most. -/
def port? (s : String) : Option Nat :=
  match s.toList with
  | '-' :: digits =>
    (decimalUpTo? 0 (String.ofList digits)).filter fun _ => digits.head? ≠ some '+'
  | _ => decimalUpTo? 65535 s

def serveFlags : List Flag := [
  { name := "host", fallback := some "OPA_HOST" },
  { name := "port", fallback := some "OPA_PORT", accepts := fun s => (port? s).isSome }]
  ++ localFlags

/-- Canned outputs make sense on the local engine alone. -/
def localFits (g : Given) : Bool := !g.has "local-outputs" || g.has "local"

/-- The request comes from flags or from a file, not from both. -/
def requestFits (g : Given) : Bool :=
  if g.has "request" then !(["environment", "repository", "param"].any g.has)
  else g.has "environment"

def deployOf (g : Given) : Except Halt Command :=
  if localFits g && requestFits g then
    .ok (.deploy {
      environment := g.value? "environment"
      repositories := g.values "repository"
      parameters := g.values "param"
      actionType := (g.value? "action-type").getD "Deploy Boilerplate"
      user := (g.value? "user").getD "opa-cli"
      groups := g.values "group"
      owner := g.value? "owner"
      requestFile := g.value? "request"
      isLocal := g.has "local"
      localOutputs := g.value? "local-outputs"
      format := if g.value? "output" = some "json" then .json else .text })
  else .error .usage

def serveOf (g : Given) : Except Halt Command :=
  if localFits g then
    .ok (.serve {
      host := g.value? "host"
      port := (g.value? "port").bind port?
      isLocal := g.has "local"
      localOutputs := g.value? "local-outputs" })
  else .error .usage

/-- A command that is run as it is. -/
structure Leaf where
  flags : List Flag
  /-- The operands it takes at most. -/
  operands : Nat
  build : Given → Except Halt Command

def outputFlag : Flag := { name := "output", letter := some 'o', accepts := isPath }

def showLeaf : Leaf where
  flags := [{ name := "paths", takesValue := false }, { name := "yaml", takesValue := false }]
  operands := 0
  build g := .ok (.showConfig (g.has "paths") (g.has "yaml"))

def validateLeaf : Leaf where
  flags := []
  operands := 1
  build g := if g.operands.all isPath then .ok (.validateConfig g.operands.head?) else .error .usage

def generateLeaf : Leaf where
  flags := [outputFlag, { name := "examples", takesValue := false }]
  operands := 0
  build g :=
    .ok (.generateConfig ((g.value? "output").getD "./opa-config.yaml") (g.has "examples"))

def renderLeaf : Leaf where
  flags := [outputFlag]
  operands := 0
  build g := .ok (.renderPipeline (g.value? "output"))

/-- A command is run as it is, or names one of its parts. -/
inductive Entry where
  | leaf (leaf : Leaf)
  | group (parts : List (String × Leaf))

def entries : List (String × Entry) := [
  ("deploy", .leaf ⟨deployFlags, 0, deployOf⟩),
  ("serve", .leaf ⟨serveFlags, 0, serveOf⟩),
  ("pipeline", .group [("render", renderLeaf)]),
  ("config", .group [("show", showLeaf), ("validate", validateLeaf), ("generate", generateLeaf)])]

/-- What is given to a command itself, and outside it to all commands alike. -/
structure Parsed where
  command : Command
  shared : Given

def readLeaf (environment : Environment) (shared : List Flag) (outer : Given) (leaf : Leaf)
    (words : List String) : Except Halt Parsed := do
  let given ← readAll (leaf.flags ++ shared) leaf.operands {} none words
  let given ← given.withVariables environment leaf.flags
  return ⟨← leaf.build given, ⟨outer.flags ++ given.flags, []⟩⟩

/-- Looks the first word up and goes on with the others; `help` is known everywhere. -/
def choose {α β : Type} (choices : List (String × α)) (read : α → List String → Except Halt β) :
    List String → Except Halt β
  | [] => .error .usage
  | word :: rest =>
    match choices.lookup word with
    | some found => (read found rest).mapError (Halt.within word)
    | none => .error (if word = "help" then .help else .usage)

def readPart (environment : Environment) (shared : List Flag) (outer : Given) :
    Entry → List String → Except Halt Parsed
  | .leaf leaf, words => readLeaf environment shared outer leaf words
  | .group parts, words => do
    let (given, words) ← readFlags shared {} none words
    choose parts (readLeaf environment shared ⟨outer.flags ++ given.flags, []⟩) words

def readEntry (environment : Environment) (shared : List Flag) (outer : Given) :
    List String → Except Halt Parsed :=
  choose entries (readPart environment shared outer)

/-- The command that the words give, without the flags shared by all. -/
def Command.parse (environment : Environment) (words : List String) : Except Halt Command :=
  return (← readEntry environment [] {} words).command

/-- Flags that may stand before, between and after the names of commands. -/
def sharedFlags : List Flag := [
  { name := "config", letter := some 'c', fallback := some Config.pathVariable,
    accepts := isPath },
  { name := "log-level", fallback := some "OPA_LOG_LEVEL" },
  { name := "log-format", fallback := some "OPA_LOG_FORMAT",
    accepts := isOneOf ["compact", "json"] },
  helpFlag, versionFlag]

structure Invocation where
  /-- `none` where no command is named. -/
  command : Option Command
  config : Option String
  logLevel : String
  deriving Repr

def invocationOf (environment : Environment) (command : Option Command) (shared : Given) :
    Except Halt Invocation := do
  let shared ← shared.withVariables environment sharedFlags
  return ⟨command, shared.value? "config", (shared.value? "log-level").getD "info"⟩

def Invocation.parse (environment : Environment) (words : List String) :
    Except Halt Invocation := do
  let (outer, words) ← readFlags sharedFlags {} none words
  match words with
  | [] => invocationOf environment none outer
  | words =>
    let parsed ← readEntry environment sharedFlags outer words
    invocationOf environment (some parsed.command) parsed.shared

end Rollout.Cli
