import Rollout.Cli.Deploying
import Rollout.Cli.LogFilter
import Rollout.Environment

/-!
The program as a whole: variables of the working directory's file, the command
line, the command, and the exit code.
-/

namespace Rollout.Cli

variable {m : Type → Type} [Monad m]

def runCommand (host : Host m) (config : Option String) : Command → m (Except CommandError Unit)
  | .deploy options => deploy host config options
  | .serve options => serve host config options
  | .renderPipeline output => renderPipeline host config output
  | .showConfig paths yaml => showConfig host config paths yaml
  | .validateConfig file => validateConfig host (file.or config)
  | .generateConfig output examples => generateConfig host output examples

def version : String := "0.4.0"

def usageText : String := String.join [
  "Usage: opa [--config <FILE>] [--log-level <LEVEL>] [--log-format <FORMAT>] <COMMAND>\n\n",
  "Commands:\n  deploy\n  serve\n  pipeline render\n  config show\n  config validate\n",
  "  config generate\n"]

/-- The host with the variables of a file, which replace none it has. -/
def withVariableFile (host : Host m) : m (Host m) := do
  match ← host.readFile ".env" with
  | .error _ => return host
  | .ok text =>
    let more := EnvironmentFile.read host.environment text
    return { host with environment := host.environment.underlaid more }

def halted (host : Host m) : Halt → m Nat
  | .help => do
    host.print usageText
    return 0
  | .version command => do
    host.printLine ("-".intercalate ("opa" :: command) ++ " " ++ version)
    return 0
  | .usage => do
    host.complain ("error: invalid arguments\n\n" ++ usageText)
    return 2

def failed (host : Host m) (e : CommandError) : m Nat := do
  host.complain e.text
  return 1

/-- The host with its progress lines held back where the filter says so. -/
def quieted (host : Host m) (logLevel : String) : Host m :=
  if LogFilter.showsProgress logLevel then host else { host with report := fun _ => pure () }

def invoke (host : Host m) (invocation : Invocation) : m Nat := do
  if !LogFilter.isValid invocation.logLevel then
    failed host ⟨"Failed to create log filter", ["invalid filter directive"]⟩
  else
    match invocation.command with
    | none =>
      host.complainLine "No command specified. Use --help for usage."
      return 1
    | some command =>
      match ← runCommand (quieted host invocation.logLevel) invocation.config command with
      | .ok () => return 0
      | .error e => failed host e

/-- Runs the words of a command line and returns the exit code. -/
def run (host : Host m) (words : List String) : m Nat := do
  let host ← withVariableFile host
  match Invocation.parse host.environment words with
  | .error halt => halted host halt
  | .ok invocation => invoke host invocation

end Rollout.Cli
