import Rollout.Cli.Deploying
import Rollout.Proofs.BuildVariables
import Rollout.Proofs.ScalarReading
import Rollout.Text.Split

/-!
What is typed behind the name of a parameter, and what the pipeline is given. A text that is
no JSON is handed on as it is. One that is goes through the value it says, and comes back in
the notation of the printer.
-/

namespace Rollout

section Reading

variable {ε α β : Type} {read : α → Except ε β} {items before after : List α} {item : α}
  {found : List β} {entry : β}

end Reading

namespace Cli

open Doc (Blank)

section Request

variable {o : DeployOptions} {request : DeploymentRequest} {before after : List String}
  {override key text : String}

end Request

namespace Sample

def options (parameters : List String) : DeployOptions :=
  ⟨some "dev", ["svc-a"], parameters, "Deploy Boilerplate", "jdoe", [], none, none, false, none,
    .text⟩

/-- A number with blanks around it, over one of the same name, and a text that is no JSON. -/
def overrides : List String := ["REPLICAS=2", "REPLICAS = 3 ", "NAME=web"]

end Sample

end Cli

end Rollout
