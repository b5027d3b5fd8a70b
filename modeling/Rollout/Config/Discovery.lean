import Rollout.Config.Overrides
import Rollout.Config.Reader
import Rollout.Host
import Rollout.Text.Quoted

/-!
Where the manifest comes from: a path given explicitly, or else the first of the
known places that exists, or else the defaults. Variables override what was read.
-/

namespace Rollout.Config

def pathVariable : String := "OPA_CONFIG_PATH"

def homePath (home : String) : String :=
  home ++ (if home.toList.getLast? = some '/' then "" else "/") ++ ".opa/config.yaml"

def userPath? (environment : Environment) : Option String :=
  match environment "HOME" with
  | none | some "" => none
  | some home => some (homePath home)

/-- The places a manifest is looked for, the first one first. -/
def candidates (environment : Environment) : List String :=
  (environment pathVariable).toList ++ ["./opa-config.yaml"] ++ (userPath? environment).toList
    ++ ["/etc/opa/config.yaml"]

/-- A manifest that is there but cannot be used. -/
structure LoadError where
  /-- The path, if it was given explicitly. -/
  explicit : Option String
  reason : String
  deriving DecidableEq, Repr

def LoadError.message (e : LoadError) : String :=
  match e.explicit with
  | some path => "Failed to load config at " ++ Text.quotedPath path ++ ": " ++ e.reason
  | none => e.reason

variable {m : Type → Type} [Monad m]

def firstExisting (host : Host m) : List String → m (Option String)
  | [] => return none
  | path :: rest => do
    if ← host.exists? path then return some path else firstExisting host rest

def discover (host : Host m) : m (Option String) :=
  firstExisting host (candidates host.environment)

def readManifest (host : Host m) (path : String) : m (Except String Manifest) := do
  match ← host.readFile path with
  | .error reason => return .error reason
  | .ok text =>
    match Manifest.ofYaml? text with
    | some manifest => return .ok manifest
    | none => return .error "not a configuration manifest"

def loadFrom (host : Host m) (path : String) (explicit : Option String) :
    m (Except LoadError Manifest) := do
  match ← readManifest host path with
  | .error reason => return .error ⟨explicit, reason⟩
  | .ok manifest => return .ok (manifest.withOverrides host.environment)

def load (host : Host m) (explicit : Option String) : m (Except LoadError Manifest) := do
  match explicit with
  | some path => loadFrom host path explicit
  | none =>
    match ← discover host with
    | some path => loadFrom host path none
    | none => return .ok (Manifest.default.withOverrides host.environment)

end Rollout.Config
