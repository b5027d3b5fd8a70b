import Rollout.Json.Basic
import Rollout.Pipeline.Input

/-!
A runner with canned outputs: packages and deploys nothing, but answers as if
it had, except for the repositories that are to fail.
-/

namespace Rollout.Local

structure Runner where
  /-- What each repository exports. -/
  outputs : Dict (Dict Json) := ∅
  failingPackages : List String := []
  failingDeploys : List String := []
  /-- Repositories deployed so far, each with the variables of its build. -/
  deployed : List (String × List BuildVariable) := []
  deriving Repr, Inhabited

namespace Runner

def failPackage (r : Runner) (repository : String) : Runner :=
  { r with failingPackages := repository :: r.failingPackages }

def failDeploy (r : Runner) (repository : String) : Runner :=
  { r with failingDeploys := repository :: r.failingDeploys }

def package (r : Runner) (repository : String) : Except String Unit :=
  if r.failingPackages.contains repository then
    .error ("packaging of " ++ repository ++ " failed")
  else .ok ()

def deploy (r : Runner) (repository : String) (build : List BuildVariable) :
    Except String (Dict Json) × Runner :=
  if r.failingDeploys.contains repository then
    (.error ("deployment of " ++ repository ++ " failed"), r)
  else
    (.ok ((r.outputs.get? repository).getD ∅),
      { r with deployed := r.deployed ++ [(repository, build)] })

end Runner

end Rollout.Local
