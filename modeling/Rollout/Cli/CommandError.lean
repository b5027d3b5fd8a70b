import Rollout.Text.Split

/-!
How a command fails: a message, and the causes behind it, outermost first.
-/

namespace Rollout.Cli

structure CommandError where
  message : String
  causes : List String := []
  deriving DecidableEq, Repr

namespace CommandError

/-- All lines but the first are indented. -/
def indented (first rest : String) (text : String) : String :=
  first ++ ("\n" ++ rest).intercalate ((Text.splitAll '\n' text.toList).map String.ofList)

/-- One cause of several, with its number right-aligned. -/
def numbered : Nat → List String → List String
  | _, [] => []
  | n, cause :: rest =>
    let digits := toString n
    indented (String.ofList (List.replicate (5 - digits.length) ' ') ++ digits ++ ": ") "       "
      cause :: numbered (n + 1) rest

def causeLines : List String → List String
  | [] => []
  | [cause] => [indented "    " "    " cause]
  | causes => numbered 0 causes

def text (e : CommandError) : String :=
  "Error: " ++ e.message
    ++ (if e.causes.isEmpty then ""
      else "\n\nCaused by:\n" ++ "\n".intercalate (causeLines e.causes))
    ++ "\n"

end CommandError

end Rollout.Cli
