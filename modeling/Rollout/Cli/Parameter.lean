import Rollout.Json.Reader
import Rollout.Text.CharClass
import Rollout.Text.Split

/-!
Parameters on the command line, written `KEY=VALUE`. A value that is JSON keeps
its type, any other is text.
-/

namespace Rollout.Cli

inductive ParameterFault where
  | noValue (text : String)
  | emptyKey (text : String)
  deriving DecidableEq, Repr

def ParameterFault.message : ParameterFault → String
  | .noValue text => "Invalid parameter '" ++ text ++ "': expected KEY=VALUE"
  | .emptyKey text => "Invalid parameter '" ++ text ++ "': empty key"

def parameterValue (text : String) : Json := (Json.parse text).getD (.string text)

def parseParameter (text : String) : Except ParameterFault (String × Json) :=
  match Text.splitOnce '=' text.toList with
  | none => .error (.noValue text)
  | some (key, value) =>
    let key := Text.trim (String.ofList key)
    if key.isEmpty then .error (.emptyKey text)
    else .ok (key, parameterValue (String.ofList value))

end Rollout.Cli
