import Rollout.Text.CharClass
import Rollout.Text.Split
import Rollout.Validation

/-!
References to catalog entities, written `[kind:][namespace/]name`.
-/

namespace Rollout

structure EntityRef where
  kind : String
  space : String
  name : String
  deriving DecidableEq, Repr

open Text (splitOnce)

namespace EntityRef

def environmentKind : String := "awsenvironment"

def providerKind : String := "awsenvironmentprovider"

def defaultSpace : String := "default"

/-- Kind and namespace have defaults; the kind is folded to lower case. -/
def parseChars (value : List Char) (kind : List Char) : Option EntityRef :=
  let (kind, rest) := (splitOnce ':' value).getD (kind, value)
  let (space, name) := (splitOnce '/' rest).getD (defaultSpace.toList, rest)
  if kind.isEmpty || space.isEmpty || name.isEmpty || name.contains '/' || name.contains ':' then
    none
  else some ⟨String.ofList (kind.map Char.toLower), String.ofList space, String.ofList name⟩

def parseWith (value : String) (kind : String) : Except ValidationError EntityRef :=
  match parseChars (Text.trim value).toList kind.toList with
  | some ref => .ok ref
  | none => .error (.invalidEntityRef (Text.trim value))

def parse (value : String) : Except ValidationError EntityRef := parseWith value environmentKind

def text (ref : EntityRef) : String := ref.kind ++ ":" ++ ref.space ++ "/" ++ ref.name

end EntityRef

end Rollout
