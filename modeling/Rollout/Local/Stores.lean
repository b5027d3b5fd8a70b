import Rollout.Audit.Record
import Rollout.Credential.Role
import Rollout.Deployment.Outcome
import Rollout.Entity
import Rollout.Provider

/-!
What the world in memory keeps: the providers of each environment, the parameters
of accounts, the roles of groups, and the ledger.
-/

namespace Rollout.Local

/-- A catalog given as a table, by the name of the environment. Kind and namespace of a
reference are not looked at. -/
structure Environments where
  providers : Dict (List Provider)
  deriving Repr, Inhabited

namespace Environments

def insert (e : Environments) (name : String) (providers : List Provider) : Environments :=
  ⟨e.providers.insert name providers⟩

def find (e : Environments) (environment : EntityRef) : Except CatalogError (List Provider) :=
  match e.providers.get? environment.name with
  | some providers => .ok providers
  | none => .error (.environmentNotFound environment.text)

end Environments

/-- Parameters by account and path. A value put for every account stands in where
the account has none of its own; a path can be made to fail. -/
structure ParameterStore where
  /-- Newest first, by account and path. -/
  values : List ((String × String) × String) := []
  failing : List String := []
  deriving Repr, Inhabited

namespace ParameterStore

/-- The account whose values every account sees. -/
def everyAccount : String := "*"

def put (s : ParameterStore) (account path value : String) : ParameterStore :=
  { s with values := ((account, path), value) :: s.values }

def putShared (s : ParameterStore) (path value : String) : ParameterStore :=
  s.put everyAccount path value

def failPath (s : ParameterStore) (path : String) : ParameterStore :=
  { s with failing := path :: s.failing }

def failure : String := "simulated transport failure"

def get (s : ParameterStore) (account : AccountId) (path : String) :
    Except ParameterError (Option String) :=
  if s.failing.contains path then .error (.transport path failure)
  else
    .ok ((s.values.lookup (account.text, path)).or (s.values.lookup (everyAccount, path)))

end ParameterStore

/-- A table from account and group to a role, under one key for both. Groups can be
made to fail, and every group asked for is kept. -/
structure RoleMapping where
  /-- Newest first, by key. -/
  roles : List (String × String) := []
  failing : List String := []
  /-- Groups asked for so far, oldest first. -/
  asked : List String := []
  deriving Repr, Inhabited

namespace RoleMapping

def put (m : RoleMapping) (account group role : String) : RoleMapping :=
  { m with roles := (mappingKey ⟨account⟩ group, role) :: m.roles }

def find (m : RoleMapping) (account : AccountId) (group : String) :
    Except CredentialError (Option RoleArn) :=
  if m.failing.contains group then .error (.lookupFailed ("lookup of " ++ group ++ " failed"))
  else .ok ((m.roles.lookup (mappingKey account group)).map .mk)

def ask (m : RoleMapping) (account : AccountId) (group : String) :
    Except CredentialError (Option RoleArn) × RoleMapping :=
  (m.find account group, { m with asked := m.asked ++ [group] })

end RoleMapping

/-- An append-only ledger: records in the order they were written, each with its
table. While it is unavailable it refuses every write. -/
structure Ledger where
  rows : List (String × AuditRecord) := []
  unavailable : Bool := false
  deriving Repr, Inhabited

namespace Ledger

def refusal : String := "ledger unavailable"

def append (l : Ledger) (table : String) (record : AuditRecord) :
    Except LedgerError Unit × Ledger :=
  if l.unavailable then (.error ⟨table, refusal⟩, l)
  else (.ok (), { l with rows := l.rows ++ [(table, record)] })

def records (l : Ledger) (table : String) : List AuditRecord :=
  (l.rows.filter (·.1 == table)).map (·.2)

/-- Every record by sequence value. -/
def bySequence (l : Ledger) : List AuditRecord :=
  (l.rows.map (·.2)).mergeSort fun a b => a.sequence ≤ b.sequence

def increasing : List AuditRecord → Bool
  | a :: b :: rest => a.sequence < b.sequence && increasing (b :: rest)
  | _ => true

end Ledger

end Rollout.Local
