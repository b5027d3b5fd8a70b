import Rollout.Audit.Item
import Rollout.Cloud.Api
import Rollout.Credential.Grant
import Rollout.Deployment.Outcome

/-!
What the cloud keeps: the parameters of the target account, read decrypted, and
tables, which are the target account's ledger, one item per audit record, and the
platform's roles by account and group.
-/

namespace Rollout.Cloud.ParameterStore

def getRequest (grant : Grant) (path : String) : Request :=
  { target := some "AmazonSSM.GetParameter"
    body := .object [("Name", .string path), ("WithDecryption", .bool true)]
    region := some grant.region }

def readValue (reply : Reply) : Except Fault (Option String) := do
  match ← recordMember "Parameter" (← reply.body) with
  | none => return none
  | some parameter => textMember "Value" parameter

/-- A parameter the store does not know has no value. -/
def read (path : String) (reply : Reply) : Except ParameterError (Option String) :=
  match readValue reply with
  | .ok value => .ok value
  | .error (.refused "ParameterNotFound") => .ok none
  | .error fault => .error (.transport path fault.message)

end Rollout.Cloud.ParameterStore

namespace Rollout.Cloud.Table

def request (operation : String) (region : Option Region) (fields : List (String × Json)) :
    Request :=
  ⟨some ("DynamoDB_20120810." ++ operation), .object fields, region⟩

def appendRequest (grant : Grant) (table : String) (record : AuditRecord) : Request :=
  request "PutItem" (some grant.region) [
    ("Item", .object (record.item.map Attribute.toJson).entries),
    ("TableName", .string table)]

def readAppended (table : String) (reply : Reply) : Except LedgerError Unit :=
  match reply.body with
  | .ok _ => .ok ()
  | .error fault => .error ⟨table, fault.message⟩

def roleAttribute : String := "IAMRoleArn"

def roleRequest (table : String) (account : AccountId) (group : String) : Request :=
  request "Query" none [
    ("ExpressionAttributeNames", .object [("#id", .string "id")]),
    ("ExpressionAttributeValues",
      .object [(":id", (Attribute.text (mappingKey account group)).toJson)]),
    ("KeyConditionExpression", .string "#id = :id"),
    ("TableName", .string table)]

/-- The role of the first item that has one, if it is a text. -/
def roleOf (doc : Json) : Except Fault (Option RoleArn) := do
  let items ← (← listMember "Items" doc).mapM (recordMember roleAttribute)
  match items.filterMap id with
  | [] => return none
  | value :: _ => return (← textMember "S" value).map RoleArn.mk

def readRole (reply : Reply) : Except CredentialError (Option RoleArn) :=
  (reply.body >>= roleOf).mapError fun fault => .lookupFailed fault.message

end Rollout.Cloud.Table
