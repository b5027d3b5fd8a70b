import Rollout.Audit.Record
import Rollout.Dict
import Rollout.Json.Printer

/-!
The item a ledger table keeps of an audit record: one attribute per field, all
texts but the sequence value.
-/

namespace Rollout

inductive Attribute where
  | text (value : String)
  | number (value : Int)
  deriving DecidableEq, Repr

/-- Numbers travel as decimal text. -/
def Attribute.toJson : Attribute → Json
  | .text value => .object [("S", .string value)]
  | .number value => .object [("N", .string (String.ofList (Json.printInt value)))]

def AuditRecord.item (r : AuditRecord) : Dict Attribute :=
  Dict.ofList [
    ("id", .text r.id),
    ("sequence", .number r.sequence),
    ("origin", .text r.origin),
    ("prefix", .text r.platform),
    ("environmentProviderName", .text r.provider),
    ("appName", .text r.application),
    ("actionType", .text r.actionType),
    ("name", .text r.name),
    ("initiatedBy", .text r.initiatedBy),
    ("owner", .text r.owner),
    ("assumedRole", .text r.assumedRole),
    ("targetAccount", .text r.account),
    ("targetRegion", .text r.region),
    ("request", .text r.request),
    ("status", .text r.status.text),
    ("message", .text r.message),
    ("createdAt", .text r.createdAt)]

end Rollout
