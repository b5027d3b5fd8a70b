import Rollout.Config.Manifest
import Rollout.Local.Change
import Rollout.Local.Setup

/-!
The local world written as a JSON document: what its stores hold at first, which
answers its engine gives, and how it changes.
-/

namespace Rollout.Local

open Time (Instant)

def decodeEngineError : Decoder EngineError := fun depth doc => do
  let [kind, text, execution, status] ← Decoder.record
    [["kind"], ["text"], ["executionArn"], ["status"]] depth doc | none
  let text ← text.withDefault .string ""
  match ← kind.required .string with
  | "Rejected" => some (.rejected text)
  | "Transport" => some (.transport text)
  | "ExecutionNotFound" => some (.executionNotFound text)
  | "UnknownStatus" =>
    some (.unknownStatus (← execution.withDefault .string "") (← status.withDefault .string ""))
  | _ => none

/-- An event that may leave its time out. -/
def decodeEvent : Decoder HistoryEvent := fun depth doc => do
  let [id, type, timestamp, detail] ← Decoder.record
    [["id"], ["type"], ["timestamp"], ["detail"]] depth doc | none
  some {
    id := ← id.required .int64
    type := ← type.required .string
    timestamp := (← timestamp.optional .instant).getD .epoch
    detail := ← detail.optional .string }

def Poll.decode : Decoder Poll := fun depth doc => do
  let [error, historyError, status, events, output, executionError, cause] ← Decoder.record
    [["error"], ["historyError"], ["status"], ["events"], ["output"], ["executionError"],
      ["cause"]] depth doc | none
  let described := do
    some (← status.required .string, ← output.optional .string,
      ← executionError.optional .string, ← cause.optional .string)
  let description ← match ← error.optional decodeEngineError with
    | some e => some (.error e)
    | none => described.map .ok
  let history ← match ← historyError.optional decodeEngineError with
    | some e => some (.error e)
    | none => (events.withDefault (.list decodeEvent) []).map .ok
  some ⟨description, history⟩

/-- The execution that is replayed where the document names none. -/
def defaultExecution : ExecutionArn := ⟨"arn:exec"⟩

def Replay.decode : Decoder Replay := fun depth doc => do
  let [execution, polls, startError] ← Decoder.record
    [["executionArn"], ["polls"], ["startError"]] depth doc | none
  some {
    execution := ← execution.withDefault ExecutionArn.decode defaultExecution
    polls := ← polls.withDefault (.list Poll.decode) []
    startError := ← startError.optional decodeEngineError }

instance : Codec (String × String × String) where
  decode := fun depth doc => do
    let [account, key, value] ← Decoder.record
      [["account"], ["path", "group"], ["value", "role"]] depth doc | none
    some (← account.withDefault .string ParameterStore.everyAccount, ← key.required .string,
      ← value.required .string)
  encode := fun (account, key, value) => .array [.string account, .string key, .string value]

/-- Values of accounts, the last of several under one key in force. -/
abbrev Assignments := List (String × String × String)

def ParameterStore.ofAssignments (entries : Assignments) : ParameterStore :=
  entries.foldl (fun store (account, path, value) => store.put account path value) {}

def RoleMapping.ofAssignments (entries : Assignments) (failing : List String) : RoleMapping :=
  entries.foldl (fun table (account, group, role) => table.put account group role) { failing }

def decodeIssued : Decoder IssuedCredentials := fun depth doc => do
  let [key, secret, session, expiration] ← Decoder.record
    [["accessKeyId"], ["secretAccessKey"], ["sessionToken"], ["expiration"]] depth doc | none
  some {
    accessKeyId := ← key.withDefault .string "AKIA"
    secretAccessKey := ← secret.withDefault .string "secret"
    sessionToken := ← session.withDefault .string "token"
    expiration := ← expiration.optional .instant }

/-- An engine that either replays recorded polls or runs the local pipeline. -/
def decodeWorkflow (runner : Runner) : Decoder Workflow := fun depth doc => do
  let [polls, delay, retention] ← Decoder.record
    [["polls"], ["stepDelayMs"], ["retention"]] depth doc | none
  match polls with
  | .found _ _ => (Replay.decode depth doc).map .replay
  | _ =>
    let delay ← delay.withDefault Codec.decode 0
    let retention ← retention.withDefault Codec.decode 64
    some (.pipeline { runner, stepDelay := delay, engine := { retention } })

/-- The world a document describes, at a given time. -/
def World.decode (clock : Schedule.Clock) : Decoder World := fun depth doc => do
  let [environments, parameters, mappings, failing, denied, issued, outputs, packages, deploys,
      engine] ← Decoder.record
    [["environments"], ["parameters"], ["mappings"], ["failGroups"], ["deniedRoles"], ["issued"],
      ["outputs"], ["failPackages"], ["failDeploys"], ["engine"]] depth doc | none
  let names : Slot → Option (List String) := fun slot => slot.withDefault Codec.decode []
  let assignments : Slot → Option Assignments := fun slot => slot.withDefault Codec.decode []
  let runner : Runner := {
    outputs := ← outputs.withDefault Codec.decode ∅
    failingPackages := ← names packages
    failingDeploys := ← names deploys }
  some {
    environments := ⟨← environments.withDefault Codec.decode ∅⟩
    parameters := .ofAssignments (← assignments parameters)
    mappings := .ofAssignments (← assignments mappings) (← names failing)
    issuer := { denied := ← names denied, fixed := ← issued.optional decodeIssued }
    workflow := ← engine.withDefault (decodeWorkflow runner) (.pipeline { runner })
    clock }

def Change.decode : Decoder Change := fun depth doc => do
  let [name, account, path, value, role, environment, providers, repository] ← Decoder.record
    [["do"], ["account"], ["path"], ["value"], ["role"], ["name"], ["providers"],
      ["repository"]] depth doc | none
  let text : Slot → Option String := fun slot => slot.required .string
  match ← text name with
  | "put" =>
    some (.putParameter (← account.withDefault .string ParameterStore.everyAccount) (← text path)
      (← text value))
  | "put_shared" =>
    some (.putParameter ParameterStore.everyAccount (← text path) (← text value))
  | "fail_path" => some (.failPath (← text path))
  | "deny_role" => some (.denyRole (← text role))
  | "ledger_unavailable" => some (.setLedger (← value.required .bool))
  | "set_environment" =>
    some (.setEnvironment (← text environment) (← providers.required Codec.decode))
  | "fail_package" => some (.failPackage (← text repository))
  | "fail_deploy" => some (.failDeploy (← text repository))
  | _ => none

end Rollout.Local
