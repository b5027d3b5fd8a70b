import Rollout.Proofs.Starting
import Rollout.Proofs.Veils
import Rollout.Proofs.Watching

/-!
What others get to know of a deployment. Secrets that were issued leave no trace
but in the calls they authorise, and what a caller sets its parameters to leaves
none in the ledger.
-/

namespace Rollout

open Dialogue

namespace Veil

/-- Whether there is a secret, not which one. -/
def presence (secret : String) : String := if secret.isEmpty then "" else redacted

theorem presence_isEmpty (secret : String) : (presence secret).isEmpty = secret.isEmpty := by
  unfold presence
  split
  · rename_i absent
    rw [absent]
    rfl
  · rename_i present
    rw [Bool.eq_false_of_not_eq_true present]
    decide

def overSecrets : Veil := ⟨presence, id, presence_isEmpty⟩

def overInputs : Veil := ⟨id, fun _ => "", fun _ => rfl⟩

end Veil

def Call.input? : Call → Option String
  | .startExecution _ _ input => some input
  | _ => none

def Call.appended? : Call → Option (String × AuditRecord)
  | .append _ table record => some (table, record)
  | _ => none

/-- The grant a call is made with. -/
def Call.grant? : Call → Option Grant
  | .parameter grant _ | .startExecution grant _ _ | .describe grant _ | .history grant _ _
  | .append grant _ _ => some grant
  | _ => none

/-- What a call shows to whoever watches the deployment. -/
def Call.shown? : Call → Option Call
  | .showEvent status event => some (.showEvent status event)
  | .showHeartbeat status lastId lastType dots => some (.showHeartbeat status lastId lastType dots)
  | _ => none

def Exchange.issued? (x : Exchange Call Call.Answer) : Option IssuedCredentials :=
  match x with
  | ⟨.assumeRole _, .ok issued⟩ => some issued
  | _ => none

namespace Trace

/-- The inputs an engine is asked to start with. -/
def inputs (calls : Trace) : List String := calls.filterMap (·.question.input?)

/-- What is handed to the ledger, and to which of its tables. -/
def appended (calls : Trace) : List (String × AuditRecord) := calls.filterMap (·.question.appended?)

/-- The events and heartbeats, as they are shown. -/
def displayed (calls : Trace) : List Call := calls.filterMap (·.question.shown?)

/-- Everything issued, as it is shown. -/
def issuedTexts (calls : Trace) : List String :=
  calls.filterMap fun x => x.issued?.map IssuedCredentials.shown

/-- The grants calls are made with, as they are shown. -/
def grantTexts (calls : Trace) : List String :=
  calls.filterMap fun x => x.question.grant?.map Grant.shown

end Trace

namespace Veil

variable {v : Veil} {first second : Trace}

theorem filterMap_seen {α : Type} {read : Exchange Call Call.Answer → Option α}
    (unveiled : ∀ x, read (v.calls.exchange x) = read x)
    (same : first.map v.calls.exchange = second.map v.calls.exchange) :
    first.filterMap read = second.filterMap read := by
  have seen (calls : Trace) : (calls.map v.calls.exchange).filterMap read = calls.filterMap read := by
    rw [List.filterMap_map]
    exact List.filterMap_congr fun x _ => unveiled x
  rw [← seen first, same, seen]

theorem appended_seen (same : first.map v.calls.exchange = second.map v.calls.exchange) :
    first.appended = second.appended :=
  filterMap_seen (fun x => by rcases x with ⟨_ | _, _⟩ <;> rfl) same

theorem displayed_seen (same : first.map v.calls.exchange = second.map v.calls.exchange) :
    first.displayed = second.displayed :=
  filterMap_seen (fun x => by rcases x with ⟨_ | _, _⟩ <;> rfl) same

/-- The shown form of what was issued keeps back what the veil covers. -/
theorem issuedTexts_seen (same : first.map v.calls.exchange = second.map v.calls.exchange) :
    first.issuedTexts = second.issuedTexts := by
  refine filterMap_seen (fun x => ?_) same
  rcases x with ⟨_ | _ | _ | _, answer⟩
  case assumeRole => cases answer <;> rfl
  all_goals rfl

theorem grantTexts_seen (same : first.map v.calls.exchange = second.map v.calls.exchange) :
    first.grantTexts = second.grantTexts :=
  filterMap_seen (fun x => by rcases x with ⟨_ | _, _⟩ <;> rfl) same

theorem inputs_seen
    (same : first.map overSecrets.calls.exchange = second.map overSecrets.calls.exchange) :
    first.inputs = second.inputs :=
  filterMap_seen (fun x => by rcases x with ⟨_ | _, _⟩ <;> rfl) same

end Veil

namespace Deployment

variable {settings : DeploymentSettings} {polls more : Nat} {first second : Trace}

theorem covers_same (v : Veil) (request : DeploymentRequest) : Covers v request request := by
  intro context other same
  simp only [inputOf, same]

/-- Two runs that differ in the secrets issued to them, and in what is answered to calls only as
far as that shows, hand on the same input, records and sightings and end in the same result; and
neither what was issued nor the grants made of it can be told apart in the form they are shown. -/
theorem secrets_kept {request : DeploymentRequest} {one two : Except DeploymentError DeploymentResult}
    (ran : (deploy settings polls request).Ran first (some one))
    (other : (deploy settings more request).Ran second (some two))
    (alike : AnsweredAlike Veil.overSecrets.calls first second) :
    first.inputs = second.inputs ∧ first.appended = second.appended ∧
    first.displayed = second.displayed ∧ first.issuedTexts = second.issuedTexts ∧
    first.grantTexts = second.grantTexts ∧ one = two := by
  obtain ⟨same, ended⟩ :=
    twins_ran (deploy_twins settings polls more (.refl request) (covers_same _ request)) ran other alike
  exact ⟨Veil.inputs_seen same, Veil.appended_seen same, Veil.displayed_seen same,
    Veil.issuedTexts_seen same, Veil.grantTexts_seen same, ended⟩

/-- A world where nothing goes wrong, and what its issuer hands out. -/
def Sample.answerIssuing (secret token : String) : (c : Call) → c.Answer
  | .assumeRole _ => .ok ⟨"key", secret, token, none⟩
  | c => Sample.answer c

theorem Sample.issuing_seen (secret token : String) (present : secret.isEmpty = false)
    (valid : token.isEmpty = false) (c : Call) :
    Veil.overSecrets.answer c (answerIssuing secret token c) =
      answerIssuing redacted redacted (Veil.overSecrets.call c) := by
  cases c with
  | assumeRole request =>
      change (Except.ok ⟨"key", Veil.presence secret, Veil.presence token, none⟩ :
        Except CredentialError IssuedCredentials) = .ok ⟨"key", redacted, redacted, none⟩
      rw [Veil.presence, Veil.presence, present, valid]
      rfl
  | _ => rfl

theorem sample_secrets_kept :
    ∃ (first second : Trace) (result : Except DeploymentError DeploymentResult),
      (deploy Sample.settings 1 Sample.request).Ran first (some result) ∧
      (deploy Sample.settings 1 Sample.request).Ran second (some result) ∧
      first.filterMap Exchange.issued? = [⟨"key", "secret", "token", none⟩] ∧
      second.filterMap Exchange.issued? = [⟨"key", "other", "ticket", none⟩] ∧
      first.inputs = second.inputs ∧ first.appended = second.appended ∧
      first.displayed = second.displayed ∧ first.issuedTexts = second.issuedTexts ∧
      first.grantTexts = second.grantTexts := by
  let deployment := deploy Sample.settings 1 Sample.request
  have ran := answered_ran (Sample.answerIssuing "secret" "token") deployment
  have other := answered_ran (Sample.answerIssuing "other" "ticket") deployment
  have ends : ∃ one, (deployment.answered (Sample.answerIssuing "secret" "token")).2 = some one :=
    ⟨_, rfl⟩
  have ends' : ∃ two, (deployment.answered (Sample.answerIssuing "other" "ticket")).2 = some two :=
    ⟨_, rfl⟩
  obtain ⟨one, same⟩ := ends
  obtain ⟨two, same'⟩ := ends'
  have alike : AnsweredAlike Veil.overSecrets.calls _ _ :=
    answeredAlike_answered (Sample.issuing_seen "secret" "token" rfl rfl)
      (Sample.issuing_seen "other" "ticket" rfl rfl) deployment deployment
  rw [same] at ran
  rw [same'] at other
  obtain ⟨inputs, appended, displayed, issued, grants, rfl⟩ := secrets_kept ran other alike
  exact ⟨_, _, one, ran, other, rfl, rfl, inputs, appended, displayed, issued, grants⟩

/-- Parameters laid over the same or other defaults can still be told apart. -/
theorem textParameters_of_merged {one two : DeploymentRequest} (keys : one.parameters.keys =
      two.parameters.keys) {p q : DeploymentParameters}
    (merged : p.mergedWith one.textParameters = q.mergedWith two.textParameters) :
    one.textParameters = two.textParameters := by
  -- Both set the same names, so where one overlay shows a default, so does the other.
  have named (request : DeploymentRequest) :
      request.textParameters.keys = request.parameters.keys := Dict.keys_map
  apply Dict.ext_get?
  intro name
  have value := congrArg (Dict.get? · name) merged
  simp only [DeploymentParameters.mergedWith, Dict.get?_overlay] at value
  cases left : one.textParameters.get? name with
  | some text =>
      have inside : name ∈ two.textParameters.keys := by
        rw [named, ← keys, ← named]
        exact Dict.mem_keys.mpr ⟨text, left⟩
      obtain ⟨other, right⟩ := Dict.mem_keys.mp inside
      simpa [left, right] using value
  | none =>
      cases right : two.textParameters.get? name with
      | none => rfl
      | some text =>
          have inside : name ∈ one.textParameters.keys := by
            rw [named, keys, ← named]
            exact Dict.mem_keys.mpr ⟨text, right⟩
          obtain ⟨other, found⟩ := Dict.mem_keys.mp inside
          rw [left] at found
          cases found

theorem inputs_context {request : DeploymentRequest}
    {outcome : Option (Except DeploymentError DeploymentResult)}
    (ran : (deploy settings polls request).Ran first outcome) :
    ∀ input ∈ first.inputs, ∃ context, (inputOf request context).text = input := by
  intro input member
  obtain ⟨⟨question, answer⟩, inside, same⟩ := List.mem_filterMap.mp member
  cases question with
  | startExecution grant machine text =>
      obtain rfl := Option.some.inj same
      obtain ⟨context, _, same⟩ := deploy_input ran inside
      exact ⟨context, same⟩
  | _ => cases same

/-- Runs for two requests that differ only in parameter values, and not in the application's name,
write the same records and end alike when they are answered alike, although they hand other inputs
to the engine. -/
theorem values_kept {one two : DeploymentRequest} (names : one.AlikeInNames two)
    {result result' : Except DeploymentError DeploymentResult}
    (ran : (deploy settings polls one).Ran first (some result))
    (other : (deploy settings more two).Ran second (some result'))
    (alike : AnsweredAlike Veil.overInputs.calls first second) :
    first.appended = second.appended ∧ result = result' ∧
    (one.textParameters ≠ two.textParameters →
      ∀ input ∈ first.inputs, ∀ input' ∈ second.inputs, input ≠ input') := by
  obtain ⟨same, ended⟩ :=
    twins_ran (deploy_twins settings polls more names fun _ _ _ => rfl) ran other alike
  refine ⟨Veil.appended_seen same, ended, ?_⟩
  rintro apart _ member _ member' rfl
  obtain ⟨context, text⟩ := inputs_context ran _ member
  obtain ⟨context', text'⟩ := inputs_context other _ member'
  -- A text both hand on would be read back as the input of either.
  have inputs : inputOf one context = inputOf two context' := by
    have left := (inputOf one context).returns.readText (by decide)
    have right := (inputOf two context').returns.readText (by decide)
    rw [PipelineInput.text] at text text'
    rw [text] at left
    rw [text', left] at right
    exact Option.some.inj right
  exact apart (textParameters_of_merged names.keys (congrArg PipelineInput.parameters inputs))

/-- A request whose parameters are the application's name and a token. -/
def Sample.requestSetting (token : Json) : DeploymentRequest :=
  { Sample.request with
    parameters := Dict.ofList [("APP_SHORT_NAME", .string "shop"), ("TOKEN", token)] }

theorem sample_values_kept :
    ∃ (first second : Trace) (result : Except DeploymentError DeploymentResult),
      (deploy Sample.settings 1 (Sample.requestSetting (.string "red"))).Ran first (some result) ∧
      (deploy Sample.settings 1 (Sample.requestSetting (.int 7))).Ran second (some result) ∧
      first.appended.length = 2 ∧ first.appended = second.appended ∧
      ∀ input ∈ first.inputs, ∀ input' ∈ second.inputs, input ≠ input' := by
  have ran := answered_ran Sample.answer
    (deploy Sample.settings 1 (Sample.requestSetting (.string "red")))
  have other := answered_ran Sample.answer
    (deploy Sample.settings 1 (Sample.requestSetting (.int 7)))
  have ends : ∃ one, ((deploy Sample.settings 1 (Sample.requestSetting (.string "red"))).answered
      Sample.answer).2 = some one := ⟨_, rfl⟩
  have ends' : ∃ two, ((deploy Sample.settings 1 (Sample.requestSetting (.int 7))).answered
      Sample.answer).2 = some two := ⟨_, rfl⟩
  obtain ⟨one, same⟩ := ends
  obtain ⟨two, same'⟩ := ends'
  have seen (c : Call) : Veil.overInputs.answer c (Sample.answer c) =
      Sample.answer (Veil.overInputs.call c) := by cases c <;> rfl
  have alike : AnsweredAlike Veil.overInputs.calls _ _ := answeredAlike_answered seen seen
    (deploy Sample.settings 1 (Sample.requestSetting (.string "red")))
    (deploy Sample.settings 1 (Sample.requestSetting (.int 7)))
  have names : (Sample.requestSetting (.string "red")).AlikeInNames
      (Sample.requestSetting (.int 7)) := ⟨rfl, rfl, rfl, rfl, rfl, rfl, rfl⟩
  rw [same] at ran
  rw [same'] at other
  obtain ⟨appended, rfl, apart⟩ := values_kept names ran other alike
  exact ⟨_, _, one, ran, other, rfl, appended, apart (by decide)⟩

end Deployment

end Rollout
