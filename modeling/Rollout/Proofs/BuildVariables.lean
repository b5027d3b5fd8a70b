import Rollout.Proofs.Dictionary
import Rollout.Proofs.Starting

/-!
The variables of a build. What the caller sets is laid over what was resolved, written
into the input of an execution, read from it by the engine and set out in order of the
names. On this way no name is lost or doubled, whatever names the caller sets.
-/

namespace Rollout

open Time (Instant)

/-- The text a value of the caller is handed on as: a string unchanged, anything else as
compact JSON. -/
inductive Json.CarriedAs : Json → String → Prop
  | text (s : String) : CarriedAs (.string s) s
  | compact {value : Json} (other : ∀ s, value ≠ .string s) : CarriedAs value value.compact

theorem Json.carriedAs_asText (value : Json) : value.CarriedAs value.asText := by
  cases value with
  | string s => exact .text s
  | _ => exact .compact (by simp)

theorem Json.carriedAs_iff {value : Json} {text : String} :
    value.CarriedAs text ↔ value.asText = text := by
  constructor
  · rintro (_ | other)
    · rfl
    · cases value with
      | string s => exact absurd rfl (other s)
      | null | bool | number | array | object => rfl
  · rintro rfl
    exact value.carriedAs_asText

/-- The names of the parameters every deployment adds. -/
def injectedNames : List String := [
  "TARGET_REGION", "TARGET_ACCOUNT", "TARGET_VPCID", "TARGET_ECS_CLUSTER_ARN", "TARGET_ENV_NAME",
  "TARGET_ENV_PROVIDER_NAME", "USER", "ASSUMED_ROLE", "ACTION_TYPE"]

/-- The variables of a build are the caller's values laid over the resolved ones. -/
structure Overlaid (resolved : DeploymentParameters) (caller : Dict Json)
    (build : List BuildVariable) : Prop where
  ascending : build.Pairwise fun first second => first.name < second.name
  named : ∀ name, name ∈ build.map BuildVariable.name ↔ name ∈ injectedNames ∨ name ∈ caller.keys
  plaintext : ∀ v ∈ build, v.kind = "PLAINTEXT"
  given : ∀ v ∈ build, ∀ value, caller.get? v.name = some value → value.CarriedAs v.value
  kept : ∀ v ∈ build, v.name ∉ caller.keys → (v.name, v.value) ∈ resolved.entries

namespace DeploymentParameters

variable {p : DeploymentParameters} {overrides : Dict String} {name : String}

theorem entries_names (p : DeploymentParameters) : p.entries.map Prod.fst = injectedNames := rfl

theorem entries_distinct (p : DeploymentParameters) : (p.entries.map Prod.fst).Nodup := by
  rw [entries_names]
  decide

theorem get?_mergedWith : (p.mergedWith overrides).get? name =
    (overrides.get? name).or (p.entries.lookup name) := by
  -- The nine names differ, so it does not matter from which end the entries are laid in.
  have order := p.entries.reverse_perm
  have distinct := (order.map Prod.fst).nodup_iff.mpr p.entries_distinct
  rw [mergedWith, Dict.get?_overlay, toDict, Dict.get?_ofList, Dict.lookup_perm order distinct]

theorem mem_keys_mergedWith :
    name ∈ (p.mergedWith overrides).keys ↔ name ∈ injectedNames ∨ name ∈ overrides.keys := by
  rw [Dict.mem_keys, Dict.mem_keys, get?_mergedWith, ← entries_names p, mem_keys_iff]
  cases overrides.get? name <;> simp

end DeploymentParameters

section Variables

variable {parameters : Dict String} {v : BuildVariable}

theorem buildVariables_names : (buildVariables parameters).map BuildVariable.name =
    parameters.keys := by
  rw [buildVariables, List.map_map]
  rfl

theorem mem_buildVariables : v ∈ buildVariables parameters ↔
    parameters.get? v.name = some v.value ∧ v.kind = BuildVariable.plaintext := by
  rw [← Dict.mem_entries, buildVariables, List.mem_map]
  constructor
  · rintro ⟨⟨name, value⟩, member, rfl⟩
    exact ⟨member, rfl⟩
  · rintro ⟨member, kind⟩
    refine ⟨_, member, ?_⟩
    rw [← kind]

theorem buildVariables_ascending (parameters : Dict String) :
    (buildVariables parameters).Pairwise fun first second => first.name < second.name :=
  List.pairwise_map.mpr parameters.ascending

end Variables

/-- What is merged for a request is set out as variables of its build. -/
theorem overlaid_merged (resolved : DeploymentParameters) (request : DeploymentRequest) :
    Overlaid resolved request.parameters
      (buildVariables (resolved.mergedWith request.textParameters)) := by
  have carried (name : String) : request.textParameters.get? name =
      (request.parameters.get? name).map Json.asText := Dict.get?_map
  refine ⟨buildVariables_ascending _, ?_, ?_, ?_, ?_⟩
  · intro name
    rw [buildVariables_names, DeploymentParameters.mem_keys_mergedWith,
      DeploymentRequest.textParameters, Dict.keys_map]
  · intro v member
    exact (mem_buildVariables.mp member).2
  · intro v member value given
    have found := (mem_buildVariables.mp member).1
    rw [DeploymentParameters.get?_mergedWith, carried, given] at found
    rw [← Option.some.inj found]
    exact value.carriedAs_asText
  · intro v member missing
    have found := (mem_buildVariables.mp member).1
    rw [DeploymentParameters.get?_mergedWith, carried, Dict.notMem_keys.mp missing] at found
    exact (entries_lookup resolved.entries_distinct).mpr found

namespace Local.Run

variable {r mid last : Run} {moves : List Move} {step : Step} {now : Instant} {position : Nat}
  {repository : String} {build : List BuildVariable}

/-- Tasks of the second map stage change only by turns of its items. -/
theorem step_deploys (steps : r.step? step now = some mid) :
    mid.deploys = r.deploys ∨ ∃ turn, r.deploys.turn? turn = some mid.deploys := by
  cases head : r.todo with
  | nil =>
      left
      cases step_some steps with
      | stop _ _ =>
          obtain ⟨_, _, same, _⟩ := finish_touches r now
          rw [same]
          rfl
      | write head' => cases head.symm.trans head'
      | wake head' => cases head.symm.trans head'
      | inMap _ head' _ => cases head.symm.trans head'
  | cons work rest =>
      cases work with
      | note type stage =>
          left
          unfold step? at steps
          rw [head] at steps
          cases step with
          | write =>
              cases steps
              rfl
          | _ => cases steps
      | pause =>
          left
          unfold step? at steps
          rw [head] at steps
          cases step with
          | wake =>
              cases steps
              rfl
          | _ => cases steps
      | packages =>
          left
          cases (MapStage.packaging_lawful.stepped head).mp steps with
          | turn turn takes => rfl
          | @leave report reported =>
              obtain ⟨_, _, same, _⟩ := afterMap_touches r MapStage.packaging.stage report rest
              rw [same]
      | deploys =>
          cases (MapStage.deploying_lawful.stepped head).mp steps with
          | turn turn takes => exact .inr ⟨turn, takes⟩
          | @leave report reported =>
              left
              obtain ⟨_, _, same, _⟩ := afterMap_touches r MapStage.deploying.stage report rest
              rw [same]

theorem went_deploys (went : Went r moves last) :
    last.deploys.tasks.map Prod.fst = r.deploys.tasks.map Prod.fst := by
  induction went with
  | stay => rfl
  | next steps _ ih =>
      rw [ih]
      rcases step_deploys steps with same | ⟨turn, takes⟩
      · rw [same]
      · exact FanOut.turn_names takes

theorem job_deploy (asked : r.job? position = some (.deploy repository build)) :
    build = buildVariables r.input.parameters := by
  unfold job? at asked
  split at asked
  · obtain ⟨_, _, same⟩ := Option.map_eq_some_iff.mp asked
    cases same
  · obtain ⟨_, _, same⟩ := Option.map_eq_some_iff.mp asked
    cases same
    rfl
  · cases asked

theorem call_deploy {result : Except String Build}
    (made : r.call? step = some (.deploy position repository build result)) :
    r.job? position = some (.deploy repository build) := by
  unfold call? at made
  split at made
  · split at made <;> cases made
  · split at made
    · rename_i asked
      cases made
      exact asked
    · cases made
  · cases made

/-- All deploys of an execution are given the variables its input is set out as. -/
theorem calls_deploy (went : Went r moves last) {result : Except String Build}
    (made : .deploy position repository build result ∈ calls moves) :
    build = buildVariables r.input.parameters := by
  induction went with
  | stay => cases made
  | next steps _ ih =>
      rw [calls_cons, List.mem_append, Option.mem_toList] at made
      rcases made with first | later
      · exact job_deploy (call_deploy first)
      · rw [ih later, stepped_input (step_some steps)]

/-- At the second map stage there is a deploy for each repository of the input. -/
theorem job_of_deploys {execution : ExecutionArn} {input : PipelineInput}
    (went : Went (.start execution input now) moves r) {rest : List Work}
    (stage : r.todo = .deploys :: rest) (listed : input.repositories[position]? = some repository) :
    ∃ build, r.job? position = some (.deploy repository build) := by
  have names : r.deploys.tasks.map Prod.fst = input.repositories := by
    rw [went_deploys went]
    simp [start, FanOut.ofItems, Function.comp_def]
  refine ⟨buildVariables r.input.parameters, ?_⟩
  rw [job?, stage]
  simp only [MapStage.item_names, names, listed, Option.map_some]

end Local.Run

namespace Deployment

open Local (Engine Run Work)

/-- An execution started for a deployment hands every repository it deploys the caller's values
laid over the resolved ones. -/
theorem variables_overlaid (request : DeploymentRequest) (context : DeploymentContext) :
    ∃ text, (inputOf request context).encoded = .ok text ∧
      ∀ (engine : Engine) (region : Region) (account : AccountId) (machine id : String)
        (now : Instant), (lastSegment machine).isEmpty = false →
      ∃ started after run,
        engine.start region account machine text id now = (.ok started, after) ∧
        after.run? started.execution.text = some run ∧
        ∀ moves r, Run.Went run moves r →
          (∀ rest position repository, r.todo = Work.deploys :: rest →
            request.repositories[position]? = some repository →
              ∃ build, r.job? position = some (.deploy repository build)) ∧
          (∀ position repository build, r.job? position = some (.deploy repository build) →
            Overlaid context.parameters request.parameters build) ∧
          ∀ position repository build result,
            .deploy position repository build result ∈ Run.calls moves →
              Overlaid context.parameters request.parameters build := by
  refine ⟨_, rfl, ?_⟩
  intro engine region account machine id now named
  refine ⟨_, _, _, Engine.start_written engine region account named _ id now, lookup_upsert, ?_⟩
  intro moves r went
  -- No step changes the input, so every deploy is given what the input was started with.
  refine ⟨?_, ?_, ?_⟩
  · intro rest position repository stage listed
    exact Run.job_of_deploys went stage listed
  · intro position repository build asked
    rw [Run.job_deploy asked, Run.went_input went]
    exact overlaid_merged context.parameters request
  · intro position repository build result made
    rw [Run.calls_deploy went made]
    exact overlaid_merged context.parameters request

namespace Sample

def grant : Grant := { Rollout.Sample.grant with role := ⟨"role"⟩ }

def context : DeploymentContext where
  provider := Sample.provider
  grant := grant
  parameters :=
    ⟨"us-east-1", "000011112222", "vpc", "cluster", "dev", "east", "ada", "role", "deploy"⟩
  stateMachine := "deploy"
  entry := entryOf settings request Sample.provider grant

/-- One name that is added anyway, and one in the middle of the others. -/
def overriding : DeploymentRequest :=
  { request with parameters := Dict.ofList [("USER", .string "ci"), ("REPLICAS", .int 3)] }

def build : List BuildVariable := [
  ⟨"ACTION_TYPE", "deploy", "PLAINTEXT"⟩, ⟨"ASSUMED_ROLE", "role", "PLAINTEXT"⟩,
  ⟨"REPLICAS", "3", "PLAINTEXT"⟩, ⟨"TARGET_ACCOUNT", "000011112222", "PLAINTEXT"⟩,
  ⟨"TARGET_ECS_CLUSTER_ARN", "cluster", "PLAINTEXT"⟩,
  ⟨"TARGET_ENV_NAME", "dev", "PLAINTEXT"⟩, ⟨"TARGET_ENV_PROVIDER_NAME", "east", "PLAINTEXT"⟩,
  ⟨"TARGET_REGION", "us-east-1", "PLAINTEXT"⟩, ⟨"TARGET_VPCID", "vpc", "PLAINTEXT"⟩,
  ⟨"USER", "ci", "PLAINTEXT"⟩]

def started : Run :=
  .start (Engine.executionArn grant.region grant.account "deploy" "1") (inputOf overriding context)
    .epoch

/-- Up to the deploy of the one repository. -/
def packaging : List Local.Step := [.write, .wake, .write, .write, .write, .beginPackage 0,
  .endPackage 0 (.ok ()), .leave, .write, .write]

theorem build_eq : buildVariables (inputOf overriding context).parameters = build := by
  decide +kernel

end Sample

theorem sample_variables_overlaid :
    ∃ text after moves r, (inputOf Sample.overriding Sample.context).encoded = .ok text ∧
      Engine.start {} Sample.grant.region Sample.grant.account "deploy" text "1" .epoch =
        (.ok ⟨Sample.started.description.execution, .epoch⟩, after) ∧
      after.run? Sample.started.description.execution.text = some Sample.started ∧
      Run.Went Sample.started moves r ∧ r.job? 0 = some (.deploy "app" Sample.build) ∧
      Overlaid Sample.context.parameters Sample.overriding.parameters Sample.build := by
  obtain ⟨text, encoded, runs⟩ := variables_overlaid Sample.overriding Sample.context
  obtain ⟨begun, after, run, starts, stored, holds⟩ :=
    runs {} Sample.grant.region Sample.grant.account "deploy" "1" .epoch (by decide)
  obtain rfl := Except.ok.inj encoded
  have segment : lastSegment "deploy" = "deploy" := by decide
  have same := Engine.start_written {} Sample.grant.region Sample.grant.account
    (by decide : (lastSegment "deploy").isEmpty = false) (inputOf Sample.overriding Sample.context)
    "1" .epoch
  rw [segment] at same
  obtain ⟨same, rfl⟩ := Prod.mk.inj (starts.symm.trans same)
  obtain rfl := Except.ok.inj same
  obtain rfl : run = Sample.started := Option.some.inj (stored.symm.trans lookup_upsert)
  have follows : (Run.follow .epoch Sample.started Sample.packaging).isSome = true := rfl
  obtain ⟨⟨moves, r⟩, here⟩ := Option.isSome_iff_exists.mp follows
  have jobs : (Run.follow .epoch Sample.started Sample.packaging).map (·.2.job? 0) =
      some (some (.deploy "app" (buildVariables Sample.started.input.parameters))) := rfl
  rw [here, Sample.started, Run.start_input, Sample.build_eq] at jobs
  have asked : r.job? 0 = some (.deploy "app" Sample.build) := Option.some.inj jobs
  have went := Run.follow_went here
  exact ⟨_, _, moves, r, encoded, starts, stored, went, asked, (holds moves r went).2.1 _ _ _ asked⟩

end Deployment

end Rollout
