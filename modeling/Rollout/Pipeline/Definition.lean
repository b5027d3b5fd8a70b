import Rollout.Json.Codec
import Rollout.Pipeline.Input
import Rollout.Pipeline.Stage

/-!
The state machine the managed engine runs, written in the Amazon States
Language over the functions, build projects and bucket it uses. A failure in
either map leads to the state `Fail`.
-/

namespace Rollout

structure PipelineDefinition where
  serializeFunction : String
  aggregateFunction : String
  packageProject : String
  deployProject : String
  artifactBucket : String
  deriving DecidableEq, Repr

namespace PipelineDefinition

def failState : String := "Fail"

def str (s : String) : Json := .string s

def catchAll : Json :=
  .array [.object [
    ("ErrorEquals", .array [str "States.ALL"]),
    ("ResultPath", .null),
    ("Next", str failState)]]

def buildTask (parameters : List (String × Json)) : Json :=
  .object [
    ("Type", str "Task"),
    ("Resource", str "arn:aws:states:::codebuild:startBuild.sync"),
    ("Parameters", .object parameters),
    ("ResultPath", str "$.Result"),
    ("End", .bool true)]

def iterator (item : String) (task : Json) : Json :=
  .object [("StartAt", str item), ("States", .object [(item, task)])]

def serializeState : Json → String → Json := fun function next =>
  .object [
    ("Type", str "Task"),
    ("Resource", str "arn:aws:states:::lambda:invoke"),
    ("InputPath", str "$.parameters"),
    ("Parameters", .object [("FunctionName", function), ("Payload.$", str "$")]),
    ("ResultSelector", .object [("serializedEnvironmentalOverrides.$", str "$.Payload")]),
    ("ResultPath", str "$.SerializedResult"),
    ("Next", str next)]

def mapState (parameters : List (String × Json)) (items : Json) (next : String) : Json :=
  .object [
    ("Type", str "Map"),
    ("ItemsPath", str "$.repositories"),
    ("ResultPath", str "$.Result"),
    ("Parameters", .object (("repository.$", str "$$.Map.Item.Value") :: parameters)),
    ("Iterator", items),
    ("Catch", catchAll),
    ("Next", str next)]

def packageTask (d : PipelineDefinition) : Json :=
  buildTask [
    ("ProjectName", str d.packageProject),
    ("EnvironmentVariablesOverride", .array [.object [
      ("Name", str "REPOSITORY"),
      ("Type", str BuildVariable.plaintext),
      ("Value.$", str "$.repository")]])]

def deployTask (d : PipelineDefinition) : Json :=
  buildTask [
    ("ProjectName", str d.deployProject),
    ("SourceTypeOverride", str "S3"),
    ("SourceLocationOverride.$", str ("States.Format('" ++ d.artifactBucket
      ++ "/boilerplates/\x7b\x7d.zip', $.repository)")),
    ("ArtifactsOverride", .object [
      ("Type", str "S3"),
      ("Location", str d.artifactBucket),
      ("NamespaceType", str "NONE"),
      ("Name.$", str "$.repository"),
      ("Path.$", str "States.Format('executions/\x7b\x7d', $$.Execution.Name)")]),
    ("EnvironmentVariablesOverride.$", str "$.serializedEnvironmentVariables")]

def aggregateState (function : Json) : Json :=
  .object [
    ("Type", str "Task"),
    ("Resource", str "arn:aws:states:::lambda:invoke"),
    ("Parameters", .object [("FunctionName", function), ("Payload.$", str "$$.Execution")]),
    ("ResultSelector", .object [("outputs.$", str "$.Payload")]),
    ("ResultPath", str "$.DeploymentOutput"),
    ("End", .bool true)]

def render (d : PipelineDefinition) : Json :=
  let package := Stage.packageItems.name
  let deploy := Stage.deployItems.name
  let aggregate := Stage.aggregateOutputs.name
  .object [
    ("Comment", str "Package and deploy boilerplate repositories, then aggregate their outputs"),
    ("StartAt", str Stage.serializeParameters.name),
    ("States", .object [
      (Stage.serializeParameters.name, serializeState (str d.serializeFunction) package),
      (package, mapState [] (iterator "PackageItem" d.packageTask) deploy),
      (deploy, mapState
        [("serializedEnvironmentVariables.$",
          str "$.SerializedResult.serializedEnvironmentalOverrides")]
        (iterator "DeployItem" d.deployTask) aggregate),
      (aggregate, aggregateState (str d.aggregateFunction)),
      (failState, .object [("Type", str "Fail")])])]

def toJson (d : PipelineDefinition) : Json :=
  .object [
    ("serialize_function_arn", str d.serializeFunction),
    ("aggregate_function_arn", str d.aggregateFunction),
    ("package_project", str d.packageProject),
    ("deploy_project", str d.deployProject),
    ("artifact_bucket", str d.artifactBucket)]

def decode : Decoder PipelineDefinition := fun depth doc => do
  let [serialize, aggregate, package, deploy, bucket] ← Decoder.record
    [["serialize_function_arn"], ["aggregate_function_arn"], ["package_project"],
      ["deploy_project"], ["artifact_bucket"]] depth doc | none
  some {
    serializeFunction := ← serialize.required .string
    aggregateFunction := ← aggregate.required .string
    packageProject := ← package.required .string
    deployProject := ← deploy.required .string
    artifactBucket := ← bucket.required .string }

instance : Codec PipelineDefinition := ⟨decode, toJson⟩

end PipelineDefinition

end Rollout
