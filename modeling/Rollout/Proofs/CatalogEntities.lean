import Mathlib.Data.List.ReduceOption
import Rollout.Catalog.Portal
import Rollout.Proofs.BuildVariables
import Rollout.Proofs.DocumentMeaning

/-!
The entities of the catalog: what its documents say of them, and which of them stand for a
provider. Relations and items are taken one by one in the order they are written in; a null
item is left out.
-/

namespace Rollout.Catalog

/-- A relation as the catalog writes it. -/
def Relation.Written : Meaning Relation := fun depth doc r =>
  ∃ type target, Decoder.record [["type"], ["targetRef"]] depth doc = some [type, target] ∧
    type.required .string = some r.type ∧ target.required .string = some r.target

theorem Relation.decode_reads : Relation.decode.Reads Relation.Written := by
  refine ⟨@fun depth doc r => ⟨fun read => ?_, ?_⟩⟩
  · obtain ⟨slots, recorded, read⟩ := Option.bind_eq_some_iff.mp read
    split at read
    · obtain ⟨_, type, read⟩ := Option.bind_eq_some_iff.mp read
      obtain ⟨_, target, read⟩ := Option.bind_eq_some_iff.mp read
      cases read
      exact ⟨_, _, recorded, type, target⟩
    · cases read
  · rintro ⟨_, _, recorded, type, target⟩
    simp [decode, recorded, type, target]

/-- An entity as the catalog writes it; its relations may be left out. -/
def Entity.Written : Meaning Entity := fun depth doc e =>
  ∃ metadata relations, Decoder.record [["metadata"], ["relations"]] depth doc =
      some [metadata, relations] ∧
    metadata.required (.dict .json) = some e.metadata ∧
    (Meaning.Each Relation.Written).Field (some []) relations e.relations

theorem Entity.decode_reads : Entity.decode.Reads Entity.Written := by
  have listed := Decoder.list_reads Relation.decode_reads
  refine ⟨@fun depth doc e => ⟨fun read => ?_, ?_⟩⟩
  · obtain ⟨slots, recorded, read⟩ := Option.bind_eq_some_iff.mp read
    split at read
    · obtain ⟨_, metadata, read⟩ := Option.bind_eq_some_iff.mp read
      obtain ⟨_, relations, read⟩ := Option.bind_eq_some_iff.mp read
      cases read
      exact ⟨_, _, recorded, metadata, (Slot.withDefault_iff listed).mp relations⟩
    · cases read
  · rintro ⟨_, _, recorded, metadata, relations⟩
    simp [decode, recorded, metadata, (Slot.withDefault_iff listed).mpr relations]

/-- The items of an answer as the catalog writes them. A null stands for one it could not find,
and is left out. -/
def Entity.WrittenItems : Meaning (List Entity) := fun depth doc found =>
  ∃ listing items, Decoder.record [["items"]] depth doc = some [listing] ∧
    (Meaning.Each (Meaning.Nullable Entity.Written)).Field none listing items ∧
    items.reduceOption = found

theorem Entity.decodeItems_reads : Entity.decodeItems.Reads Entity.WrittenItems := by
  have listed := Decoder.list_reads (Decoder.option_reads Entity.decode_reads)
  refine ⟨@fun depth doc found => ⟨fun read => ?_, ?_⟩⟩
  · obtain ⟨slots, recorded, read⟩ := Option.bind_eq_some_iff.mp read
    split at read
    · obtain ⟨_, items, read⟩ := Option.bind_eq_some_iff.mp read
      cases read
      exact ⟨_, _, recorded, (Slot.required_iff listed).mp items, rfl⟩
    · cases read
  · rintro ⟨_, _, recorded, items, rfl⟩
    simp [decodeItems, recorded, (Slot.required_iff listed).mpr items, List.reduceOption]

namespace Entity

/-- The targets an environment depends on that are providers, in their order and with repeats. -/
def targets (e : Entity) : List String :=
  (e.relations.filter fun r => r.type = "dependencyOf" ∧
    "awsenvironmentprovider".toList <+: r.target.toList).map Relation.target

theorem isProviderRelation_iff (r : Relation) : isProviderRelation r = true ↔
    r.type = "dependencyOf" ∧ "awsenvironmentprovider".toList <+: r.target.toList := by
  rw [isProviderRelation, Bool.and_eq_true, decide_eq_true_iff, List.isPrefixOf_iff_prefix]
  rfl

theorem providerRefs_eq (e : Entity) : e.providerRefs = e.targets := by
  refine congrArg (List.map Relation.target) (List.filter_congr fun r _ => ?_)
  rw [Bool.eq_iff_iff, isProviderRelation_iff, decide_eq_true_iff]

/-- The entries a provider is made of. -/
def requiredKeys : List String := ["name", "aws-account", "aws-region", "vpc", "cluster-name"]

/-- No required entry is missing, whatever their values are. -/
def Complete (e : Entity) : Prop := ∀ key ∈ requiredKeys, key ∈ e.metadata.keys

instance : DecidablePred Complete := fun e =>
  inferInstanceAs (Decidable (∀ key ∈ requiredKeys, key ∈ e.metadata.keys))

/-- There is such an entry, and its value is handed on as the text. -/
def Carries (e : Entity) (key text : String) : Prop :=
  ∃ value, e.metadata.get? key = some value ∧ value.CarriedAs text

/-- The provider has the values of the entity's entries. -/
structure StandsFor (environment : String) (e : Entity) (provider : Provider) : Prop where
  name : e.Carries "name" provider.providerName
  account : e.Carries "aws-account" provider.accountId
  region : e.Carries "aws-region" provider.region
  vpc : e.Carries "vpc" provider.vpcPath
  cluster : e.Carries "cluster-name" provider.clusterPath
  environment : provider.environmentName = environment

variable {e : Entity} {key text environment : String} {provider : Provider}

theorem text?_iff : e.text? key = some text ↔ e.Carries key text := by
  simp only [text?, Option.map_eq_some_iff, Carries, Json.carriedAs_iff]

theorem provider?_iff : e.provider? environment = some provider ↔
    e.StandsFor environment provider := by
  simp only [provider?, Option.bind_eq_bind, Option.bind_eq_some_iff, Option.some.injEq, text?_iff]
  constructor
  · rintro ⟨_, name, _, account, _, region, _, vpc, _, cluster, rfl⟩
    exact ⟨name, account, region, vpc, cluster, rfl⟩
  · rintro ⟨name, account, region, vpc, cluster, rfl⟩
    exact ⟨_, name, _, account, _, region, _, vpc, _, cluster, rfl⟩

theorem complete_iff (environment : String) :
    e.Complete ↔ ∃ provider, e.StandsFor environment provider := by
  have carried : e.Complete ↔ ∀ key ∈ requiredKeys, ∃ text, e.Carries key text := by
    refine forall₂_congr fun key _ => Dict.mem_keys.trans ⟨?_, ?_⟩
    · rintro ⟨value, found⟩
      exact ⟨_, value, found, value.carriedAs_asText⟩
    · rintro ⟨_, value, found, _⟩
      exact ⟨value, found⟩
  simp only [carried, requiredKeys, List.forall_mem_cons, List.not_mem_nil, false_imp_iff,
    implies_true, and_true]
  constructor
  · rintro ⟨⟨name, one⟩, ⟨account, two⟩, ⟨region, three⟩, ⟨vpc, four⟩, ⟨cluster, five⟩⟩
    exact ⟨⟨account, region, vpc, cluster, environment, name⟩, one, two, three, four, five, rfl⟩
  · rintro ⟨provider, name, account, region, vpc, cluster, _⟩
    exact ⟨⟨_, name⟩, ⟨_, account⟩, ⟨_, region⟩, ⟨_, vpc⟩, _, cluster⟩

/-- Complete entities alone make providers, one each and in their order. -/
theorem providers_iff {items : List Entity} {providers : List Provider} :
    List.Forall₂ (StandsFor environment) (items.filter Complete) providers ↔
      items.filterMap (·.provider? environment) = providers := by
  -- A complete item is the next provider, any other is passed over.
  induction items generalizing providers with
  | nil => simp [eq_comm]
  | cons item rest ih =>
      by_cases complete : item.Complete
      · obtain ⟨first, stands⟩ := (complete_iff environment).mp complete
        have made := provider?_iff.mpr stands
        rw [List.filter_cons_of_pos (by simpa using complete), List.filterMap_cons, made,
          List.forall₂_cons_left_iff]
        constructor
        · rintro ⟨other, others, stands', each, rfl⟩
          obtain rfl := Option.some.inj (made.symm.trans (provider?_iff.mpr stands'))
          rw [ih.mp each]
        · rintro rfl
          exact ⟨first, _, stands, ih.mpr rfl, rfl⟩
      · have missed : item.provider? environment = none := by
          rw [Option.eq_none_iff_forall_ne_some]
          intro provider made
          exact complete ((complete_iff environment).mpr ⟨provider, provider?_iff.mp made⟩)
        rw [List.filter_cons_of_neg (by simpa using complete), List.filterMap_cons, missed, ih]

end Entity

/-- The name an environment goes by: its own if the catalog gives one, else the one asked for. -/
inductive Entity.Named (environment : EntityRef) (e : Entity) : String → Prop
  | own {name : String} (carries : e.Carries "name" name) : Named environment e name
  | asked (missing : e.metadata.get? "name" = none) : Named environment e environment.name

theorem Entity.named_iff {environment : EntityRef} {e : Entity} {name : String} :
    e.Named environment name ↔ Portal.environmentName environment e = name := by
  constructor
  · rintro (carries | missing)
    · rw [Portal.environmentName, text?_iff.mpr carries, Option.getD_some]
    · rw [Portal.environmentName, text?, missing, Option.map_none, Option.getD_none]
  · rintro rfl
    unfold Portal.environmentName
    cases found : e.text? "name" with
    | none => exact .asked (Option.map_eq_none_iff.mp found)
    | some name => exact .own (text?_iff.mp found)

end Rollout.Catalog
