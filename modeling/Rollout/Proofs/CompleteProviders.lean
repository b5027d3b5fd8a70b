import Rollout.Proofs.Deploying
import Rollout.Proofs.ProviderLookup

/-!
What a provider is made of. It comes from an entity that has all the required entries; whether
they have values is not looked at, so a null is handed on as a text. An environment none of
whose entities has all entries is not deployed to.
-/

namespace Rollout

/-- The texts of a provider that come from the metadata of its entity. -/
def Provider.texts (p : Provider) : List String :=
  [p.providerName, p.accountId, p.region, p.vpcPath, p.clusterPath]

namespace Catalog

namespace Entity

variable {e : Entity} {key text environment : String} {provider : Provider}

/-- All required entries have a value. -/
def Valued (e : Entity) : Prop :=
  ∀ key ∈ requiredKeys, ∃ value, e.metadata.get? key = some value ∧ value ≠ .null

theorem carries_valued (carries : e.Carries key text) (other : text ≠ "null") :
    ∃ value, e.metadata.get? key = some value ∧ value ≠ .null := by
  obtain ⟨value, found, carried⟩ := carries
  refine ⟨value, found, ?_⟩
  rintro rfl
  exact other (Json.carriedAs_iff.mp carried).symm

/-- A provider without the text of a null has the values of its entity. -/
theorem stands_valued (stands : e.StandsFor environment provider)
    (named : "null" ∉ provider.texts) : e.Valued := by
  simp only [Provider.texts, List.mem_cons, List.not_mem_nil, or_false, not_or] at named
  obtain ⟨name, account, region, vpc, cluster⟩ := named
  simp only [Valued, requiredKeys, List.forall_mem_cons, List.not_mem_nil, false_imp_iff,
    implies_true, and_true]
  exact ⟨carries_valued stands.name (Ne.symm name),
    carries_valued stands.account (Ne.symm account), carries_valued stands.region (Ne.symm region),
    carries_valued stands.vpc (Ne.symm vpc), carries_valued stands.cluster (Ne.symm cluster)⟩

end Entity

namespace Portal

/-- The entity is an item of the answer to the second request. -/
def Offers (traffic : Traffic) (e : Entity) : Prop :=
  ∃ first sent status body items, traffic = [first, ⟨sent, .answered status body⟩] ∧
    Http.isSuccess status = true ∧ Entity.WrittenItems.Text (Http.contentOf status body) items ∧
    e ∈ items

variable {p : Portal} {environment : EntityRef} {traffic : Traffic} {providers : List Provider}

/-- A look-up without an error has asked for the environment alone, or was offered the items its
providers come from. -/
theorem looked_ok (looked : p.Looked environment traffic (.ok providers)) :
    (providers = [] ∧ ∀ e, ¬ Offers traffic e) ∨
      ∃ (items : List Entity) (name : String), (∀ e, Offers traffic e ↔ e ∈ items) ∧
        List.Forall₂ (Entity.StandsFor name) (items.filter Entity.Complete) providers := by
  obtain _ | ⟨fetched, followed⟩ := looked
  obtain _ | ⟨_, _⟩ := fetched
  cases followed with
  | lonely alone =>
      refine Or.inl ⟨rfl, ?_⟩
      rintro _ ⟨_, _, _, _, _, two, _⟩
      cases two
  | listed targets fetched named stand =>
      obtain _ | ⟨sends, success, meant⟩ := fetched
      refine Or.inr ⟨_, _, fun e => ⟨?_, ?_⟩, stand⟩
      · rintro ⟨_, _, _, _, items, same, _, meant', member⟩
        cases same
        obtain rfl := Decoder.text_unique Entity.decodeItems_reads meant meant'
        exact member
      · intro member
        exact ⟨_, _, _, _, _, rfl, success, meant, member⟩

end Portal

end Catalog

namespace Deployment

variable {settings : DeploymentSettings} {request : DeploymentRequest} {environment : EntityRef}

theorem resolved_first {journal : Journal} {context : DeploymentContext}
    (resolved : Resolved settings request journal (.ok context)) :
    ∃ environment provider others after,
      journal = ⟨.call (.providers environment), .ok (provider :: others)⟩ :: after := by
  obtain _ | _ | _ | ⟨_, _⟩ := resolved
  exact ⟨_, _, _, _, rfl⟩

theorem started_first {journal : Journal} {started : StartedDeployment}
    (way : Started settings request journal (.ok started)) :
    ∃ environment provider others after,
      journal = ⟨.call (.providers environment), .ok (provider :: others)⟩ :: after := by
  obtain _ | _ | _ | _ | ⟨resolved, _⟩ := way
  obtain ⟨environment, provider, others, after, rfl⟩ := resolved_first resolved
  exact ⟨environment, provider, others, _, rfl⟩

/-- A deployment that is told of no provider ends there. -/
theorem plan_empty {polls : Nat} {after : Journal}
    {outcome : Option (Except DeploymentError DeploymentResult)}
    (ran : (plan settings polls request).Ran
      (⟨.call (.providers environment), .ok []⟩ :: after) outcome) :
    after = [] ∧ outcome = some (.error (.catalog (.noProviders environment.text))) := by
  rcases plan_ran ran with ⟨e, rfl, way⟩ | ⟨first, second, started, journal, way, _⟩
  · -- Of the ways to an error before the watch only one has this answer.
    generalize whole : (_ :: after : Journal) = journal at way
    cases way with
    | invalid => cases whole
    | unresolved resolved =>
        cases resolved with
        | empty =>
            cases whole
            exact ⟨rfl, rfl⟩
        | malformed | unlisted | listed => cases whole
    | unencoded resolved | rejected resolved =>
        obtain ⟨_, _, _, _, rfl⟩ := resolved_first resolved
        cases whole
  · obtain ⟨_, _, _, _, rfl⟩ := started_first way
    cases journal

end Deployment

namespace Catalog.Portal

variable {p : Portal} {environment : EntityRef} {traffic : Traffic} {providers : List Provider}

/-- No provider comes from an entity without a required entry, and a deployment of an environment
that has only such entities ends before anything else is asked. An entry that is null counts as
one that is there; the provider has its text then. -/
theorem incomplete_not_deployed
    (looked : (p.lookup environment).Ran traffic (some (.ok providers))) :
    (∀ provider ∈ providers, ∃ e name, Offers traffic e ∧ e.Complete ∧
      e.StandsFor name provider ∧ ("null" ∈ provider.texts ∨ e.Valued)) ∧
    (providers = [] ↔ ∀ e, Offers traffic e → ¬ e.Complete) ∧
    ∀ {settings : DeploymentSettings} {polls : Nat} {request : DeploymentRequest}
      {after : Journal} {outcome : Option (Except DeploymentError DeploymentResult)},
      (∀ e, Offers traffic e → ¬ e.Complete) →
      (Deployment.plan settings polls request).Ran
        (⟨.call (.providers environment), .ok providers⟩ :: after) outcome →
      after = [] ∧ outcome = some (.error (.catalog (.noProviders environment.text))) := by
  obtain ⟨_, same, looked⟩ := lookup_ran.mp looked
  obtain rfl := Option.some.inj same
  have empty : providers = [] ↔ ∀ e, Offers traffic e → ¬ e.Complete := by
    rcases looked_ok looked with ⟨none, unoffered⟩ | ⟨items, name, offers, stand⟩
    · exact ⟨fun _ e offered => absurd offered (unoffered e), fun _ => none⟩
    · have none : items.filter Entity.Complete = [] ↔ ∀ e ∈ items, ¬ e.Complete := by
        simp [List.filter_eq_nil_iff]
      simp only [offers, ← none, ← List.length_eq_zero_iff, stand.length_eq]
  refine ⟨?_, empty, ?_⟩
  · intro provider member
    rcases looked_ok looked with ⟨rfl, _⟩ | ⟨items, name, offers, stand⟩
    · cases member
    · rw [← Entity.providers_iff.mp stand] at member
      obtain ⟨e, inside, made⟩ := List.mem_filterMap.mp member
      have stands := Entity.provider?_iff.mp made
      have complete := (Entity.complete_iff name).mpr ⟨_, stands⟩
      refine ⟨e, name, (offers e).mpr inside, complete, stands, ?_⟩
      by_cases null : "null" ∈ provider.texts
      · exact Or.inl null
      · exact Or.inr (Entity.stands_valued stands null)
  · intro settings polls request after outcome incomplete ran
    obtain rfl := empty.mpr incomplete
    exact Deployment.plan_empty ran

theorem sample_incomplete_not_deployed :
    (∃ e name, Offers (Sample.traffic (some true)) e ∧ e.Complete ∧ e.StandsFor name
      ⟨"12", "us-east-1", "/vpc", "/cluster", "dev", "east"⟩ ∧ e.Valued) ∧
    ∃ after outcome,
      (Deployment.plan Deployment.Sample.settings 1 Deployment.Sample.request).Ran
        (⟨.call (.providers Sample.reference), .ok []⟩ :: after) outcome ∧
      after = [] ∧
      outcome = some (.error (.catalog (.noProviders "awsenvironment:default/dev"))) := by
  constructor
  · have whole : (Sample.portal.lookup Sample.reference).Ran (Sample.traffic (some true)) _ :=
      lookup_ran.mpr ⟨_, rfl, Sample.looked (some true)⟩
    obtain ⟨e, name, offered, complete, stands, null | valued⟩ :=
      (incomplete_not_deployed whole).1 _ List.mem_cons_self
    · exact absurd null (by decide)
    · exact ⟨e, name, offered, complete, stands, valued⟩
  · have lacking : (Sample.portal.lookup Sample.reference).Ran (Sample.traffic none) _ :=
      lookup_ran.mpr ⟨_, rfl, Sample.looked none⟩
    obtain ⟨-, empty, ends⟩ := incomplete_not_deployed lacking
    have valid : Deployment.Sample.request.validate = .ok () := by decide +kernel
    have parsed : EntityRef.parse Deployment.Sample.request.environmentRef =
        .ok Sample.reference := by decide +kernel
    have ran : (Deployment.plan Deployment.Sample.settings 1 Deployment.Sample.request).Ran
        [⟨.call (.providers Sample.reference), .ok []⟩]
        (some (.error (.catalog (.noProviders Sample.reference.text)))) := by
      unfold Deployment.plan Deployment.startPlan Deployment.resolve Deployment.firstProvider
      rw [valid, parsed]
      exact .ask _ (.done _)
    exact ⟨_, _, ran, ends (empty.mp rfl) ran⟩

/-- A network that is null passes for a network, and is looked up as one called `null`. -/
theorem null_entry_provides :
    (Sample.portal.lookup Sample.reference).Ran (Sample.traffic (some false))
      (some (.ok [⟨"12", "us-east-1", "null", "/cluster", "dev", "east"⟩])) ∧
    ∀ e, Offers (Sample.traffic (some false)) e → ¬ e.Valued := by
  refine ⟨lookup_ran.mpr ⟨_, rfl, Sample.looked (some false)⟩, ?_⟩
  rintro e ⟨_, _, _, _, items, same, _, meant, member⟩ valued
  cases same
  obtain rfl := Decoder.text_unique Entity.decodeItems_reads meant (Sample.items_meant (some false))
  obtain rfl := List.mem_singleton.mp member
  obtain ⟨value, found, present⟩ := valued "vpc" (by decide)
  have null : (Sample.item (some false)).metadata.get? "vpc" = some .null := rfl
  exact present (Option.some.inj (found.symm.trans null))

end Catalog.Portal

end Rollout
