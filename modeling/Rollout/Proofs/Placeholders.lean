import Mathlib.Data.List.Induction
import Rollout.Local.Setup
import Rollout.Proofs.Runs

/-!
The placeholders of a world made from the configuration alone. They are put one
after the other for an account and a path, so providers of one account that name
one path share what is read there: the last value that was put.
-/

namespace Rollout

open Time (Instant)

theorem Time.Instant.secondsSince_addSeconds {t : Instant} (whole : t.nanos < nanosPerSecond)
    (seconds : Int) : (t.addSeconds seconds).secondsSince t = seconds := by
  have plain : t.isLeapSecond = false := decide_eq_false (Nat.not_le_of_lt whole)
  have plain' : (t.addSeconds seconds).isLeapSecond = false := plain
  have between : leapBetween (t.addSeconds seconds) t = 0 := by
    simp [leapBetween, plain, plain']
  have apart : nanosSince (t.addSeconds seconds) t = seconds * nanosPerSecond := by
    have shifted : t.seconds + seconds - t.seconds = seconds := by omega
    rw [nanosSince, between, addSeconds]
    simp [shifted]
  rw [secondsSince, apart]
  exact Int.mul_tdiv_cancel _ (by decide)

namespace Local

namespace Setup

variable (m : Manifest)

/-- What is put for the providers, each value for an account and a path. -/
def placements (providers : List Provider) : List ((String × String) × String) :=
  providers.flatMap fun p => (parametersOf m p).map fun entry => ((p.accountId, entry.1), entry.2)

/-- The values an account is given at a path, the oldest first. -/
def placed (providers : List Provider) (account path : String) : List String :=
  ((placements m providers).filter (·.1 == (account, path))).map Prod.snd

theorem foldl_put (account : String) (entries : List (String × String)) (s : ParameterStore) :
    entries.foldl (fun s entry => s.put account entry.1 entry.2) s =
      { s with
        values :=
          (entries.map fun entry => ((account, entry.1), entry.2)).reverse ++ s.values } := by
  induction entries generalizing s with
  | nil => rfl
  | cons entry rest ih =>
      rw [List.foldl_cons, ih]
      simp [ParameterStore.put]

theorem foldl_provide (providers : List Provider) (s : ParameterStore) :
    providers.foldl (provide m) s =
      { s with values := (placements m providers).reverse ++ s.values } := by
  induction providers generalizing s with
  | nil => rfl
  | cons p rest ih =>
      rw [List.foldl_cons, ih, provide, foldl_put]
      simp [placements]

/-- The newest value counts, and it is the last one that was put. -/
theorem lookup_reverse (entries : List ((String × String) × String)) (key : String × String) :
    entries.reverse.lookup key =
      ((entries.filter (·.1 == key)).map Prod.snd).getLast? := by
  induction entries using List.reverseRecOn with
  | nil => rfl
  | append_singleton rest entry ih =>
      obtain ⟨place, value⟩ := entry
      by_cases same : place = key
      · subst place
        simp
      · have apart : (key == place) = false := beq_eq_false_iff_ne.mpr (Ne.symm same)
        simp [List.lookup_cons, apart, ih, beq_eq_false_iff_ne.mpr same]

variable {m} {providers : List Provider}

/-- A provider puts its values for the account as it is configured. -/
theorem mem_placed {account path value : String} :
    value ∈ placed m providers account path ↔
      ∃ p ∈ providers, p.accountId = account ∧ (path, value) ∈ parametersOf m p := by
  constructor
  · intro member
    obtain ⟨⟨place, _⟩, inside, rfl⟩ := List.mem_map.mp member
    obtain ⟨inside, here⟩ := List.mem_filter.mp inside
    obtain rfl := beq_iff_eq.mp here
    obtain ⟨p, listed, puts⟩ := List.mem_flatMap.mp inside
    obtain ⟨⟨_, _⟩, put, same⟩ := List.mem_map.mp puts
    cases same
    exact ⟨p, listed, rfl, put⟩
  · rintro ⟨p, listed, rfl, put⟩
    refine List.mem_map.mpr ⟨((p.accountId, path), value), ?_, rfl⟩
    refine List.mem_filter.mpr ⟨?_, beq_self_eq_true _⟩
    exact List.mem_flatMap.mpr ⟨p, listed, List.mem_map.mpr ⟨_, put, rfl⟩⟩

/-- No placeholder is an empty text. -/
theorem placed_filled {account path value : String}
    (member : value ∈ placed m providers account path) : value.isEmpty = false := by
  obtain ⟨p, _, _, put⟩ := mem_placed.mp member
  have filled : ∀ entry ∈ parametersOf m p, entry.2.isEmpty = false := by
    simp [parametersOf, stateMachineName]
  exact filled _ put

end Setup

/-- A world made from the configuration, its environments gone through in some order. -/
def World.ofOrder (m : Manifest) (order : List (String × List Provider)) (runner : Runner)
    (now : Instant) (seed : Nat) : World :=
  { World.ofManifest m runner now seed with
    parameters := (order.flatMap (·.2)).foldl (Setup.provide m) {} }

theorem World.ofManifest_eq (m : Manifest) (runner : Runner) (now : Instant) (seed : Nat) :
    World.ofManifest m runner now seed =
      World.ofOrder m m.spec.catalog.environments.entries runner now seed := rfl

namespace World

variable {w : World}

@[simp] theorem run_ask {α : Type} (c : Call) (next : c.Answer → Program α) :
    w.run (.ask c next) = (w.answer c).2.run (next (w.answer c).1) := rfl

theorem run_readParameter {grant : Grant} {path value : String} (fine : w.parameters.failing = [])
    (found : w.parameters.values.lookup (grant.account.text, path) = some value)
    (filled : value.isEmpty = false) :
    w.run (readParameter grant path) = (some (.ok value), w) := by
  have answer : w.answer (.parameter grant path) = (.ok (some value), w) := by
    simp [World.answer, ParameterStore.get, fine, found]
  change w.run (.ask (.parameter grant path) _) = _
  rw [run_ask, answer]
  change (some (if value.isEmpty then _ else _), w) = _
  rw [filled]
  rfl

theorem clock_whole (clock : Schedule.Clock) : clock.now.nanos < Instant.nanosPerSecond :=
  Nat.mod_lt _ (by decide)

/-- Credentials of the development issuer last for the time that was asked for. -/
theorem ofIssued_development {now : Instant} (whole : now.nanos < Instant.nanosPerSecond)
    (account : AccountId) (region : Region) (role : RoleArn) (requester : Requester)
    {request : AssumeRole} (lasting : request.durationSeconds ≠ 0) :
    ∃ grant, Grant.ofIssued account region role requester (Issuer.development request now) now =
        .ok grant ∧ grant.account = account := by
  refine ⟨Grant.ofIssued.grant account region role requester (Issuer.development request now)
    request.durationSeconds, ?_, rfl⟩
  simp [Grant.ofIssued, Issuer.development, Grant.remaining,
    Instant.secondsSince_addSeconds whole, lasting]

/-- By convention a role has its name, and the development issuer hands out credentials for it. -/
theorem run_federate {settings : FederationSettings} (strategy : settings.strategy = .convention)
    (fresh : w.issuer = {}) {accountText regionText : String} {account : AccountId}
    {region : Region} (parsed : AccountId.parse accountText = .ok account)
    (parsed' : Region.parse regionText = .ok region) (provider : String) (requester : Requester) :
    ∃ grant world, w.run (Federation.federate settings accountText regionText provider requester) =
        (some (.ok grant), world) ∧
      grant.account = account ∧ world.parameters = w.parameters := by
  let request : AssumeRole := {
    role := .ofConvention account settings.platform provider
    sessionName := Federation.sessionName requester settings.sessionSuffix
    durationSeconds := Grant.longestLifetime
    region }
  have lasting : request.durationSeconds ≠ 0 := show 3600 ≠ 0 by decide
  obtain ⟨grant, issued, target⟩ :=
    ofIssued_development (clock_whole w.clock) account region request.role requester lasting
  have issuing : w.issuer.assume request w.clock.now =
      (.ok (Issuer.development request w.clock.now), { w.issuer with requests := [request] }) := by
    simp [Issuer.assume, Issuer.answer, fresh]
  -- The issuer alone is asked, and all it keeps is the request.
  refine ⟨grant, { w with issuer := { w.issuer with requests := [request] } }, ?_, target, rfl⟩
  simp only [Federation.federate, parsed, parsed', Federation.resolveRole, strategy]
  change (World.run _ (.ask (.assumeRole request) _)) = _
  rw [run_ask, World.answer, issuing]
  change (some ((Grant.ofIssued account region request.role requester
    (Issuer.development request w.clock.now) w.clock.now).mapError _), _) = _
  rw [issued]
  rfl

/-- What a grant reads at a path of its account: the value put there last. A value that fits is
among those put there, and if all of them fit, so does what is read. -/
structure Serves (m : Manifest) (providers : List Provider) (w : World) (grant : Grant)
    (path : String) (fits : String → Prop) : Prop where
  own : ∃ value ∈ Setup.placed m providers grant.account.text path, fits value
  read : ∃ value, w.run (readParameter grant path) = (some (.ok value), w) ∧
    (Setup.placed m providers grant.account.text path).getLast? = some value ∧
    ((∀ other ∈ Setup.placed m providers grant.account.text path, fits other) → fits value)

theorem serves_placed {m : Manifest} {providers : List Provider} {grant : Grant}
    {path value : String} {fits : String → Prop}
    (filled : w.parameters = providers.foldl (Setup.provide m) {})
    (member : value ∈ Setup.placed m providers grant.account.text path) (fit : fits value) :
    Serves m providers w grant path fits := by
  refine ⟨⟨value, member, fit⟩, ?_⟩
  rw [Setup.foldl_provide] at filled
  have newest := List.getLast?_eq_some_getLast (List.ne_nil_of_mem member)
  have last := List.getLast_mem (List.ne_nil_of_mem member)
  refine ⟨_, run_readParameter ?_ ?_ (Setup.placed_filled last), newest, fun all => all _ last⟩
  · rw [filled]
  · rw [filled, List.append_nil, Setup.lookup_reverse]
    exact newest

end World

open World (Serves)

/-- The grant of every configured provider reads the placeholders of its account, in whatever order
the environments are gone through; they are its own unless the account has others at the path.
An account configured with blanks around it is left out (`verbatim`): its placeholders are put
under the text as configured and would be read under the account without the blanks. -/
theorem placeholders_served {m : Manifest} (strategy : m.spec.federation.strategy = .convention)
    {order : List (String × List Provider)}
    (arranged : order.Perm m.spec.catalog.environments.entries) {environment : String}
    {listed : List Provider}
    (configured : (environment, listed) ∈ m.spec.catalog.environments.entries)
    {p : Provider} (member : p ∈ listed) {account : AccountId} {region : Region}
    (parsed : AccountId.parse p.accountId = .ok account) (verbatim : account.text = p.accountId)
    (parsed' : Region.parse p.region = .ok region) (requester : Requester) (runner : Runner)
    (now : Instant) (seed : Nat) :
    ∃ grant w, (World.ofOrder m order runner now seed).run
        (Federation.federate m.deploymentSettings.federation p.accountId p.region p.providerName
          requester) = (some (.ok grant), w) ∧
      grant.account = account ∧
      Serves m (order.flatMap (·.2)) w grant p.vpcPath (· = "vpc-" ++ p.providerName) ∧
      Serves m (order.flatMap (·.2)) w grant p.clusterPath
        (("cluster/" ++ p.providerName).toList <:+ ·.toList) ∧
      Serves m (order.flatMap (·.2)) w grant m.spec.parameters.stateMachinePath
        ("opa-local-pipeline".toList <:+ ·.toList) ∧
      Serves m (order.flatMap (·.2)) w grant
        (Audit.tablePath m.spec.federation.platform p.providerName)
        (· = p.providerName ++ "-audit") := by
  have named : m.deploymentSettings.federation.strategy = .convention := strategy
  obtain ⟨grant, w, granted, target, parameters⟩ := World.run_federate
    (w := World.ofOrder m order runner now seed) named rfl parsed parsed' p.providerName requester
  have inside : p ∈ order.flatMap (·.2) :=
    List.mem_flatMap.mpr ⟨_, arranged.mem_iff.mpr configured, member⟩
  -- What is read is kept under the account that was parsed, what is put under the one configured.
  have mine (path value : String) (put : (path, value) ∈ Setup.parametersOf m p) :
      value ∈ Setup.placed m (order.flatMap (·.2)) grant.account.text path := by
    rw [target, verbatim]
    exact Setup.mem_placed.mpr ⟨p, inside, rfl, put⟩
  refine ⟨grant, w, granted, target, ?_, ?_, ?_, ?_⟩
  · exact World.serves_placed parameters (mine _ ("vpc-" ++ p.providerName) (.head _)) rfl
  · refine World.serves_placed parameters (mine _ _ (.tail _ (.head _))) ?_
    exact ⟨("arn:aws:ecs:" ++ p.region ++ ":" ++ p.accountId ++ ":").toList, by simp⟩
  · refine World.serves_placed parameters (mine _ _ (.tail _ (.tail _ (.head _)))) ?_
    exact ⟨("arn:aws:states:" ++ p.region ++ ":" ++ p.accountId ++ ":stateMachine:").toList, by
      simp [stateMachineName]⟩
  · have put : (Audit.tablePath m.spec.federation.platform p.providerName,
        p.providerName ++ "-audit") ∈ Setup.parametersOf m p := by simp [Setup.parametersOf]
    exact World.serves_placed parameters (mine _ _ put) rfl

namespace Sample

/-- Another provider of the account of `provider`, with the same paths. -/
def west : Provider := { Sample.provider with providerName := "west" }

/-- A provider with the paths of `provider` in an account of its own. -/
def north : Provider :=
  { Sample.provider with accountId := "333344445555", providerName := "north" }

def manifest (environments : Dict (List Provider)) : Manifest :=
  { Manifest.default with spec := { catalog := { environments } } }

def shared : Manifest := manifest (Dict.ofList [("dev", [Sample.provider, west])])

def apart : Manifest := manifest (Dict.ofList [("dev", [Sample.provider]), ("prod", [north])])

theorem account_read : AccountId.parse Sample.provider.accountId = .ok ⟨"000011112222"⟩ := rfl

theorem region_read : Region.parse Sample.provider.region = .ok ⟨"us-east-1"⟩ := rfl

end Sample

/-- Of two providers that share an account and a path the first reads what the second is given. -/
theorem sample_shared_path :
    Sample.shared.fault? = none ∧ Sample.shared.spec.federation.strategy = .convention ∧
    Sample.shared.spec.catalog.baseUrl = none ∧
    Sample.shared.spec.catalog.environments.get? "dev" = some [Sample.provider, Sample.west] ∧
    AccountId.parse Sample.provider.accountId = .ok ⟨"000011112222"⟩ ∧
    Region.parse Sample.provider.region = .ok ⟨"us-east-1"⟩ ∧
    ∃ grant w, (World.ofManifest Sample.shared {} .epoch 0).run
        (Federation.federate Sample.shared.deploymentSettings.federation Sample.provider.accountId
          Sample.provider.region Sample.provider.providerName ⟨"ada", []⟩) =
        (some (.ok grant), w) ∧
      w.run (readParameter grant Sample.provider.vpcPath) = (some (.ok "vpc-west"), w) ∧
      "vpc-west" ≠ "vpc-" ++ Sample.provider.providerName := by
  refine ⟨by decide, rfl, rfl, by decide, Sample.account_read, Sample.region_read, ?_⟩
  have named : Sample.shared.deploymentSettings.federation.strategy = .convention := rfl
  obtain ⟨grant, w, granted, target, parameters⟩ := World.run_federate
    (w := World.ofManifest Sample.shared {} .epoch 0) named rfl Sample.account_read
    Sample.region_read "east" ⟨"ada", []⟩
  refine ⟨grant, w, granted, World.run_readParameter ?_ ?_ (by decide), by decide⟩
  · rw [parameters]
    rfl
  · rw [parameters, target]
    decide +kernel

/-- Providers of two accounts have their own values, whichever environment comes first. -/
theorem sample_placeholders_served :
    ∃ grant w, (World.ofOrder Sample.apart Sample.apart.spec.catalog.environments.entries.reverse {}
        .epoch 0).run (Federation.federate Sample.apart.deploymentSettings.federation
          Sample.provider.accountId Sample.provider.region "east" ⟨"ada", []⟩) =
        (some (.ok grant), w) ∧
      w.run (readParameter grant "/vpc") = (some (.ok "vpc-east"), w) ∧
      w.run (readParameter grant (Audit.tablePath "opa" "east")) =
        (some (.ok "east-audit"), w) := by
  have listed : ("dev", [Sample.provider]) ∈ Sample.apart.spec.catalog.environments.entries :=
    List.mem_of_getElem? (i := 0) rfl
  obtain ⟨grant, w, granted, target, vpc, _, _, table⟩ := placeholders_served
    (m := Sample.apart) rfl (List.reverse_perm _) listed (.head _) Sample.account_read rfl
    Sample.region_read ⟨"ada", []⟩ {} .epoch 0
  obtain ⟨id, read, _, own⟩ := vpc.read
  obtain ⟨name, written, _, own'⟩ := table.read
  rw [target] at own own'
  have vpcId : id = "vpc-east" := own (by decide +kernel)
  have tableName : name = "east-audit" := own' (by decide +kernel)
  rw [vpcId] at read
  rw [tableName] at written
  exact ⟨grant, w, granted, read, written⟩

end Local

end Rollout
