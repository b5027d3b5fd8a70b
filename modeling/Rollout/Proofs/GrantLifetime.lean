import Rollout.Credential.Grant

/-!
How long a grant lasts. The time left is counted in numbers of a fixed width, which are wide enough
for any two instants, and a grant is over no later than what was issued, whatever leap seconds a
clock shows on the way.
-/

namespace Rollout

open Time (Instant)

namespace Numeral

/-- A number of so many bits, one of them the sign. -/
def signed? (bits : Nat) (n : Int) : Option Int :=
  if leastSigned bits ≤ n ∧ n ≤ greatestSigned bits then some n else none

/-- A number of so many bits. -/
def unsigned? (bits : Nat) (n : Int) : Option Nat :=
  if 0 ≤ n ∧ n ≤ greatest bits then some n.toNat else none

theorem leastSigned_64 : leastSigned 64 = -9223372036854775808 := by decide

theorem greatestSigned_64 : greatestSigned 64 = 9223372036854775807 := by decide

theorem signed?_eq {n : Int} (least : leastSigned 64 ≤ n) (greatest : n ≤ greatestSigned 64) :
    signed? 64 n = some n := if_pos ⟨least, greatest⟩

end Numeral

namespace Time.Instant

/-- A date that can be written, and a fraction of less than two seconds. -/
structure Proper (t : Instant) : Prop where
  representable : t.representable = true
  nanos : t.nanos < 2 * nanosPerSecond

/-- A span of time is no longer than milliseconds of 64 bits can say. -/
def longestSpan : Int := Numeral.greatestSigned 64 * 1000000

def span? (nanos : Int) : Option Int :=
  if -longestSpan ≤ nanos ∧ nanos ≤ longestSpan then some nanos else none

def daysSince (a b : Instant) : Int := a.seconds / secondsPerDay - b.seconds / secondsPerDay

/-- From one time of day to the other. -/
def clockSince (a b : Instant) : Int :=
  (a.secondOfDay - b.secondOfDay + leapBetween a b) * nanosPerSecond + (a.nanos - b.nanos)

/-- The time from `b` to `a`, days and times of day apart, if every part of it fits. -/
def nanosSince? (a b : Instant) : Option Int := do
  let days ← Numeral.signed? 64 (daysSince a b)
  let whole ← span? (days * secondsPerDay * nanosPerSecond)
  let clock ← span? (clockSince a b)
  span? (whole + clock)

def secondsSince? (a b : Instant) : Option Int := do
  Numeral.signed? 64 ((← nanosSince? a b).tdiv nanosPerSecond)

/-- Nanoseconds on a clock that shows one second more after each of `leaps`. -/
def clocked (leaps : List Int) (t : Instant) : Int :=
  (t.seconds + leaps.countP (· < t.seconds)) * nanosPerSecond + t.nanos

variable {a b t : Instant}

/-- The first and the last second there is. -/
theorem Proper.bounds (proper : t.Proper) :
    -8334601228800 ≤ t.seconds ∧ t.seconds ≤ 8210266876799 := by
  have inside := proper.representable
  have first : Date.toDays ⟨Date.firstYear, 1, 1⟩ = -96465292 := by decide
  have last : Date.toDays ⟨Date.lastYear, 12, 31⟩ = 95026236 := by decide
  simp only [Instant.representable, first, last, secondsPerDay, Bool.and_eq_true,
    decide_eq_true_eq] at inside
  omega

theorem secondOfDay_bounds (t : Instant) : 0 ≤ t.secondOfDay ∧ t.secondOfDay < secondsPerDay :=
  ⟨Int.emod_nonneg _ (by decide), Int.emod_lt_of_pos _ (by decide)⟩

/-- A second more is counted only from a leap second on to a later time of day. -/
theorem leapBetween_cases (a b : Instant) :
    leapBetween a b = 1 ∧ b.isLeapSecond = true ∧ b.secondOfDay < a.secondOfDay ∨
      leapBetween a b = 0 ∨ leapBetween a b = -1 := by
  unfold leapBetween
  split
  · rename_i later
    split
    · rename_i leap
      exact Or.inl ⟨rfl, leap, later⟩
    · exact Or.inr (Or.inl rfl)
  · right
    split
    · split
      · exact Or.inr rfl
      · exact Or.inl rfl
    · exact Or.inl rfl

theorem nanosSince_parts (a b : Instant) :
    nanosSince a b = daysSince a b * secondsPerDay * nanosPerSecond + clockSince a b := by
  have whole := Int.emod_add_mul_ediv a.seconds secondsPerDay
  have whole' := Int.emod_add_mul_ediv b.seconds secondsPerDay
  simp only [nanosSince, clockSince, daysSince, secondOfDay, secondsPerDay, nanosPerSecond] at *
  omega

theorem nanosSince_plain (plain : a.isLeapSecond = false) (plain' : b.isLeapSecond = false) :
    nanosSince a b = clocked [] a - clocked [] b := by
  have none_ : leapBetween a b = 0 := by simp [leapBetween, plain, plain']
  simp only [nanosSince, none_, clocked, List.countP_nil, nanosPerSecond]
  omega

/-- Seconds that are not whole are cut off on both sides of zero. -/
theorem secondsSince_cases (a b : Instant) :
    0 ≤ nanosSince a b ∧ secondsSince a b = nanosSince a b / nanosPerSecond ∨
      nanosSince a b < 0 ∧ secondsSince a b ≤ 0 ∧
        nanosSince a b / nanosPerSecond ≤ secondsSince a b := by
  rw [secondsSince, Int.tdiv_eq_ediv, show (nanosPerSecond : Int).sign = 1 from rfl, nanosPerSecond]
  split <;> omega

theorem secondsSince_pos : 0 < secondsSince a b ↔ (nanosPerSecond : Int) ≤ nanosSince a b := by
  have cases := secondsSince_cases a b
  rw [nanosPerSecond] at *
  omega

section Fits

theorem longestSpan_eq : longestSpan = 9223372036854775807000000 := by decide

theorem span?_eq {nanos : Int} (least : -longestSpan ≤ nanos) (greatest : nanos ≤ longestSpan) :
    span? nanos = some nanos := if_pos ⟨least, greatest⟩

variable (proper : a.Proper) (proper' : b.Proper)

include proper proper'

theorem nanosSince_bounds : -longestSpan ≤ nanosSince a b ∧ nanosSince a b ≤ longestSpan := by
  have seconds := proper.bounds
  have seconds' := proper'.bounds
  have nanos := proper.nanos
  have nanos' := proper'.nanos
  have leap := leapBetween_cases a b
  simp only [nanosSince, nanosPerSecond, longestSpan_eq] at *
  omega

theorem clockSince_bounds : -longestSpan ≤ clockSince a b ∧ clockSince a b ≤ longestSpan := by
  have clock := secondOfDay_bounds a
  have clock' := secondOfDay_bounds b
  have nanos := proper.nanos
  have nanos' := proper'.nanos
  have leap := leapBetween_cases a b
  simp only [clockSince, secondsPerDay, nanosPerSecond, longestSpan_eq] at *
  omega

theorem daysSince_bounds : -191491529 ≤ daysSince a b ∧ daysSince a b ≤ 191491529 := by
  have seconds := proper.bounds
  have seconds' := proper'.bounds
  simp only [daysSince, secondsPerDay]
  omega

/-- The time between two instants fits, and so does each part of it. -/
theorem nanosSince?_proper : nanosSince? a b = some (nanosSince a b) := by
  obtain ⟨fewest, most⟩ := daysSince_bounds proper proper'
  obtain ⟨shortest, longest⟩ := clockSince_bounds proper proper'
  have days : Numeral.signed? 64 (daysSince a b) = some (daysSince a b) := by
    apply Numeral.signed?_eq <;> simp only [Numeral.leastSigned_64, Numeral.greatestSigned_64] <;>
      omega
  have whole : span? (daysSince a b * secondsPerDay * nanosPerSecond) =
      some (daysSince a b * secondsPerDay * nanosPerSecond) := by
    apply span?_eq <;> simp only [secondsPerDay, nanosPerSecond, longestSpan_eq] <;> omega
  have within := nanosSince_bounds proper proper'
  rw [nanosSince_parts] at within ⊢
  simp only [nanosSince?, days, whole, span?_eq shortest longest, Option.bind_eq_bind,
    Option.bind_some]
  exact span?_eq within.1 within.2

theorem secondsSince?_proper : secondsSince? a b = some (secondsSince a b) := by
  have within := nanosSince_bounds proper proper'
  simp only [secondsSince?, nanosSince?_proper proper proper', Option.bind_eq_bind,
    Option.bind_some]
  change Numeral.signed? 64 (secondsSince a b) = some (secondsSince a b)
  have cases := secondsSince_cases a b
  rw [longestSpan_eq] at within
  rw [nanosPerSecond] at cases
  apply Numeral.signed?_eq <;> simp only [Numeral.leastSigned_64, Numeral.greatestSigned_64] <;>
    omega

end Fits

theorem countP_below (leaps : List Int) {n m : Int} (before : n ≤ m) :
    leaps.countP (· < n) ≤ leaps.countP (· < m) :=
  List.countP_mono_left fun second _ below => by
    simp only [decide_eq_true_eq] at below ⊢
    omega

/-- A leap second of the table is counted by every later second. -/
theorem countP_below_lt {leaps : List Int} {n m : Int} (before : n < m) (listed : n ∈ leaps) :
    leaps.countP (· < n) < leaps.countP (· < m) := by
  induction leaps with
  | nil => cases listed
  | cons leap rest ih =>
      have others := countP_below rest (Int.le_of_lt before)
      simp only [List.countP_cons, decide_eq_true_eq]
      rcases List.mem_cons.mp listed with rfl | later
      · rw [if_neg (Int.lt_irrefl n), if_pos before]
        omega
      · have more := ih later
        split <;> split <;> omega

/-- Of a time of a second or more no part lasts longer than `a`, on any clock that shows the leap
second `b` is in. -/
theorem clocked_add_le {leaps : List Int} {nanos : Int} (proper : a.Proper)
    (shown : b.isLeapSecond = true → b.seconds ∈ leaps) (second : (nanosPerSecond : Int) ≤ nanos)
    (left : nanos ≤ nanosSince a b) : b.clocked leaps + nanos ≤ a.clocked leaps := by
  have fraction := proper.nanos
  simp only [nanosSince, clocked, nanosPerSecond] at *
  rcases leapBetween_cases a b with ⟨one, leap, clock⟩ | none_
  · have full : 1000000000 ≤ b.nanos := of_decide_eq_true leap
    have apart : a.seconds ≠ b.seconds := by
      intro same
      simp [secondOfDay, same] at clock
    have later : b.seconds < a.seconds := by omega
    have more := countP_below_lt later (shown leap)
    omega
  · have later : b.seconds ≤ a.seconds := by omega
    have more := countP_below leaps later
    omega

end Time.Instant

namespace IssuedCredentials

variable (issued : IssuedCredentials) (now : Instant)

def Filled : Prop :=
  issued.accessKeyId ≠ "" ∧ issued.secretAccessKey ≠ "" ∧ issued.sessionToken ≠ ""

/-- The expiration, if there is one, is a whole second off. -/
def Lasting : Prop :=
  ∀ instant ∈ issued.expiration, (Instant.nanosPerSecond : Int) ≤ instant.nanosSince now

variable {issued now}

theorem filled_iff : issued.Filled ↔ (issued.accessKeyId.isEmpty || issued.secretAccessKey.isEmpty
    || issued.sessionToken.isEmpty) = false := by
  simp [Filled, and_assoc]

end IssuedCredentials

namespace Grant

section Issued

variable (account : AccountId) (region : Region) (role : RoleArn) (requester : Requester)
  (issued : IssuedCredentials) (now : Instant)

/-- The grant, if the time left and the lifetime fit into the numbers that are kept of them. -/
def ofIssued? : Option (Except CredentialError Grant) :=
  if issued.accessKeyId.isEmpty || issued.secretAccessKey.isEmpty
      || issued.sessionToken.isEmpty then
    some (.error (.emptyCredentials role.text))
  else
    match issued.expiration with
    | none => some (.ok (ofIssued.grant account region role requester issued longestLifetime))
    | some instant => do
      let left ← instant.secondsSince? now
      if left ≤ 0 then
        some (.error
          (.rejected role.text ("issued credentials already expired at " ++ instant.plain)))
      else
        let lifetime ← Numeral.unsigned? 32 (min left longestLifetime)
        some (.ok (ofIssued.grant account region role requester issued lifetime))

/-- How long a grant lasts of what was issued. -/
structure Lasts (lifetime : Nat) : Prop where
  unlimited : issued.expiration = none → lifetime = 3600
  limited : ∀ instant ∈ issued.expiration,
    (lifetime : Int) = min 3600 (instant.nanosSince now / Instant.nanosPerSecond)
  bounds : 1 ≤ lifetime ∧ lifetime ≤ 3600
  /-- It is over by the expiration on any clock that shows the leap second it starts in, if any.
  Time is counted on such clocks since adding a span to an instant and comparing instants pass over
  leap seconds that the difference of two instants counts. -/
  within : ∀ instant ∈ issued.expiration, ∀ leaps : List Int,
    (now.isLeapSecond = true → now.seconds ∈ leaps) →
    now.clocked leaps + lifetime * Instant.nanosPerSecond ≤ instant.clocked leaps

variable {issued now}

theorem ofIssued_empty (empty : ¬ issued.Filled) :
    ofIssued account region role requester issued now = .error (.emptyCredentials role.text) := by
  rw [IssuedCredentials.filled_iff, Bool.not_eq_false] at empty
  exact if_pos empty

theorem ofIssued_filled (filled : issued.Filled) :
    ofIssued account region role requester issued now =
      match issued.expiration with
      | none => .ok (ofIssued.grant account region role requester issued longestLifetime)
      | some instant =>
        if instant.nanosSince now < Instant.nanosPerSecond then
          .error (.rejected role.text ("issued credentials already expired at " ++ instant.plain))
        else
          .ok (ofIssued.grant account region role requester issued
            (instant.secondsSince now).toNat) := by
  rw [IssuedCredentials.filled_iff] at filled
  rw [ofIssued, filled]
  cases issued.expiration with
  | none => rfl
  | some instant =>
      have second : instant.secondsSince now ≤ 0 ↔
          instant.nanosSince now < Instant.nanosPerSecond := by
        rw [← Int.not_lt, Instant.secondsSince_pos, Int.not_le]
      simp [remaining, second]

theorem ofIssued_ok {grant : Grant} :
    ofIssued account region role requester issued now = .ok grant ↔
      issued.Filled ∧ issued.Lasting now ∧
        ofIssued.grant account region role requester issued
          (remaining issued.expiration now).toNat = grant := by
  by_cases filled : issued.Filled
  · rw [ofIssued_filled account region role requester filled]
    cases limited : issued.expiration with
    | none => simp [filled, IssuedCredentials.Lasting, limited, remaining]
    | some instant =>
        by_cases past : instant.nanosSince now < Instant.nanosPerSecond
        · simp [past, IssuedCredentials.Lasting, limited, Int.not_le.mpr past]
        · simp [past, filled, IssuedCredentials.Lasting, limited, remaining, Int.not_lt.mp past]
  · simp [ofIssued_empty account region role requester filled, filled]

theorem ofIssued?_eq (proper : now.Proper)
    (proper' : ∀ instant ∈ issued.expiration, instant.Proper) :
    ofIssued? account region role requester issued now =
      some (ofIssued account region role requester issued now) := by
  unfold ofIssued? ofIssued
  split
  · rfl
  · cases expiration : issued.expiration with
    | none => rfl
    | some instant =>
        have left := Instant.secondsSince?_proper (proper' instant expiration) proper
        by_cases past : instant.secondsSince now ≤ 0
        · simp [left, remaining, past]
        · -- The lifetime is cut to an hour before it is narrowed, and once more it stays as it is.
          have narrow : Numeral.unsigned? 32 (min (instant.secondsSince now) longestLifetime) =
              some (min (instant.secondsSince now).toNat longestLifetime) := by
            have greatest : Numeral.greatest 32 = 4294967295 := by decide
            simp only [Numeral.unsigned?, greatest, longestLifetime]
            rw [if_pos (by omega)]
            congr 1
            omega
          simp [left, remaining, past, narrow, ofIssued.grant]

theorem lasts_remaining (proper : ∀ instant ∈ issued.expiration, instant.Proper)
    (lasting : issued.Lasting now) :
    Lasts issued now (min (remaining issued.expiration now).toNat longestLifetime) := by
  cases limited : issued.expiration with
  | none =>
      have hour : 1 ≤ longestLifetime ∧ longestLifetime ≤ 3600 := by decide
      refine ⟨fun _ => rfl, fun _ limit => ?_, hour, fun _ limit => ?_⟩
      · cases limited.symm.trans limit
      · cases limited.symm.trans limit
  | some instant =>
      have second := lasting instant limited
      have cases := Instant.secondsSince_cases instant now
      rw [remaining]
      generalize count : min (instant.secondsSince now).toNat longestLifetime = lifetime
      have whole : (lifetime : Int) =
          min 3600 (instant.nanosSince now / Instant.nanosPerSecond) := by
        simp only [longestLifetime, Instant.nanosPerSecond] at *
        omega
      have bounds : 1 ≤ lifetime ∧ lifetime ≤ 3600 := by
        simp only [Instant.nanosPerSecond] at *
        omega
      have within : (Instant.nanosPerSecond : Int) ≤ lifetime * Instant.nanosPerSecond ∧
          lifetime * Instant.nanosPerSecond ≤ instant.nanosSince now := by
        simp only [Instant.nanosPerSecond] at *
        omega
      refine ⟨fun unlimited => ?_, fun other limit => ?_, bounds, fun other limit leaps shown => ?_⟩
      · cases limited.symm.trans unlimited
      · obtain rfl := Option.some.inj (limited.symm.trans limit)
        exact whole
      · obtain rfl := Option.some.inj (limited.symm.trans limit)
        exact Instant.clocked_add_le (proper instant limited) shown within.1 within.2

/-- Credentials that are filled and last a second more make a grant, and no others do. It lasts for
the whole seconds left and an hour at most, which the numbers it is counted in have room for. -/
theorem lifetime_within (proper : now.Proper)
    (proper' : ∀ instant ∈ issued.expiration, instant.Proper) :
    ((∃ grant, ofIssued account region role requester issued now = .ok grant) ↔
      issued.Filled ∧ issued.Lasting now) ∧
    (∀ grant, ofIssued account region role requester issued now = .ok grant →
      Lasts issued now grant.lifetimeSeconds) ∧
    (¬ issued.Filled → ofIssued account region role requester issued now =
      .error (.emptyCredentials role.text)) ∧
    (issued.Filled → ∀ instant ∈ issued.expiration,
      instant.nanosSince now < Instant.nanosPerSecond →
      ofIssued account region role requester issued now = .error (.rejected role.text
        ("issued credentials already expired at " ++ instant.plain))) ∧
    (∀ instant ∈ issued.expiration, instant.isLeapSecond = false → now.isLeapSecond = false →
      instant.nanosSince now = instant.clocked [] - now.clocked []) ∧
    ofIssued? account region role requester issued now =
      some (ofIssued account region role requester issued now) := by
  refine ⟨?_, fun grant granted => ?_, ofIssued_empty account region role requester,
    fun filled instant limited past => ?_, fun _ _ => Instant.nanosSince_plain,
    ofIssued?_eq account region role requester proper proper'⟩
  · simp [ofIssued_ok]
  · obtain ⟨_, lasting, rfl⟩ := (ofIssued_ok account region role requester).mp granted
    exact lasts_remaining proper' lasting
  · rw [ofIssued_filled account region role requester filled, Option.mem_def.mp limited]
    exact if_pos past

end Issued

namespace Sample

/-- A second and a half before the leap second at the end of 2016. -/
def now : Instant := ⟨1483228798, 500000000⟩

/-- In the middle of that leap second. -/
def expiration : Instant := ⟨1483228799, 1500000000⟩

def issued : IssuedCredentials := ⟨"key", "secret", "token", some expiration⟩

end Sample

/-- Two of the seconds left are whole, the leap second one of them. -/
theorem sample_lifetime_within :
    Sample.now.Proper ∧ Sample.expiration.Proper ∧
    ∃ grant, ofIssued ⟨"000011112222"⟩ ⟨"us-east-1"⟩ ⟨"role/ops"⟩ ⟨"ada", []⟩ Sample.issued
        Sample.now = .ok grant ∧ grant.lifetimeSeconds = 2 ∧
      Sample.now.clocked [1483228799] + 2 * Instant.nanosPerSecond ≤
        Sample.expiration.clocked [1483228799] := by
  have proper : Sample.now.Proper := ⟨by decide, by decide⟩
  have proper' : Sample.expiration.Proper := ⟨by decide, by decide⟩
  have proper'' : ∀ instant ∈ Sample.issued.expiration, instant.Proper := by
    rintro _ ⟨⟩
    exact proper'
  obtain ⟨granted, lasts, _⟩ := lifetime_within ⟨"000011112222"⟩ ⟨"us-east-1"⟩ ⟨"role/ops"⟩
    ⟨"ada", []⟩ proper proper''
  have lasting : Sample.issued.Lasting Sample.now := by
    rintro _ ⟨⟩
    decide
  have filled : Sample.issued.Filled := ⟨by decide, by decide, by decide⟩
  obtain ⟨grant, issue⟩ := granted.mpr ⟨filled, lasting⟩
  have limit := (lasts grant issue).limited Sample.expiration rfl
  have two : grant.lifetimeSeconds = 2 := Int.ofNat_inj.mp (limit.trans (by decide))
  have within := (lasts grant issue).within Sample.expiration rfl [1483228799] (by decide)
  rw [two] at within
  exact ⟨proper, proper', grant, issue, two, within⟩

end Grant

end Rollout
