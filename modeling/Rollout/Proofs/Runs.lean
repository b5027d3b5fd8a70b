import Rollout.Deployment.Plan

/-!
Runs of a dialogue: what was asked, how it was answered, and the value at the
end. A question may get any answer of its type, so what holds of all runs holds
for every behaviour of those who answer.
-/

namespace Rollout

structure Exchange (Question : Type) (Answer : Question → Type) where
  question : Question
  answer : Answer question

namespace Dialogue

variable {Question Small : Type} {Answer : Question → Type} {SmallAnswer : Small → Type}
variable {α β : Type}

/-- Complete runs only. The outcome is missing when the allowance of polls was used up. -/
inductive Ran :
    Dialogue Question Answer α → List (Exchange Question Answer) → Option α → Prop
  | done (value : α) : Ran (done value) [] (some value)
  | unfinished : Ran unfinished [] none
  | ask {question : Question} {next : Answer question → Dialogue Question Answer α}
      {rest : List (Exchange Question Answer)} {outcome : Option α} (answer : Answer question)
      (following : Ran (next answer) rest outcome) :
      Ran (ask question next) (⟨question, answer⟩ :: rest) outcome

@[simp] theorem pure_done (value : α) :
    (pure value : Dialogue Question Answer α) = done value := rfl

@[simp] theorem bind_monad (p : Dialogue Question Answer α)
    (f : α → Dialogue Question Answer β) : (p >>= f) = p.bind f := rfl

@[simp] theorem bind_done (value : α) (f : α → Dialogue Question Answer β) :
    (done value).bind f = f value := rfl

@[simp] theorem bind_ask (question : Question)
    (next : Answer question → Dialogue Question Answer α) (f : α → Dialogue Question Answer β) :
    (ask question next).bind f = ask question fun answer => (next answer).bind f := rfl

theorem bind_assoc {γ : Type} (p : Dialogue Question Answer α)
    (f : α → Dialogue Question Answer β) (g : β → Dialogue Question Answer γ) :
    (p.bind f).bind g = p.bind fun value => (f value).bind g := by
  induction p with
  | done value => rfl
  | unfinished => rfl
  | ask question next ih =>
      simp only [bind_ask]
      exact congrArg (ask question) (funext ih)

theorem run_bind {m : Type → Type} [Monad m] [LawfulMonad m]
    {answer : (q : Question) → m (Answer q)} (p : Dialogue Question Answer α)
    (f : α → Dialogue Question Answer β) :
    (p.bind f).run answer = p.run answer >>= fun outcome =>
      match outcome with
      | some value => (f value).run answer
      | none => pure none := by
  induction p with
  | done value => simp [run]
  | unfinished => simp [run, bind]
  | ask question next ih =>
      rw [bind_ask, run, run, LawfulMonad.bind_assoc]
      exact bind_congr fun reply => ih reply

section Ran

variable {trace : List (Exchange Question Answer)} {outcome : Option α}

@[simp] theorem ran_done {value : α} :
    (done value : Dialogue Question Answer α).Ran trace outcome ↔
      trace = [] ∧ outcome = some value := by
  constructor
  · rintro ⟨⟩
    exact ⟨rfl, rfl⟩
  · rintro ⟨rfl, rfl⟩
    exact .done value

@[simp] theorem ran_unfinished :
    (unfinished : Dialogue Question Answer α).Ran trace outcome ↔
      trace = [] ∧ outcome = none := by
  constructor
  · rintro ⟨⟩
    exact ⟨rfl, rfl⟩
  · rintro ⟨rfl, rfl⟩
    exact .unfinished

theorem ran_ask {question : Question} {next : Answer question → Dialogue Question Answer α} :
    (ask question next).Ran trace outcome ↔
      ∃ answer rest, trace = ⟨question, answer⟩ :: rest ∧ (next answer).Ran rest outcome := by
  constructor
  · rintro (_ | _ | ⟨answer, following⟩)
    exact ⟨answer, _, rfl, following⟩
  · rintro ⟨answer, rest, rfl, following⟩
    exact .ask answer following

end Ran

/-- A run of a sequence stops in its first part or is split at the value handed over. -/
theorem ran_bind {p : Dialogue Question Answer α} {f : α → Dialogue Question Answer β}
    {trace : List (Exchange Question Answer)} {outcome : Option β} :
    (p.bind f).Ran trace outcome ↔
      (p.Ran trace none ∧ outcome = none) ∨
        ∃ first second value, trace = first ++ second ∧ p.Ran first (some value) ∧
          (f value).Ran second outcome := by
  -- Both ways by induction on the first part; the trace is split where it ends.
  constructor
  · intro ran
    induction p generalizing trace with
    | done value => exact Or.inr ⟨[], trace, value, rfl, .done value, ran⟩
    | unfinished =>
        obtain ⟨rfl, rfl⟩ := ran_unfinished.mp ran
        exact Or.inl ⟨.unfinished, rfl⟩
    | ask question next ih =>
        obtain ⟨answer, rest, rfl, following⟩ := ran_ask.mp ran
        rcases ih answer following with ⟨stopped, rfl⟩ | ⟨first, second, value, rfl, one, two⟩
        · exact Or.inl ⟨.ask answer stopped, rfl⟩
        · exact Or.inr ⟨⟨question, answer⟩ :: first, second, value, rfl, .ask answer one, two⟩
  · intro parts
    induction p generalizing trace with
    | done value =>
        rcases parts with ⟨⟨⟩, _⟩ | ⟨_, second, _, rfl, ⟨⟩, two⟩
        exact two
    | unfinished =>
        rcases parts with ⟨⟨⟩, rfl⟩ | ⟨_, _, _, rfl, ⟨⟩, _⟩
        exact .unfinished
    | ask question next ih =>
        rcases parts with ⟨stopped, rfl⟩ | ⟨first, second, value, rfl, one, two⟩
        · obtain ⟨answer, rest, rfl, part⟩ := ran_ask.mp stopped
          exact .ask answer (ih answer (Or.inl ⟨part, rfl⟩))
        · obtain ⟨answer, rest, rfl, part⟩ := ran_ask.mp one
          exact .ask answer (ih answer (Or.inr ⟨rest, second, value, rfl, part, two⟩))

/-- The answers decide where a run ends and with what. -/
theorem ran_unique {p : Dialogue Question Answer α} {one two : List (Exchange Question Answer)}
    {o o' : Option α} (ran : p.Ran one o) (ran' : p.Ran two o')
    {rest rest' : List (Exchange Question Answer)} (same : one ++ rest = two ++ rest') :
    one = two ∧ o = o' := by
  induction ran generalizing two with
  | done value => exact (ran_done.mp ran').imp Eq.symm Eq.symm
  | unfinished => exact (ran_unfinished.mp ran').imp Eq.symm Eq.symm
  | ask answer _ ih =>
      obtain ⟨_, tail, rfl, following⟩ := ran_ask.mp ran'
      rw [List.cons_append, List.cons_append] at same
      obtain ⟨first, others⟩ := List.cons.inj same
      cases first
      obtain ⟨rfl, rfl⟩ := ih following others
      exact ⟨rfl, rfl⟩

/-- Whatever the answers, only such questions are asked and such a value is reached. -/
inductive Holds (asked : Question → Prop) (reached : α → Prop) :
    Dialogue Question Answer α → Prop
  | done {value : α} (good : reached value) : Holds asked reached (done value)
  | ask {question : Question} {next : Answer question → Dialogue Question Answer α}
      (good : asked question) (rest : ∀ answer, Holds asked reached (next answer)) :
      Holds asked reached (ask question next)

theorem holds_bind {asked : Question → Prop} {middle : α → Prop} {reached : β → Prop}
    {p : Dialogue Question Answer α} {f : α → Dialogue Question Answer β}
    (first : p.Holds asked middle)
    (second : ∀ value, middle value → (f value).Holds asked reached) :
    (p.bind f).Holds asked reached := by
  induction first with
  | done good => exact second _ good
  | ask good _ ih => exact .ask good ih

theorem holds_ran {asked : Question → Prop} {reached : α → Prop} {p : Dialogue Question Answer α}
    (holds : p.Holds asked reached) {trace : List (Exchange Question Answer)}
    {outcome : Option α} (ran : p.Ran trace outcome) :
    (∀ x ∈ trace, asked x.question) ∧ ∃ value, outcome = some value ∧ reached value := by
  induction ran with
  | done value =>
      obtain ⟨good⟩ := holds
      exact ⟨by simp, _, rfl, good⟩
  | unfinished => cases holds
  | ask answer _ ih =>
      obtain ⟨_⟩ | ⟨good, rest⟩ := holds
      obtain ⟨tail, ended⟩ := ih (rest answer)
      exact ⟨List.forall_mem_cons.mpr ⟨good, tail⟩, ended⟩

/-- The run in which a question gets the same answer whenever it is asked. -/
def answered (answer : (question : Question) → Answer question) :
    Dialogue Question Answer α → List (Exchange Question Answer) × Option α
  | done value => ([], some value)
  | unfinished => ([], none)
  | ask question next =>
    let (rest, outcome) := (next (answer question)).answered answer
    (⟨question, answer question⟩ :: rest, outcome)

theorem answered_ran (answer : (question : Question) → Answer question)
    (p : Dialogue Question Answer α) : p.Ran (p.answered answer).1 (p.answered answer).2 := by
  induction p with
  | done value => exact .done value
  | unfinished => exact .unfinished
  | ask question next ih => exact .ask (answer question) (ih (answer question))

theorem answered_mem {answer : (question : Question) → Answer question}
    {p : Dialogue Question Answer α} {x : Exchange Question Answer}
    (member : x ∈ (p.answered answer).1) : x.answer = answer x.question := by
  induction p with
  | done value => cases member
  | unfinished => cases member
  | ask question next ih =>
      rcases List.mem_cons.mp member with rfl | later
      · rfl
      · exact ih (answer question) later

/-- No run stops without a value. -/
def Finishes (p : Dialogue Question Answer α) : Prop :=
  ∀ trace : List (Exchange Question Answer), ¬ p.Ran trace none

/-- The exchanges of a run, each spelled out in the smaller ones it stands for. -/
inductive Spelled (small : (q : Question) → Dialogue Small SmallAnswer (Answer q)) :
    List (Exchange Question Answer) → List (Exchange Small SmallAnswer) → Prop
  | nil : Spelled small [] []
  | cons {question : Question} {answer : Answer question}
      {part rest : List (Exchange Small SmallAnswer)} {steps : List (Exchange Question Answer)}
      (first : (small question).Ran part (some answer)) (others : Spelled small steps rest) :
      Spelled small (⟨question, answer⟩ :: steps) (part ++ rest)

variable {small : (q : Question) → Dialogue Small SmallAnswer (Answer q)}

theorem spelled_append {first second : List (Exchange Question Answer)}
    {trace : List (Exchange Small SmallAnswer)} :
    Spelled small (first ++ second) trace ↔
      ∃ one two, trace = one ++ two ∧ Spelled small first one ∧ Spelled small second two := by
  induction first generalizing trace with
  | nil =>
      constructor
      · intro spelled
        exact ⟨[], trace, rfl, .nil, spelled⟩
      · rintro ⟨_, two, rfl, ⟨⟩, spelled⟩
        exact spelled
  | cons head tail ih =>
      constructor
      · rintro (_ | ⟨ran, others⟩)
        obtain ⟨one, two, rfl, left, right⟩ := ih.mp others
        exact ⟨_ ++ one, two, (List.append_assoc ..).symm, .cons ran left, right⟩
      · rintro ⟨_, two, rfl, _ | ⟨ran, left⟩, right⟩
        rw [List.append_assoc]
        exact .cons ran (ih.mpr ⟨_, two, rfl, left, right⟩)

theorem spelled_singleton {question : Question} {answer : Answer question}
    {trace : List (Exchange Small SmallAnswer)} :
    Spelled small [⟨question, answer⟩] trace ↔ (small question).Ran trace (some answer) := by
  constructor
  · rintro (_ | ⟨ran, _ | _⟩)
    rwa [List.append_nil]
  · intro ran
    simpa using Spelled.cons ran .nil

theorem expand_bind (p : Dialogue Question Answer α) (f : α → Dialogue Question Answer β) :
    (p.bind f).expand small = (p.expand small).bind fun value => (f value).expand small := by
  induction p with
  | done value => rfl
  | unfinished => rfl
  | ask question next ih =>
      simp only [bind_ask, expand, bind_assoc]
      exact congrArg ((small question).bind) (funext ih)

/-- An expanded dialogue runs exactly as the dialogue does, with every exchange spelled out. -/
theorem ran_expand (finishes : ∀ question, (small question).Finishes)
    {p : Dialogue Question Answer α} {trace : List (Exchange Small SmallAnswer)}
    {outcome : Option α} :
    (p.expand small).Ran trace outcome ↔
      ∃ steps, p.Ran steps outcome ∧ Spelled small steps trace := by
  constructor
  · intro ran
    induction p generalizing trace with
    | done value =>
        obtain ⟨rfl, rfl⟩ := ran_done.mp ran
        exact ⟨[], .done value, .nil⟩
    | unfinished =>
        obtain ⟨rfl, rfl⟩ := ran_unfinished.mp ran
        exact ⟨[], .unfinished, .nil⟩
    | ask question next ih =>
        rcases ran_bind.mp ran with ⟨stopped, _⟩ | ⟨part, rest, answer, rfl, first, ran⟩
        · exact absurd stopped (finishes question trace)
        · obtain ⟨steps, following, spelled⟩ := ih answer ran
          exact ⟨⟨question, answer⟩ :: steps, .ask answer following, .cons first spelled⟩
  · rintro ⟨steps, ran, spelled⟩
    induction ran generalizing trace with
    | done value =>
        cases spelled
        exact .done value
    | unfinished =>
        cases spelled
        exact .unfinished
    | ask answer _ ih =>
        obtain _ | ⟨first, others⟩ := spelled
        exact ran_bind.mpr (Or.inr ⟨_, _, answer, rfl, first, ih others⟩)

end Dialogue

/-- The calls of a run. -/
abbrev Trace := List (Exchange Call Call.Answer)

/-- The steps of a run: calls, and records with how they went. -/
abbrev Journal := List (Exchange Step Step.Answer)

/-- A call that is a step of its own. -/
def Exchange.step (x : Exchange Call Call.Answer) : Exchange Step Step.Answer :=
  ⟨.call x.question, x.answer⟩

namespace Plan

open Dialogue

variable {α : Type}

theorem ran_call {c : Call} {trace : Trace} {outcome : Option c.Answer} :
    (Program.call c).Ran trace outcome ↔
      ∃ answer, trace = [⟨c, answer⟩] ∧ outcome = some answer := by
  constructor
  · intro ran
    obtain ⟨answer, _, rfl, ended⟩ := ran_ask.mp ran
    obtain ⟨rfl, rfl⟩ := ran_done.mp ended
    exact ⟨answer, rfl, rfl⟩
  · rintro ⟨answer, rfl, rfl⟩
    exact .ask answer (.done answer)

/-- The steps of a program are its calls. -/
theorem ran_ofProgram {p : Program α} {journal : Journal} {outcome : Option α} :
    (ofProgram p).Ran journal outcome ↔
      ∃ calls, p.Ran calls outcome ∧ journal = calls.map Exchange.step := by
  constructor
  · intro ran
    induction p generalizing journal with
    | done value =>
        obtain ⟨rfl, rfl⟩ := ran_done.mp ran
        exact ⟨[], .done value, rfl⟩
    | unfinished =>
        obtain ⟨rfl, rfl⟩ := ran_unfinished.mp ran
        exact ⟨[], .unfinished, rfl⟩
    | ask question next ih =>
        obtain ⟨answer, rest, rfl, part⟩ := ran_ask.mp ran
        obtain ⟨calls, following, rfl⟩ := ih answer part
        exact ⟨⟨question, answer⟩ :: calls, ran_ask.mpr ⟨answer, calls, rfl, following⟩, rfl⟩
  · rintro ⟨calls, ran, rfl⟩
    induction ran with
    | done value => exact .done value
    | unfinished => exact .unfinished
    | ask answer _ ih => exact ran_ask.mpr ⟨answer, _, rfl, ih⟩

theorem holds_ofProgram {asked : Call → Prop} {allowed : Step → Prop} {reached : α → Prop}
    {p : Program α} (holds : p.Holds asked reached) (steps : ∀ c, asked c → allowed (.call c)) :
    (ofProgram p).Holds allowed reached := by
  induction holds with
  | done good => exact .done good
  | ask good _ ih => exact .ask (steps _ good) ih

end Plan

/-! What several modules run programs on as a sample. -/

namespace Sample

def provider : Provider := ⟨"000011112222", "us-east-1", "/vpc", "/cluster", "dev", "east"⟩

/-- For the account of the provider, as long as grants last at most. -/
def grant : Grant :=
  ⟨⟨"000011112222"⟩, ⟨"us-east-1"⟩, ⟨"arn:role"⟩, ⟨"ada", []⟩, "key", "secret", "token", 3600, none⟩

end Sample

end Rollout
