import Rollout.Proofs.Runs

/-!
Two dialogues before an onlooker who does not see everything. Twins ask what
looks alike, go on alike whenever the answers look alike, and so cannot be told
apart by anyone who answers by what can be seen.
-/

namespace Rollout

variable {Question Small : Type} {Answer : Question → Type} {SmallAnswer : Small → Type}

/-- What can be seen of a question and of its answer. -/
structure View (Question : Type) (Answer : Question → Type) where
  question : Question → Question
  answer : (q : Question) → Answer q → Answer (question q)

namespace View

variable (view : View Question Answer)

def exchange (x : Exchange Question Answer) : Exchange Question Answer :=
  ⟨view.question x.question, view.answer x.question x.answer⟩

variable {view} {q r : Question} {a : Answer q} {b : Answer r}

/-- The answers in exchanges that look alike. -/
theorem answers (seen : view.exchange ⟨q, a⟩ = view.exchange ⟨r, b⟩) :
    HEq (view.answer q a) (view.answer r b) :=
  (Exchange.mk.inj seen).2

end View

/-- The same error, or values that agree. -/
inductive Agree {ε α β : Type} (agree : α → β → Prop) : Except ε α → Except ε β → Prop
  | error (e : ε) : Agree agree (.error e) (.error e)
  | ok {one : α} {two : β} (same : agree one two) : Agree agree (.ok one) (.ok two)

namespace Agree

variable {ε δ α β : Type} {agree : α → β → Prop}

theorem mapError {one : Except ε α} {two : Except ε β} (alike : Agree agree one two) (f : ε → δ) :
    Agree agree (one.mapError f) (two.mapError f) := by
  cases alike with
  | error e => exact .error (f e)
  | ok same => exact .ok same

theorem refl (result : Except ε α) : Agree Eq result result := by
  cases result with
  | error e => exact .error e
  | ok value => exact .ok rfl

theorem eq {one two : Except ε α} (alike : Agree Eq one two) : one = two := by
  cases alike with
  | error e => rfl
  | ok same => rw [same]

end Agree

namespace Dialogue

variable {α β γ δ : Type} {view : View Question Answer}

/-- After exchanges that look alike, a question that looks alike gets an answer that does. -/
def AnsweredAlike (view : View Question Answer) (first second : List (Exchange Question Answer)) :
    Prop :=
  ∀ (past past' : List (Exchange Question Answer)) (x y : Exchange Question Answer)
    (rest others : List (Exchange Question Answer)),
    first = past ++ x :: rest → second = past' ++ y :: others →
    past.map view.exchange = past'.map view.exchange →
    view.question x.question = view.question y.question → view.exchange x = view.exchange y

theorem answeredAlike_tail {x y : Exchange Question Answer}
    {first second : List (Exchange Question Answer)} (seen : view.exchange x = view.exchange y)
    (alike : AnsweredAlike view (x :: first) (y :: second)) : AnsweredAlike view first second := by
  intro past past' u w rest others left right same asked
  refine alike (x :: past) (y :: past') u w rest others ?_ ?_ ?_ asked
  · rw [left, List.cons_append]
  · rw [right, List.cons_append]
  · rw [List.map_cons, List.map_cons, seen, same]

/-- Those whose answers show no more than what is seen of a question answer any runs alike. -/
theorem answeredAlike_answered {one two shown : (q : Question) → Answer q}
    (left : ∀ q, view.answer q (one q) = shown (view.question q))
    (right : ∀ q, view.answer q (two q) = shown (view.question q))
    (p : Dialogue Question Answer α) (p' : Dialogue Question Answer β) :
    AnsweredAlike view (p.answered one).1 (p'.answered two).1 := by
  rintro past past' ⟨q, a⟩ ⟨r, b⟩ rest others first second _ asked
  obtain rfl : a = one q := answered_mem (p := p) (x := ⟨q, a⟩) (by simp [first])
  obtain rfl : b = two r := answered_mem (p := p') (x := ⟨r, b⟩) (by simp [second])
  rw [View.exchange, View.exchange, left, right, asked]

/-- Dialogues nobody can tell apart by what the view leaves to be seen. What one of them would
have done after it was stopped is left open. -/
inductive Twins (view : View Question Answer) (agree : α → β → Prop) :
    Dialogue Question Answer α → Dialogue Question Answer β → Prop
  | done {one : α} {two : β} (same : agree one two) : Twins view agree (.done one) (.done two)
  | stopped (q : Dialogue Question Answer β) : Twins view agree .unfinished q
  | outlived (p : Dialogue Question Answer α) : Twins view agree p .unfinished
  | ask {q r : Question} {next : Answer q → Dialogue Question Answer α}
      {following : Answer r → Dialogue Question Answer β} (asked : view.question q = view.question r)
      (rest : ∀ a b, view.exchange ⟨q, a⟩ = view.exchange ⟨r, b⟩ →
        Twins view agree (next a) (following b)) :
      Twins view agree (.ask q next) (.ask r following)

theorem twins_mono {agree wider : α → β → Prop} {p : Dialogue Question Answer α}
    {q : Dialogue Question Answer β} (twins : Twins view agree p q)
    (within : ∀ one two, agree one two → wider one two) : Twins view wider p q := by
  induction twins with
  | done same => exact .done (within _ _ same)
  | stopped q => exact .stopped _
  | outlived p => exact .outlived _
  | ask asked _ ih => exact .ask asked ih

theorem twins_bind {middle : α → β → Prop} {agree : γ → δ → Prop} {p : Dialogue Question Answer α}
    {q : Dialogue Question Answer β} {f : α → Dialogue Question Answer γ}
    {g : β → Dialogue Question Answer δ} (first : Twins view middle p q)
    (second : ∀ one two, middle one two → Twins view agree (f one) (g two)) :
    Twins view agree (p.bind f) (q.bind g) := by
  induction first with
  | done same => exact second _ _ same
  | stopped q => exact .stopped _
  | outlived p => exact .outlived _
  | ask asked _ ih => exact .ask asked ih

/-- Runs of twins that are answered alike look alike and end in values that agree. -/
theorem twins_ran {agree : α → β → Prop} {p : Dialogue Question Answer α}
    {q : Dialogue Question Answer β} (twins : Twins view agree p q)
    {first second : List (Exchange Question Answer)} {one : α} {two : β}
    (ran : p.Ran first (some one)) (other : q.Ran second (some two))
    (alike : AnsweredAlike view first second) :
    first.map view.exchange = second.map view.exchange ∧ agree one two := by
  induction twins generalizing first second with
  | done same =>
      obtain ⟨rfl, left⟩ := ran_done.mp ran
      obtain ⟨rfl, right⟩ := ran_done.mp other
      cases left
      cases right
      exact ⟨rfl, same⟩
  | stopped q => exact nomatch (ran_unfinished.mp ran).2
  | outlived p => exact nomatch (ran_unfinished.mp other).2
  | ask asked _ ih =>
      obtain ⟨a, steps, rfl, going⟩ := ran_ask.mp ran
      obtain ⟨b, steps', rfl, going'⟩ := ran_ask.mp other
      -- Nothing has been asked before, so the first answers look alike.
      have seen := alike [] [] ⟨_, a⟩ ⟨_, b⟩ steps steps' rfl rfl rfl asked
      obtain ⟨trace, agreed⟩ := ih a b seen going going' (answeredAlike_tail seen alike)
      exact ⟨by rw [List.map_cons, List.map_cons, seen, trace], agreed⟩

/-- Twins stay twins when alike questions are spelled out by twins that answer them alike. -/
theorem twins_expand {fine : View Small SmallAnswer}
    {small : (q : Question) → Dialogue Small SmallAnswer (Answer q)}
    (spelled : ∀ q r, view.question q = view.question r →
      Twins fine (fun a b => view.exchange ⟨q, a⟩ = view.exchange ⟨r, b⟩) (small q) (small r))
    {agree : α → β → Prop} {p : Dialogue Question Answer α} {q : Dialogue Question Answer β}
    (twins : Twins view agree p q) : Twins fine agree (p.expand small) (q.expand small) := by
  induction twins with
  | done same => exact .done same
  | stopped q => exact .stopped _
  | outlived p => exact .outlived _
  | ask asked _ ih => exact twins_bind (spelled _ _ asked) ih

end Dialogue

end Rollout
