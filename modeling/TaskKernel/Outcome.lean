/-!
# Outcomes and acts

An act starts in a state and ends in one, whether it succeeds or not: what it did before it failed
stays done. On the way it may report events, in order.
-/

namespace TaskKernel

/-- How an act ended: a value or a cause, the state it left, and the events it reported. -/
structure Outcome (ε ω σ α : Type) where
  answer : Except ε α
  state : σ
  events : List ω := []

namespace Outcome

variable {ε ω σ τ α β : Type}

/-- End with a value. -/
def done (state : σ) (value : α) : Outcome ε ω σ α :=
  { answer := .ok value, state }

/-- End with a cause. -/
def stop (state : σ) (cause : ε) : Outcome ε ω σ α :=
  { answer := .error cause, state }

/-- Go on from a value; a cause is final. -/
def bind (first : Outcome ε ω σ α) (next : α → σ → Outcome ε ω σ β) : Outcome ε ω σ β :=
  match first.answer with
  | .error cause => { answer := .error cause, state := first.state, events := first.events }
  | .ok value =>
    let second := next value first.state
    { second with events := first.events ++ second.events }

/-- Report events ahead of those already reported. -/
def after (events : List ω) (outcome : Outcome ε ω σ α) : Outcome ε ω σ α :=
  { outcome with events := events ++ outcome.events }

/-- Change the state that an act left, however it ended. -/
def mapState (f : σ → τ) (outcome : Outcome ε ω σ α) : Outcome ε ω τ α :=
  { answer := outcome.answer, state := f outcome.state, events := outcome.events }

/-- Change the value of an act that succeeded. -/
def map (f : α → β) (outcome : Outcome ε ω σ α) : Outcome ε ω σ β :=
  { answer := outcome.answer.map f, state := outcome.state, events := outcome.events }

@[simp] theorem answer_done (state : σ) (value : α) :
    (done state value : Outcome ε ω σ α).answer = .ok value := rfl

@[simp] theorem state_done (state : σ) (value : α) :
    (done state value : Outcome ε ω σ α).state = state := rfl

@[simp] theorem answer_stop (state : σ) (cause : ε) :
    (stop state cause : Outcome ε ω σ α).answer = .error cause := rfl

@[simp] theorem state_stop (state : σ) (cause : ε) :
    (stop state cause : Outcome ε ω σ α).state = state := rfl

@[simp] theorem state_mapState (f : σ → τ) (outcome : Outcome ε ω σ α) :
    (outcome.mapState f).state = f outcome.state := rfl

@[simp] theorem answer_mapState (f : σ → τ) (outcome : Outcome ε ω σ α) :
    (outcome.mapState f).answer = outcome.answer := rfl

@[simp] theorem state_map (f : α → β) (outcome : Outcome ε ω σ α) :
    (outcome.map f).state = outcome.state := rfl

@[simp] theorem answer_map (f : α → β) (outcome : Outcome ε ω σ α) :
    (outcome.map f).answer = outcome.answer.map f := rfl

/-- Changing the value does not change a cause. -/
theorem answer_map_eq_error_iff {f : α → β} {outcome : Outcome ε ω σ α} {cause : ε} :
    (outcome.map f).answer = .error cause ↔ outcome.answer = .error cause := by
  rw [answer_map]
  cases outcome.answer with
  | error other => simp only [Except.map, Except.error.injEq]
  | ok value => simp only [Except.map, reduceCtorEq]

theorem answer_map_eq_ok_iff {f : α → β} {outcome : Outcome ε ω σ α} {value : β} :
    (outcome.map f).answer = .ok value ↔ ∃ first, outcome.answer = .ok first ∧ f first = value := by
  rw [answer_map]
  cases outcome.answer with
  | error cause => simp only [Except.map, reduceCtorEq, false_and, exists_false]
  | ok first => simp only [Except.map, Except.ok.injEq, exists_eq_left']

@[simp] theorem state_after (events : List ω) (outcome : Outcome ε ω σ α) :
    (outcome.after events).state = outcome.state := rfl

@[simp] theorem answer_after (events : List ω) (outcome : Outcome ε ω σ α) :
    (outcome.after events).answer = outcome.answer := rfl

/-- What follows a value happens after what came with it. -/
theorem bind_of_ok {first : Outcome ε ω σ α} {value : α} (h : first.answer = .ok value)
    (next : α → σ → Outcome ε ω σ β) :
    first.bind next = (next value first.state).after first.events := by
  unfold bind
  rw [h]
  rfl

theorem bind_of_error {first : Outcome ε ω σ α} {cause : ε} (h : first.answer = .error cause)
    (next : α → σ → Outcome ε ω σ β) :
    first.bind next = { answer := .error cause, state := first.state, events := first.events } := by
  unfold bind
  rw [h]

/-- What follows a value starts in the state that came with it. -/
theorem state_bind_of_ok {first : Outcome ε ω σ α} {value : α} (h : first.answer = .ok value)
    (next : α → σ → Outcome ε ω σ β) :
    (first.bind next).state = (next value first.state).state := by
  unfold bind
  rw [h]

theorem answer_bind_of_ok {first : Outcome ε ω σ α} {value : α} (h : first.answer = .ok value)
    (next : α → σ → Outcome ε ω σ β) :
    (first.bind next).answer = (next value first.state).answer := by
  unfold bind
  rw [h]

/-- Nothing follows a cause. -/
theorem state_bind_of_error {first : Outcome ε ω σ α} {cause : ε} (h : first.answer = .error cause)
    (next : α → σ → Outcome ε ω σ β) : (first.bind next).state = first.state := by
  unfold bind
  rw [h]

theorem answer_bind_of_error {first : Outcome ε ω σ α} {cause : ε}
    (h : first.answer = .error cause) (next : α → σ → Outcome ε ω σ β) :
    (first.bind next).answer = .error cause := by
  unfold bind
  rw [h]

/-- To go on from a value with nothing reported is to start from it. -/
theorem done_bind (state : σ) (value : α) (next : α → σ → Outcome ε ω σ β) :
    (done state value).bind next = next value state := rfl

/-- To go on from a value with another one is to change it. -/
theorem bind_done (outcome : Outcome ε ω σ α) (f : α → β) :
    (outcome.bind fun value state => .done state (f value)) = outcome.map f := by
  unfold bind map
  cases outcome.answer with
  | error cause => rfl
  | ok value => simp only [done, Except.map, List.append_nil]

end Outcome

/-- What may be done to a state of type `σ`, with value `α`, cause `ε` and events `ω`. -/
def Act (ε ω σ α : Type) : Type := σ → Outcome ε ω σ α

namespace Act

variable {ε ω σ τ α β : Type}

instance : Monad (Act ε ω σ) where
  pure value := fun state => .done state value
  bind act next := fun state => (act state).bind next

/-- The state as it is. -/
def get : Act ε ω σ σ := fun state => .done state state

/-- Change the state. -/
def modify (f : σ → σ) : Act ε ω σ Unit := fun state => .done (f state) ()

/-- End with a cause. -/
def throw (cause : ε) : Act ε ω σ α := fun state => .stop state cause

/-- Report an event. -/
def report (event : ω) : Act ε ω σ Unit := fun state =>
  { answer := .ok (), state, events := [event] }

/-- Go on with the value of a computation that may fail. -/
def ofExcept : Except ε α → Act ε ω σ α
  | .ok value => pure value
  | .error cause => throw cause

@[simp] theorem pure_apply (value : α) (state : σ) :
    (pure value : Act ε ω σ α) state = .done state value := rfl

@[simp] theorem bind_apply (act : Act ε ω σ α) (next : α → Act ε ω σ β) (state : σ) :
    (act >>= next) state = (act state).bind next := rfl

@[simp] theorem map_apply (f : α → β) (act : Act ε ω σ α) (state : σ) :
    (f <$> act) state = (act state).map f := Outcome.bind_done (act state) f

end Act

end TaskKernel
