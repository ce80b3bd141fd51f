import TunnelProvisioning.Log.Event

/-! # Actions

An action runs from a state to an outcome, a new state and the events it logged. A failed step ends
a sequence of steps, and what the steps before it did to the state and to the log stays done.
-/

namespace TunnelProvisioning

/-- What a run of an action leaves behind. -/
structure Report (σ ε α : Type) where
  outcome : Except ε α
  state : σ
  events : List Event

/-- A step that reads and changes a state, logs events, and may fail. -/
def Action (σ ε α : Type) : Type :=
  σ → Report σ ε α

namespace Action

variable {σ τ ε α β : Type}

def run (action : Action σ ε α) (state : σ) : Report σ ε α :=
  action state

protected def pure (value : α) : Action σ ε α := fun state =>
  ⟨.ok value, state, []⟩

/-- Goes on with the value of an action, unless it failed. -/
protected def bind (first : Action σ ε α) (next : α → Action σ ε β) : Action σ ε β := fun state =>
  match first state with
  | ⟨.ok value, state, events⟩ =>
    let report := next value state
    ⟨report.outcome, report.state, events ++ report.events⟩
  | ⟨.error fault, state, events⟩ => ⟨.error fault, state, events⟩

instance : Monad (Action σ ε) where
  pure := Action.pure
  bind := Action.bind

def fail (fault : ε) : Action σ ε α := fun state =>
  ⟨.error fault, state, []⟩

/-- Fails as a check does, or answers what it answers. -/
def ofExcept (result : Except ε α) : Action σ ε α := fun state =>
  ⟨result, state, []⟩

def log (level : Level) (origin : Origin) (message : String) : Action σ ε Unit := fun state =>
  ⟨.ok (), state, [⟨level, origin, message⟩]⟩

/-- Applies an operation of the state. -/
def operate (operation : σ → α × σ) : Action σ ε α := fun state =>
  let (value, state) := operation state
  ⟨.ok value, state, []⟩

/-- Changes the state after an action, whether it failed or not. -/
def ensuring (change : σ → σ) (action : Action σ ε α) : Action σ ε α := fun state =>
  let report := action state
  { report with state := change report.state }

/-- Changes the state after an action that failed. -/
def onFailure (change : σ → σ) (action : Action σ ε α) : Action σ ε α := fun state =>
  match action state with
  | ⟨.ok value, state, events⟩ => ⟨.ok value, state, events⟩
  | ⟨.error fault, state, events⟩ => ⟨.error fault, change state, events⟩

/-- Answers the outcome of an action, which therefore does not fail. -/
def attempt {ε' : Type} (action : Action σ ε α) : Action σ ε' (Except ε α) := fun state =>
  let report := action state
  ⟨.ok report.outcome, report.state, report.events⟩

/-- Lets an action work on the first part of a state. -/
def onFirst (action : Action σ ε α) : Action (σ × τ) ε α := fun (first, second) =>
  let report := action first
  ⟨report.outcome, (report.state, second), report.events⟩

def onSecond (action : Action τ ε α) : Action (σ × τ) ε α := fun (first, second) =>
  let report := action second
  ⟨report.outcome, (first, report.state), report.events⟩

/-! ## What a run leaves behind -/

@[simp] theorem run_pure (value : α) (state : σ) :
    (pure value : Action σ ε α).run state = ⟨.ok value, state, []⟩ := rfl

/-- A sequence runs its second action from where the first one left the state, or not at all. -/
theorem run_bind (first : Action σ ε α) (next : α → Action σ ε β) (state : σ) :
    (first >>= next).run state =
      match first.run state with
      | ⟨.ok value, after, events⟩ =>
        ⟨((next value).run after).outcome, ((next value).run after).state,
          events ++ ((next value).run after).events⟩
      | ⟨.error fault, after, events⟩ => ⟨.error fault, after, events⟩ := rfl

/-- A sequence whose first action succeeds goes on with its second one. -/
theorem run_bind_of_ok {first : Action σ ε α} {state after : σ} {value : α} {events : List Event}
    (ran : first.run state = ⟨.ok value, after, events⟩) (next : α → Action σ ε β) :
    (first >>= next).run state =
      ⟨((next value).run after).outcome, ((next value).run after).state,
        events ++ ((next value).run after).events⟩ := by
  rw [run_bind, ran]

/-- A sequence whose first action fails ends there. -/
theorem run_bind_of_error {first : Action σ ε α} {state after : σ} {fault : ε}
    {events : List Event} (ran : first.run state = ⟨.error fault, after, events⟩)
    (next : α → Action σ ε β) :
    (first >>= next).run state = ⟨.error fault, after, events⟩ := by
  rw [run_bind, ran]

theorem run_map (f : α → β) (action : Action σ ε α) (state : σ) :
    (f <$> action).run state =
      ⟨(action.run state).outcome.map f, (action.run state).state, (action.run state).events⟩ := by
  change (action >>= fun value => pure (f value)).run state = _
  rw [run_bind]
  rcases action.run state with ⟨_ | value, after, events⟩
  · rfl
  · simp only [run_pure, List.append_nil, Except.map]

theorem outcome_bind (first : Action σ ε α) (next : α → Action σ ε β) (state : σ) :
    ((first >>= next).run state).outcome =
      (first.run state).outcome.bind fun value =>
        ((next value).run (first.run state).state).outcome := by
  rw [run_bind]
  rcases first.run state with ⟨_ | _, _, _⟩ <;> rfl

theorem state_bind (first : Action σ ε α) (next : α → Action σ ε β) (state : σ) :
    ((first >>= next).run state).state =
      match (first.run state).outcome with
      | .ok value => ((next value).run (first.run state).state).state
      | .error _ => (first.run state).state := by
  rw [run_bind]
  rcases first.run state with ⟨_ | _, _, _⟩ <;> rfl

theorem events_bind (first : Action σ ε α) (next : α → Action σ ε β) (state : σ) :
    ((first >>= next).run state).events =
      (first.run state).events ++
        match (first.run state).outcome with
        | .ok value => ((next value).run (first.run state).state).events
        | .error _ => [] := by
  rw [run_bind]
  rcases first.run state with ⟨_ | _, _, _⟩
  · exact (List.append_nil _).symm
  · rfl

@[simp] theorem run_fail (fault : ε) (state : σ) :
    (fail fault : Action σ ε α).run state = ⟨.error fault, state, []⟩ := rfl

@[simp] theorem run_ofExcept (result : Except ε α) (state : σ) :
    (ofExcept result : Action σ ε α).run state = ⟨result, state, []⟩ := rfl

@[simp] theorem run_log (level : Level) (origin : Origin) (message : String) (state : σ) :
    (log level origin message : Action σ ε Unit).run state =
      ⟨.ok (), state, [⟨level, origin, message⟩]⟩ := rfl

@[simp] theorem run_operate (operation : σ → α × σ) (state : σ) :
    (operate operation : Action σ ε α).run state =
      ⟨.ok (operation state).1, (operation state).2, []⟩ := rfl

@[simp] theorem run_ensuring (change : σ → σ) (action : Action σ ε α) (state : σ) :
    (action.ensuring change).run state =
      { action.run state with state := change (action.run state).state } := rfl

theorem run_onFailure (change : σ → σ) (action : Action σ ε α) (state : σ) :
    (action.onFailure change).run state =
      ⟨(action.run state).outcome,
        if (action.run state).outcome.isOk then (action.run state).state
        else change (action.run state).state,
        (action.run state).events⟩ := by
  change (match action.run state with
    | ⟨.ok value, after, events⟩ => (⟨.ok value, after, events⟩ : Report σ ε α)
    | ⟨.error fault, after, events⟩ => ⟨.error fault, change after, events⟩) = _
  rcases action.run state with ⟨_ | _, _, _⟩ <;> rfl

/-- An attempt succeeds with the outcome of the action, whatever that is. -/
@[simp] theorem run_attempt {ε' : Type} (action : Action σ ε α) (state : σ) :
    (action.attempt : Action σ ε' (Except ε α)).run state =
      ⟨.ok (action.run state).outcome, (action.run state).state, (action.run state).events⟩ := rfl

@[simp] theorem run_onFirst (action : Action σ ε α) (state : σ × τ) :
    (action.onFirst (τ := τ)).run state =
      ⟨(action.run state.1).outcome, ((action.run state.1).state, state.2),
        (action.run state.1).events⟩ := rfl

@[simp] theorem run_onSecond (action : Action τ ε α) (state : σ × τ) :
    (action.onSecond (σ := σ)).run state =
      ⟨(action.run state.2).outcome, (state.1, (action.run state.2).state),
        (action.run state.2).events⟩ := rfl

end Action

end TunnelProvisioning
