namespace Mef26

/-! # Fallible calls and receivers that are updated in place

`Outcome` is what a call hands back: a value, a reported error, or nothing at
all because it panicked. `Update` is a method on a mutable receiver. It
returns the receiver next to the outcome, because assignments made before an
early exit are not undone by the exit. -/

/-- How a call ends. -/
inductive Outcome (Error : Type u) (α : Type v)
  | ok (value : α)
  | err (error : Error)
  | panic
  deriving DecidableEq, Repr

namespace Outcome

protected def bind {Error : Type u} {α : Type v} {β : Type w}
    (outcome : Outcome Error α) (next : α → Outcome Error β) : Outcome Error β :=
  match outcome with
  | .ok value => next value
  | .err error => .err error
  | .panic => .panic

instance {Error : Type u} : Monad (Outcome Error) where
  pure := .ok
  bind := Outcome.bind

variable {Error : Type u} {α β : Type v}

@[simp] theorem pure_eq_ok (value : α) :
    (pure value : Outcome Error α) = .ok value := rfl

@[simp] theorem ok_bind (value : α) (next : α → Outcome Error β) :
    (Outcome.ok value >>= next) = next value := rfl

@[simp] theorem err_bind (error : Error) (next : α → Outcome Error β) :
    (Outcome.err error >>= next) = .err error := rfl

@[simp] theorem panic_bind (next : α → Outcome Error β) :
    ((Outcome.panic : Outcome Error α) >>= next) = .panic := rfl

theorem bind_assoc {γ : Type v} (outcome : Outcome Error α) (next : α → Outcome Error β)
    (last : β → Outcome Error γ) :
    (outcome >>= next >>= last) = (outcome >>= fun value => next value >>= last) := by
  cases outcome <;> rfl

theorem bind_eq_ok {outcome : Outcome Error α} {next : α → Outcome Error β}
    {result : β} :
    (outcome >>= next) = .ok result ↔
      ∃ value, outcome = .ok value ∧ next value = .ok result := by
  cases outcome <;> simp

theorem bind_ne_panic {outcome : Outcome Error α}
    {next : α → Outcome Error β} (first : outcome ≠ .panic)
    (rest : ∀ value, outcome = .ok value → next value ≠ .panic) :
    (outcome >>= next) ≠ .panic := by
  cases outcome with
  | ok value => exact rest value rfl
  | err error => simp
  | panic => exact absurd rfl first

theorem bind_ne_err {error : Error} {outcome : Outcome Error α}
    {next : α → Outcome Error β} (first : outcome ≠ .err error)
    (rest : ∀ value, outcome = .ok value → next value ≠ .err error) :
    (outcome >>= next) ≠ .err error := by
  cases outcome with
  | ok value => exact rest value rfl
  | err other =>
      intro same
      exact first (by cases same; rfl)
  | panic => simp

def map (view : α → β) : Outcome Error α → Outcome Error β
  | .ok value => .ok (view value)
  | .err error => .err error
  | .panic => .panic

@[simp] theorem map_ok (view : α → β) (value : α) :
    (Outcome.ok value : Outcome Error α).map view = .ok (view value) := rfl

@[simp] theorem map_err (view : α → β) (error : Error) :
    (Outcome.err error : Outcome Error α).map view = .err error := rfl

theorem map_ne_ok {view : α → β} {result : β} (outcome : Outcome Error α)
    (different : ∀ value, view value ≠ result) : outcome.map view ≠ .ok result := by
  cases outcome <;> simp [map, different]

theorem map_injective {view : α → β} (injective : Function.Injective view) :
    Function.Injective (map view : Outcome Error α → Outcome Error β) := by
  intro first second same
  cases first with
  | ok value =>
      cases second with
      | ok value' =>
          rw [map_ok, map_ok, ok.injEq] at same
          rw [injective same]
      | err | panic => cases same
  | err error =>
      cases second with
      | err error' =>
          rw [map_err, map_err, err.injEq] at same
          rw [same]
      | ok | panic => cases same
  | panic =>
      cases second with
      | panic => rfl
      | ok | err => cases same

def okOr (error : Error) : Option α → Outcome Error α
  | some value => .ok value
  | none => .err error

@[simp] theorem okOr_some (error : Error) (value : α) :
    okOr error (some value) = .ok value := rfl

@[simp] theorem okOr_none (error : Error) :
    okOr error (none : Option α) = .err error := rfl

@[simp] theorem okOr_eq_ok {error : Error} {source : Option α} {value : α} :
    okOr error source = .ok value ↔ source = some value := by
  cases source <;> simp [okOr]

@[simp] theorem okOr_ne_panic (error : Error) (source : Option α) :
    okOr error source ≠ .panic := by
  cases source <;> simp

/-- Leave with an error when the condition holds, as an early `return` does. -/
def rejectIf (condition : Prop) [Decidable condition] (error : Error) :
    Outcome Error PUnit :=
  if condition then .err error else .ok ⟨⟩

theorem okOr_ne_err {error other : Error} (different : other ≠ error) (source : Option α) :
    okOr other source ≠ .err error := by
  cases source <;> simp [okOr, different]

@[simp] theorem rejectIf_eq_ok {condition : Prop} [Decidable condition]
    {error : Error} {value : PUnit} :
    rejectIf condition error = .ok value ↔ ¬condition := by
  unfold rejectIf
  split <;> simp_all

@[simp] theorem rejectIf_ne_panic (condition : Prop) [Decidable condition]
    (error : Error) : rejectIf condition error ≠ .panic := by
  unfold rejectIf
  split <;> simp

theorem rejectIf_bind_ne_panic {condition : Prop} [Decidable condition] {error : Error}
    {next : PUnit → Outcome Error β} (rest : next ⟨⟩ ≠ .panic) :
    (rejectIf condition error >>= next) ≠ .panic :=
  bind_ne_panic (rejectIf_ne_panic condition error) fun _ _ => rest

theorem rejectIf_ne_err {error other : Error} (different : other ≠ error)
    (condition : Prop) [Decidable condition] : rejectIf condition other ≠ .err error := by
  unfold rejectIf
  split <;> simp [different]

theorem rejectIf_of {condition : Prop} [Decidable condition] (error : Error)
    (holds : condition) : rejectIf condition error = .err error := by
  simp [rejectIf, holds]

theorem rejectIf_of_not {condition : Prop} [Decidable condition] (error : Error)
    (fails : ¬condition) : rejectIf condition error = .ok ⟨⟩ := by
  simp [rejectIf, fails]

theorem rejectIf_congr {condition condition' : Prop} [Decidable condition]
    [Decidable condition'] (error : Error) (same : condition ↔ condition') :
    rejectIf condition error = rejectIf condition' error := by
  simp [rejectIf, same]

def Fails (outcome : Outcome Error α) : Prop := ∃ error, outcome = .err error

theorem fails_of {outcome : Outcome Error α} (notOk : ∀ value, outcome ≠ .ok value)
    (notPanic : outcome ≠ .panic) : outcome.Fails := by
  cases outcome with
  | ok value => exact absurd rfl (notOk value)
  | err error => exact ⟨error, rfl⟩
  | panic => exact absurd rfl notPanic

def Returns (outcome : Outcome Error α) : Prop :=
  (∃ value, outcome = .ok value) ∨ outcome.Fails

theorem returns_of {outcome : Outcome Error α} (notPanic : outcome ≠ .panic) :
    outcome.Returns := by
  cases outcome with
  | ok value => exact .inl ⟨value, rfl⟩
  | err error => exact .inr ⟨error, rfl⟩
  | panic => exact absurd rfl notPanic

/-- The end of a method that touches its receiver only when it succeeds. -/
def settle {State : Type w} (outcome : Outcome Error α) (accepted refused : State) :
    Outcome Error α × State :=
  match outcome with
  | .ok value => (.ok value, accepted)
  | .err error => (.err error, refused)
  | .panic => (.panic, refused)

@[simp] theorem settle_fst {State : Type w} (outcome : Outcome Error α)
    (accepted refused : State) : (outcome.settle accepted refused).1 = outcome := by
  cases outcome <;> rfl

theorem settle_of_ok {State : Type w} {outcome : Outcome Error α} {value : α}
    (ended : outcome = .ok value) (accepted refused : State) :
    outcome.settle accepted refused = (.ok value, accepted) := by
  rw [ended]
  rfl

end Outcome

/-- A method on a receiver of type `State`. -/
def Update (State : Type u) (Error : Type v) (α : Type w) :=
  State → Outcome Error α × State

namespace Update

variable {State : Type u} {Error : Type v}

protected def bind (first : Update State Error α) (next : α → Update State Error β) :
    Update State Error β :=
  fun state =>
    match first state with
    | (.ok value, middle) => next value middle
    | (.err error, middle) => (.err error, middle)
    | (.panic, middle) => (.panic, middle)

instance : Monad (Update State Error) where
  pure value := fun state => (.ok value, state)
  bind := Update.bind

instance : MonadLift (Outcome Error) (Update State Error) where
  monadLift outcome := fun state => (outcome, state)

def read : Update State Error State :=
  fun state => (.ok state, state)

def modify (change : State → State) : Update State Error PUnit :=
  fun state => (.ok ⟨⟩, change state)

@[simp] theorem pure_apply (value : α) (state : State) :
    (pure value : Update State Error α) state = (.ok value, state) := rfl

@[simp] theorem read_apply (state : State) :
    (read : Update State Error State) state = (.ok state, state) := rfl

@[simp] theorem modify_apply (change : State → State) (state : State) :
    (modify change : Update State Error PUnit) state = (.ok ⟨⟩, change state) := rfl

@[simp] theorem lift_apply (outcome : Outcome Error α) (state : State) :
    (liftM outcome : Update State Error α) state = (outcome, state) := rfl

theorem bind_apply (first : Update State Error α)
    (next : α → Update State Error β) (state : State) :
    (first >>= next) state =
      match first state with
      | (.ok value, middle) => next value middle
      | (.err error, middle) => (.err error, middle)
      | (.panic, middle) => (.panic, middle) := rfl

theorem lift_bind_apply (outcome : Outcome Error α)
    (next : α → Update State Error β) (state : State) :
    ((liftM outcome : Update State Error α) >>= next) state =
      match outcome with
      | .ok value => next value state
      | .err error => (.err error, state)
      | .panic => (.panic, state) := by
  cases outcome <;> rfl

@[simp] theorem lift_ok_bind (value : α) (next : α → Update State Error β) (state : State) :
    ((liftM (Outcome.ok value : Outcome Error α) : Update State Error α) >>= next) state =
      next value state := rfl

theorem lift_bind_settle {outcome : Outcome Error α} {next : α → Update State Error β}
    {value : α → Outcome Error β} {state accepted : State}
    (rest : ∀ result, outcome = .ok result →
      next result state = (value result).settle accepted state) :
    ((liftM outcome : Update State Error α) >>= next) state =
      (outcome >>= value).settle accepted state := by
  cases outcome with
  | ok result => exact rest result rfl
  | err | panic => rfl

theorem lift_bind_ne_err {error : Error} {outcome : Outcome Error α}
    {next : α → Update State Error β} {state : State} (first : outcome ≠ .err error)
    (rest : ∀ value, outcome = .ok value → (next value state).1 ≠ .err error) :
    (((liftM outcome : Update State Error α) >>= next) state).1 ≠ .err error := by
  rw [lift_bind_apply]
  cases outcome with
  | ok value => exact rest value rfl
  | err other =>
      intro same
      exact first (by cases same; rfl)
  | panic => simp

@[simp] theorem read_bind_apply (next : State → Update State Error β)
    (state : State) : (read >>= next) state = next state state := rfl

@[simp] theorem modify_bind_apply (change : State → State)
    (next : PUnit → Update State Error β) (state : State) :
    (modify change >>= next) state = next ⟨⟩ (change state) := rfl

end Update

end Mef26
