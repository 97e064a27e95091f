import AnchorIndex.Store.Basic

/-!
# Running operations

An operation is run in a state; it answers a result or a failure, and leaves a state
(`Effect.run`). The run of a composed operation is put together from the runs of its parts.
-/

namespace AnchorIndex.Store

variable {α β : Type}

namespace Effect

/-- What an operation answers in a state, and the state that it leaves. -/
def run (x : Action α) (s : State) : Except Failure α × State :=
  StateT.run (ExceptT.run x) s

/-- What an operation answers in a state. -/
def answer (x : Action α) (s : State) : Except Failure α :=
  (run x s).1

/-- The state that an operation leaves. -/
def after (x : Action α) (s : State) : State :=
  (run x s).2

@[simp]
theorem run_pure (a : α) (s : State) :
  run (pure a) s = (.ok a, s)
  := rfl

/-- A failure ends an operation; else it goes on with the result. -/
theorem run_bind (x : Action α) (f : α → Action β) (s : State) :
  run (x >>= f) s
    = match run x s with
      | (.ok a, s') => run (f a) s'
      | (.error failure, s') => (.error failure, s')
  := by
  change (ExceptT.bindCont f (StateT.run (ExceptT.run x) s).1 : StateM State _)
      (StateT.run (ExceptT.run x) s).2 = _
  rw [run]
  obtain ⟨r, s'⟩ := StateT.run (ExceptT.run x) s
  cases r <;> rfl

theorem run_bind_ok {x : Action α} {s s' : State} {a : α} (h : run x s = (.ok a, s'))
    (f : α → Action β) :
  run (x >>= f) s = run (f a) s'
  := by
  rw [run_bind, h]

theorem run_bind_error {x : Action α} {s s' : State} {failure : Failure}
    (h : run x s = (.error failure, s')) (f : α → Action β) :
  run (x >>= f) s = (.error failure, s')
  := by
  rw [run_bind, h]

/-- Of a composed operation that succeeds, both parts do. -/
theorem exists_of_run_bind {x : Action α} {f : α → Action β} {s s' : State} {b : β}
    (h : run (x >>= f) s = (.ok b, s')) :
  ∃ a s₁, run x s = (.ok a, s₁) ∧ run (f a) s₁ = (.ok b, s')
  := by
  cases hx : run x s with
  | mk r s₁ =>
    cases r with
    | error failure =>
      rw [run_bind_error hx] at h
      cases h
    | ok a =>
      rw [run_bind_ok hx] at h
      exact ⟨a, s₁, rfl, h⟩

@[simp]
theorem run_get (s : State) :
  run get s = (.ok s, s)
  := rfl

@[simp]
theorem run_set (s s' : State) :
  run (set s') s = (.ok (), s')
  := rfl

@[simp]
theorem run_throw (failure : Failure) (s : State) :
  run (throw failure : Action α) s = (.error failure, s)
  := rfl

@[simp]
theorem run_get_bind (f : State → Action β) (s : State) :
  run (get >>= f) s = run (f s) s
  := run_bind_ok (run_get s) f

@[simp]
theorem run_set_bind (s s' : State) (f : PUnit → Action β) :
  run (set s' >>= f) s = run (f ()) s'
  := run_bind_ok (run_set s s') f

@[simp]
theorem run_remember (f : Memory → Memory) (s : State) :
  run (remember f) s = (.ok (), { s with memory := f s.memory })
  := rfl

@[simp]
theorem run_lift (r : Except Failure α) (s : State) :
  run (lift r) s = (r, s)
  := by
  cases r <;> rfl

@[simp]
theorem run_map (f : α → β) (x : Action α) (s : State) :
  run (f <$> x) s = ((run x s).1.map f, (run x s).2)
  := by
  change run (x >>= fun a => pure (f a)) s = _
  rw [run_bind]
  obtain ⟨r, s'⟩ := run x s
  cases r <;> rfl

/-- What follows an operation may leave the state as it is. -/
theorem after_bind_eq {f : α → Action β} (hf : ∀ a s, after (f a) s = s) (x : Action α)
    (s : State) :
  after (x >>= f) s = after x s
  := by
  rw [after, after, run_bind]
  obtain ⟨r, s'⟩ := run x s
  cases r with
  | error failure => rfl
  | ok a => exact hf a s'

end Effect

end AnchorIndex.Store
