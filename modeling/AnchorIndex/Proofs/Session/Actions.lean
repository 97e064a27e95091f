import AnchorIndex.Proofs.Store.Actions
import AnchorIndex.Session.Basic

/-!
# Running operations of sessions

An operation of a session is run in a state of the session as one of the store is run in a state
of the store (`Effect.run`). A composed operation that succeeds falls into parts that succeed
(`Effect.exists_of_run_bind`), and an operation on the store is run on the store of the session
(`Effect.run_onStore`).
-/

namespace AnchorIndex.Session

variable {α β : Type}

namespace Effect

/-- What an operation answers in a state, and the state that it leaves. -/
def run (x : Action α) (s : State) : Except Failure α × State :=
  StateT.run (ExceptT.run x) s

/-- What an operation answers in a state. -/
def answer (x : Action α) (s : State) : Except Failure α :=
  (run x s).1

/-- The state that an operation leaves. -/
def after (x : Action α) (s : State) : State :=
  (run x s).2

theorem run_of_answer {x : Action α} {s : State} {r : Except Failure α} (h : answer x s = r) :
  run x s = (r, after x s)
  := Prod.ext h rfl

theorem exists_run_of_isSome {x : Action α} {s : State}
    (h : (answer x s).toOption.isSome = true) :
  ∃ a, run x s = (.ok a, after x s)
  := by
  cases hanswer : answer x s with
  | ok a => exact ⟨a, run_of_answer hanswer⟩
  | error failure =>
    rw [hanswer] at h
    contradiction

@[simp]
theorem run_pure (a : α) (s : State) :
  run (pure a) s = (.ok a, s)
  := rfl

/-- A failure ends an operation; else it goes on with the result. -/
theorem run_bind (x : Action α) (f : α → Action β) (s : State) :
  run (x >>= f) s
    = match run x s with
      | (.ok a, s') => run (f a) s'
      | (.error failure, s') => (.error failure, s')
  := by
  change (ExceptT.bindCont f (StateT.run (ExceptT.run x) s).1 : StateM State _)
      (StateT.run (ExceptT.run x) s).2 = _
  rw [run]
  obtain ⟨r, s'⟩ := StateT.run (ExceptT.run x) s
  cases r <;> rfl

theorem run_bind_ok {x : Action α} {s s' : State} {a : α} (h : run x s = (.ok a, s'))
    (f : α → Action β) :
  run (x >>= f) s = run (f a) s'
  := by
  rw [run_bind, h]

theorem run_bind_error {x : Action α} {s s' : State} {failure : Failure}
    (h : run x s = (.error failure, s')) (f : α → Action β) :
  run (x >>= f) s = (.error failure, s')
  := by
  rw [run_bind, h]

/-- Of a composed operation that succeeds, both parts do. -/
theorem exists_of_run_bind {x : Action α} {f : α → Action β} {s s' : State} {b : β}
    (h : run (x >>= f) s = (.ok b, s')) :
  ∃ a s₁, run x s = (.ok a, s₁) ∧ run (f a) s₁ = (.ok b, s')
  := by
  cases hx : run x s with
  | mk r s₁ =>
    cases r with
    | error failure =>
      rw [run_bind_error hx] at h
      cases h
    | ok a =>
      rw [run_bind_ok hx] at h
      exact ⟨a, s₁, rfl, h⟩

@[simp]
theorem run_get_bind (f : State → Action β) (s : State) :
  run (get >>= f) s = run (f s) s
  := run_bind_ok (show run get s = (.ok s, s) from rfl) f

@[simp]
theorem run_modify (f : State → State) (s : State) :
  run (modify f) s = (.ok ⟨⟩, f s)
  := rfl

@[simp]
theorem run_modify_bind (f : State → State) (g : PUnit → Action β) (s : State) :
  run (modify f >>= g) s = run (g ⟨⟩) (f s)
  := run_bind_ok (run_modify f s) g

@[simp]
theorem run_lift (r : Except Failure α) (s : State) :
  run (lift r) s = (r, s)
  := by
  cases r <;> rfl

/-- An operation on the store is run on the store of the session. -/
theorem run_onStore (x : Store.Action α) (s : State) :
  run (onStore x) s
    = ((Store.Effect.run x s.store).1, { s with store := (Store.Effect.run x s.store).2 })
  := rfl

theorem run_onStore_eq {x : Store.Action α} {s : State} {r : Except Failure α}
    {store : Store.State} (h : Store.Effect.run x s.store = (r, store)) :
  run (onStore x) s = (r, { s with store := store })
  := by
  rw [run_onStore, h]

/-- An operation on the store that succeeds does so on the store of the session. -/
theorem exists_of_run_onStore {x : Store.Action α} {s s' : State} {a : α}
    (h : run (onStore x) s = (.ok a, s')) :
  ∃ store, Store.Effect.run x s.store = (.ok a, store) ∧ s' = { s with store := store }
  := by
  rw [run_onStore, Prod.mk.injEq] at h
  exact ⟨_, Prod.ext h.1 rfl, h.2.symm⟩

end Effect

end AnchorIndex.Session
