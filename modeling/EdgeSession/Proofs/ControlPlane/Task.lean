import EdgeSession.ControlPlane.Fault

/-!
Running tasks step by step: what each kind of step gives, and the state it leaves.
-/
namespace EdgeSession.ControlPlane.Task

variable {σ α β ε : Type}

@[simp] theorem exec_get (s : σ) : exec (get : Task σ σ) s = (.ok s, s) := rfl

@[simp] theorem exec_set (s t : σ) : exec (set t : Task σ PUnit) s = (.ok ⟨⟩, t) := rfl

@[simp] theorem exec_ofExcept_ok (f : ε → Fault) (a : α) (s : σ) :
    exec (ofExcept f (.ok a)) s = (.ok a, s) := rfl

@[simp] theorem exec_ofExcept_error (f : ε → Fault) (e : ε) (s : σ) :
    exec (ofExcept f (.error e) : Task σ α) s = (.error (f e), s) := rfl

/-- A task that fails keeps what follows it from running. -/
theorem exec_bind (task : Task σ α) (next : α → Task σ β) (s : σ) :
    exec (task >>= next) s =
      match exec task s with
      | (.ok a, t) => exec (next a) t
      | (.error fault, t) => (.error fault, t) := by
  unfold exec ExceptT.run StateT.run
  simp only [bind, ExceptT.bind, ExceptT.mk, StateT.bind]
  cases task s with
  | mk result t => cases result <;> rfl

theorem exec_bind_ok {task : Task σ α} {next : α → Task σ β} {s t : σ} {a : α}
    (h : exec task s = (.ok a, t)) : exec (task >>= next) s = exec (next a) t := by
  rw [exec_bind, h]

theorem exec_bind_error {task : Task σ α} {next : α → Task σ β} {s t : σ} {fault : Fault}
    (h : exec task s = (.error fault, t)) : exec (task >>= next) s = (.error fault, t) := by
  rw [exec_bind, h]

/-- A task that fails hands over to the handler, with the state it left. -/
theorem exec_tryCatch (task : Task σ α) (handler : Fault → Task σ α) (s : σ) :
    exec (tryCatch task handler) s =
      match exec task s with
      | (.ok a, t) => (.ok a, t)
      | (.error fault, t) => exec (handler fault) t := by
  unfold exec ExceptT.run StateT.run
  simp only [tryCatch, tryCatchThe, MonadExceptOf.tryCatch, ExceptT.tryCatch, ExceptT.mk, bind,
    StateT.bind]
  cases task s with
  | mk result t => cases result <;> rfl

end EdgeSession.ControlPlane.Task
