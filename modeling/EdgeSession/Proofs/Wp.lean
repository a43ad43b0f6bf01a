/-!
Weakest preconditions of steps that may fail: what has to hold of the state before, so that `Q`
holds of the result and of the state it leaves, or `E` of the fault and of the state it leaves.
-/
namespace EdgeSession

variable {ε φ σ α β : Type} {Q R : α → σ → Prop} {E F : ε → σ → Prop} {s : σ}

def wp (task : ExceptT ε (StateM σ) α) (Q : α → σ → Prop) (E : ε → σ → Prop) (s : σ) : Prop :=
  match (ExceptT.run task).run s with
  | (.ok a, t) => Q a t
  | (.error fault, t) => E fault t

@[simp] theorem wp_pure (a : α) : wp (pure a : ExceptT ε (StateM σ) α) Q E s = Q a s := rfl

@[simp] theorem wp_get {Q : σ → σ → Prop} :
    wp (get : ExceptT ε (StateM σ) σ) Q E s = Q s s := rfl

@[simp] theorem wp_set {Q : PUnit → σ → Prop} (t : σ) :
    wp (set t : ExceptT ε (StateM σ) PUnit) Q E s = Q ⟨⟩ t := rfl

@[simp] theorem wp_modify {Q : PUnit → σ → Prop} (f : σ → σ) :
    wp (modify f : ExceptT ε (StateM σ) PUnit) Q E s = Q ⟨⟩ (f s) := rfl

@[simp] theorem wp_bind {Q : β → σ → Prop} (task : ExceptT ε (StateM σ) α)
    (next : α → ExceptT ε (StateM σ) β) :
    wp (task >>= next) Q E s = wp task (fun a => wp (next a) Q E) E s := by
  unfold wp ExceptT.run StateT.run
  simp only [bind, ExceptT.bind, ExceptT.mk, StateT.bind]
  cases task s with
  | mk result t => cases result <;> rfl

@[simp] theorem wp_tryCatch (task : ExceptT ε (StateM σ) α)
    (handler : ε → ExceptT ε (StateM σ) α) :
    wp (tryCatch task handler) Q E s = wp task Q (fun fault => wp (handler fault) Q E) s := by
  unfold wp ExceptT.run StateT.run
  simp only [tryCatch, tryCatchThe, MonadExceptOf.tryCatch, ExceptT.tryCatch, ExceptT.mk, bind,
    StateT.bind]
  cases task s with
  | mk result t => cases result <;> rfl

/-- Faults under another name. -/
@[simp] theorem wp_adapt {E : φ → σ → Prop} (f : ε → φ) (task : ExceptT ε (StateM σ) α) :
    wp (ExceptT.adapt f task) Q E s = wp task Q (fun fault => E (f fault)) s := by
  unfold wp ExceptT.adapt ExceptT.run StateT.run
  simp only [ExceptT.mk, Functor.map, StateT.map]
  cases task s with
  | mk result t => cases result <;> rfl

theorem wp_congr {task other : ExceptT ε (StateM σ) α}
    (same : (ExceptT.run task).run s = (ExceptT.run other).run s) :
    wp task Q E s = wp other Q E s := by
  unfold wp
  rw [same]

theorem wp_ok {task : ExceptT ε (StateM σ) α} {a : α} {t : σ}
    (ran : (ExceptT.run task).run s = (.ok a, t)) : wp task Q E s = Q a t := by
  unfold wp
  rw [ran]

theorem wp_error {task : ExceptT ε (StateM σ) α} {fault : ε} {t : σ}
    (ran : (ExceptT.run task).run s = (.error fault, t)) : wp task Q E s = E fault t := by
  unfold wp
  rw [ran]

theorem wp_mono {task : ExceptT ε (StateM σ) α} (h : wp task R F s)
    (result : ∀ a t, R a t → Q a t) (raised : ∀ fault t, F fault t → E fault t) :
    wp task Q E s := by
  unfold wp at h ⊢
  split at h
  · exact result _ _ h
  · exact raised _ _ h

/-- What is known of a result holds along with the run that gave it. -/
theorem wp_ran {task : ExceptT ε (StateM σ) α} (h : wp task Q E s) :
    wp task (fun a t => Q a t ∧ (ExceptT.run task).run s = (.ok a, t))
      (fun fault t => E fault t ∧ (ExceptT.run task).run s = (.error fault, t)) s := by
  unfold wp at h ⊢
  split at h <;> rename_i ran <;> rw [ran] <;> exact ⟨h, rfl⟩

end EdgeSession
