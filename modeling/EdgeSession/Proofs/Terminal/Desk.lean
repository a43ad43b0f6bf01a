import EdgeSession.Terminal.RawMode
import EdgeSession.Terminal.Shell
import EdgeSession.Terminal.Size
import Mathlib.Data.List.Induction

/-!
The operator's terminal itself, and what the acts of a session do to it. A session that opened it as
far as it could, and then gave it back, leaves it as it was.
-/
namespace EdgeSession.Terminal

/-- A terminal: the mode that it is in, and what is kept of it while a session has it. -/
structure Desk (μ : Type) where
  mode : μ
  raw : RawMode μ := {}
  sizes : SizeWatch

namespace Desk

variable {μ : Type}

/-- What an act does to the terminal, when the system does as it is asked: `rawOf` is the raw form
of a mode, and `onMain` says whether the session runs on the main thread. Where raw mode is refused
there is no act. -/
def perform (rawOf : μ → μ) (onMain : Bool) (d : Desk μ) : LocalAct → Desk μ
  | .showed _ => d
  | .refused _ => d
  | .enteredRaw => { d with mode := rawOf d.mode, raw := (d.raw.enter { mode := .ok d.mode }).2 }
  | .restored => { d with mode := d.raw.saved.getD d.mode, raw := d.raw.restore }
  | .watchedSize => { d with sizes := (d.sizes.start onMain none).2 }
  | .unwatchedSize => { d with sizes := d.sizes.stop none }

/-- The terminal after some acts. -/
def after (rawOf : μ → μ) (onMain : Bool) (acts : List LocalAct) (d : Desk μ) : Desk μ :=
  acts.foldl (perform rawOf onMain) d

/-- No session has the terminal. -/
structure Free (d : Desk μ) : Prop where
  cooked : d.raw.isActive = false
  unwatched : d.sizes.installed = false

end Desk

/-- What is only seen on the screen. -/
def LocalAct.OnScreen : LocalAct → Prop
  | .showed _ => True
  | .refused _ => True
  | _ => False

/-- How far a session opened the terminal before something stood in its way. -/
inductive Opening : List LocalAct → Prop
  | none : Opening []
  | entered : Opening [.enteredRaw]
  | full : Opening [.enteredRaw, .watchedSize]

/-- The acts of a session that has the terminal. -/
def Has (acts : List LocalAct) : Prop :=
  ∃ shown, acts = [.enteredRaw, .watchedSize] ++ shown ∧ ∀ act ∈ shown, act.OnScreen

/-- The acts of a session that has given the terminal back, once. -/
def GaveBack (acts : List LocalAct) : Prop :=
  ∃ opening shown, acts = opening ++ shown ++ [.unwatchedSize, .restored] ∧ Opening opening ∧
    ∀ act ∈ shown, act.OnScreen

/-- Whether a session that did these acts has left the terminal raw. -/
def leavesRaw (acts : List LocalAct) : Bool :=
  acts.foldl (fun raw act => if act = .enteredRaw then true else raw && act != .restored) false

/-- Whether a session that did these acts still has the size watched. -/
def leavesWatched (acts : List LocalAct) : Bool :=
  acts.foldl (fun watched act =>
    if act = .watchedSize then true else watched && act != .unwatchedSize) false

section
variable {μ : Type} {rawOf : μ → μ} {onMain : Bool} {acts : List LocalAct} {d : Desk μ}

theorem leavesRaw_snoc (acts : List LocalAct) (act : LocalAct) :
    leavesRaw (acts ++ [act]) =
      if act = .enteredRaw then true else leavesRaw acts && act != .restored := by
  simp only [leavesRaw, List.foldl_append, List.foldl_cons, List.foldl_nil]

theorem leavesWatched_snoc (acts : List LocalAct) (act : LocalAct) :
    leavesWatched (acts ++ [act]) =
      if act = .watchedSize then true else leavesWatched acts && act != .unwatchedSize := by
  simp only [leavesWatched, List.foldl_append, List.foldl_cons, List.foldl_nil]

theorem leaves_entered (acts : List LocalAct) :
    leavesRaw (acts ++ [.enteredRaw]) = true ∧
      leavesWatched (acts ++ [.enteredRaw]) = leavesWatched acts := by
  simp [leavesRaw_snoc, leavesWatched_snoc]

theorem leaves_sized (acts : List LocalAct) :
    leavesRaw (acts ++ [.watchedSize]) = leavesRaw acts ∧
      leavesWatched (acts ++ [.watchedSize]) = true := by
  simp [leavesRaw_snoc, leavesWatched_snoc]

theorem leaves_given (acts : List LocalAct) :
    leavesRaw (acts ++ [.unwatchedSize, .restored]) = false ∧
      leavesWatched (acts ++ [.unwatchedSize, .restored]) = false := by
  simp [leavesRaw, leavesWatched, List.foldl_append]

/-- What a session has, it leaves behind unless it gives it back. -/
theorem Has.leaves (h : Has acts) : leavesRaw acts = true ∧ leavesWatched acts = true := by
  obtain ⟨shown, rfl, all⟩ := h
  induction shown using List.reverseRecOn with
  | nil => exact ⟨rfl, rfl⟩
  | append_singleton shown act ih =>
    obtain ⟨raw, watched⟩ := ih fun other member => all other (List.mem_append_left _ member)
    have onScreen := all act (List.mem_append_right _ (List.mem_singleton_self _))
    rw [← List.append_assoc, leavesRaw_snoc, leavesWatched_snoc, raw, watched]
    cases act with
    | showed | refused => exact ⟨rfl, rfl⟩
    | _ => exact absurd onScreen id

theorem Has.snoc {act : LocalAct} (h : Has acts) (onScreen : act.OnScreen) :
    Has (acts ++ [act]) := by
  obtain ⟨shown, rfl, all⟩ := h
  refine ⟨shown ++ [act], by simp, fun other member => ?_⟩
  rcases List.mem_append.1 member with earlier | last
  · exact all other earlier
  · rwa [List.mem_singleton.1 last]

theorem Has.giveBack (h : Has acts) : GaveBack (acts ++ [.unwatchedSize, .restored]) := by
  obtain ⟨shown, rfl, all⟩ := h
  exact ⟨_, shown, rfl, .full, all⟩

theorem Opening.giveBack (h : Opening acts) : GaveBack (acts ++ [.unwatchedSize, .restored]) :=
  ⟨acts, [], by simp, h, nofun⟩

theorem count_onScreen {shown : List LocalAct} (all : ∀ act ∈ shown, act.OnScreen)
    {act : LocalAct} (unshown : ¬act.OnScreen) : shown.count act = 0 :=
  List.count_eq_zero.2 fun member => unshown (all act member)

theorem GaveBack.unwatched (h : GaveBack acts) : acts.count .unwatchedSize = 1 := by
  obtain ⟨opening, shown, rfl, opened, all⟩ := h
  have none : shown.count .unwatchedSize = 0 := count_onScreen all id
  cases opened <;> simp [none]

theorem GaveBack.restored (h : GaveBack acts) : acts.count .restored = 1 := by
  obtain ⟨opening, shown, rfl, opened, all⟩ := h
  have none : shown.count .restored = 0 := count_onScreen all id
  cases opened <;> simp [none]

namespace Desk

theorem after_append (before acts : List LocalAct) (d : Desk μ) :
    d.after rawOf onMain (before ++ acts) = (d.after rawOf onMain before).after rawOf onMain acts :=
  List.foldl_append

theorem after_shown {shown : List LocalAct} (all : ∀ act ∈ shown, act.OnScreen) (d : Desk μ) :
    d.after rawOf onMain shown = d := by
  induction shown with
  | nil => rfl
  | cons act rest ih =>
    have same : d.perform rawOf onMain act = d := by
      have onScreen := all act List.mem_cons_self
      cases act with
      | showed | refused => rfl
      | _ => exact absurd onScreen id
    show (d.perform rawOf onMain act).after rawOf onMain rest = d
    rw [same]
    exact ih fun act' member => all act' (List.mem_cons_of_mem _ member)

/-- While a session has the terminal, the mode to go back to is the one that it found. -/
theorem opened_saved (free : d.Free) {opening : List LocalAct} (h : Opening opening) :
    (d.after rawOf onMain opening).raw.saved.getD (d.after rawOf onMain opening).mode = d.mode := by
  have unsaved : d.raw.saved = none := by simpa [RawMode.isActive] using free.cooked
  cases h with
  | none =>
    show d.raw.saved.getD d.mode = d.mode
    rw [unsaved]
    rfl
  | entered => rfl
  | full => rfl

/-- A terminal that was given back is free, and in the mode in which it was found. -/
theorem after_gaveBack (free : d.Free) (h : GaveBack acts) :
    (d.after rawOf onMain acts).mode = d.mode ∧ (d.after rawOf onMain acts).Free := by
  obtain ⟨opening, shown, rfl, opened, all⟩ := h
  rw [after_append, after_append, after_shown all]
  have kept : (d.after rawOf onMain opening).raw.saved.getD (d.after rawOf onMain opening).mode =
      d.mode := opened_saved free opened
  generalize d.after rawOf onMain opening = opened at kept ⊢
  refine ⟨kept, ?_, ?_⟩
  · show opened.raw.restore.isActive = false
    unfold RawMode.restore
    cases saved : opened.raw.saved with
    | none =>
      show opened.raw.saved.isSome = false
      rw [saved]
      rfl
    | some mode => rfl
  · show (opened.sizes.stop none).installed = false
    unfold SizeWatch.stop
    split
    · rename_i uninstalled
      simpa using uninstalled
    · rfl

theorem perform_isActive (act : LocalAct) (d : Desk μ) :
    (d.perform rawOf onMain act).raw.isActive =
      if act = .enteredRaw then true else d.raw.isActive && act != .restored := by
  cases act with
  | enteredRaw => rfl
  | restored =>
    show d.raw.restore.isActive = _
    unfold RawMode.restore
    cases saved : d.raw.saved <;> simp [RawMode.isActive, saved]
  | _ => simp [perform]

theorem perform_installed (act : LocalAct) (able : d.sizes.supported = true ∧ onMain = true) :
    (d.perform rawOf onMain act).sizes.supported = d.sizes.supported ∧
    (d.perform rawOf onMain act).sizes.installed =
      if act = .watchedSize then true else d.sizes.installed && act != .unwatchedSize := by
  cases act with
  | watchedSize => simp [perform, SizeWatch.start, able]
  | unwatchedSize =>
    simp only [perform, SizeWatch.stop]
    split
    · rename_i uninstalled
      simpa using uninstalled
    · simp
  | _ => simp [perform]

/-- The terminal is raw just when its session left it so. -/
theorem after_isActive (free : d.Free) (acts : List LocalAct) :
    (d.after rawOf onMain acts).raw.isActive = leavesRaw acts := by
  induction acts using List.reverseRecOn with
  | nil => exact free.cooked
  | append_singleton acts act ih =>
    rw [after_append, leavesRaw_snoc, ← ih]
    exact perform_isActive ..

/-- Where sizes can be watched at all, they are just when the session left it so. -/
theorem after_installed (free : d.Free) (able : d.sizes.supported = true ∧ onMain = true)
    (acts : List LocalAct) :
    (d.after rawOf onMain acts).sizes.installed = leavesWatched acts := by
  have supported (acts : List LocalAct) :
      (d.after rawOf onMain acts).sizes.supported = true := by
    induction acts using List.reverseRecOn with
    | nil => exact able.1
    | append_singleton acts act ih =>
      rw [after_append]
      exact (perform_installed act ⟨ih, able.2⟩).1.trans ih
  induction acts using List.reverseRecOn with
  | nil => exact free.unwatched
  | append_singleton acts act ih =>
    rw [after_append, leavesWatched_snoc, ← ih]
    exact (perform_installed act ⟨supported acts, able.2⟩).2

end Desk
end
end EdgeSession.Terminal
