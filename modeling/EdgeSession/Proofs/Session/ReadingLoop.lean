import EdgeSession.Proofs.Session.Reading

/-!
The loop that reads a connection in a thread of its own, while a call of `start` waits for the end
of the session. Most of what the loop meets ends the session, in good order or with a failure. An
error that the loop does not know ends the loop alone, and the call waits on.
-/
namespace EdgeSession

/-- What a fault of the connection brings to its reader: a closed connection is an end like any
other. -/
def NetworkFault.incoming? : NetworkFault → Option Incoming
  | .closed received sent => some (.closed received sent)
  | _ => none

open Transport

/-- What a reading loop does with messages: which it puts on the screen, which end the session, and
the failure of one that the screen does not take. -/
structure Reader where
  shows : Message → Bool
  ends : Message → Bool
  writeFailure : String → Failure

/-- What ends a session through its reading loop, in good order or with a failure; and the transport
that is then to be closed. -/
inductive Stops (reader : Reader) (screen : Option ScreenFault) (t : Transport) :
    Incoming → Option Failure → Transport → Prop
  | closes {i : Incoming} {failure? : Option Failure} (h : Closes t i failure?) :
      Stops reader screen t i failure? t
  | parted {i : Incoming} {m : Message} (brings : Brings i m) (ends : reader.ends m = true) :
      Stops reader screen t i none (t.heard m)
  | refused {i : Incoming} {m : Message} {text : String} (brings : Brings i m)
      (shows : reader.shows m = true) (stays : reader.ends m = false)
      (fault : screen = some (.system text)) :
      Stops reader screen t i (some (reader.writeFailure text)) (t.heard m)

/-- What ends a reading loop and nothing else. The connection answers with a fault other than its
closing; the screen with an error that is none of the system's; or the socket with an error that no
session knows, when the connection is closed behind what ended it. -/
inductive Loses (reader : Reader) (outside : Outside) (screen : Option ScreenFault)
    (t : Transport) : Option Incoming → Prop
  | unread : Loses reader outside screen t none
  | unshown {i : Incoming} {m : Message} {text : String} (brings : Brings i m)
      (shows : reader.shows m = true) (fault : screen = some (.foreign text)) :
      Loses reader outside screen t (some i)
  | unclosed {i : Incoming} {failure? : Option Failure} {trouble : Trouble}
      (h : Closes t i failure?) (fault : (close outside t).1 = .error trouble) :
      Loses reader outside screen t (some i)

/-- How a session stands: whether its reading loop runs, whether it was called off, whether the call
of `start` waits for its end, and what that call came to. -/
structure Standing where
  reading : Bool
  cancelled : Bool
  waiting : Bool
  outcome : Option (Except Trouble Unit)
  deriving DecidableEq

namespace Standing

def underWay : Standing :=
  { reading := true, cancelled := false, waiting := true, outcome := none }

/-- Nobody reads any more, and the call of `start` waits on. -/
def lost : Standing := { reading := false, cancelled := false, waiting := true, outcome := none }

/-- The call of `start` has come back. -/
def Returned (result : Except Trouble Unit) (s : Standing) : Prop :=
  s.cancelled = true ∧ s.waiting = false ∧ s.outcome = some result

def ended (result : Except Trouble Unit) : Standing :=
  { reading := false, cancelled := true, waiting := false, outcome := some result }

end Standing

/-- A session as a machine that takes events one at a time: its states, what the world does while a
step runs, and its events. -/
structure Machine (σ μ ε : Type) where
  reader : Reader
  step : μ → ε → σ → σ
  standing : σ → Standing
  transport : σ → Transport
  outside : μ → Outside
  screen : μ → Option ScreenFault
  /-- What an event brings to the reading loop, if it is one of the connection's. -/
  brought : ε → Option (Option Incoming)

namespace Machine

variable {σ μ ε : Type}

/-- The state after some events. -/
def play (c : Machine σ μ ε) : List (μ × ε) → σ → σ
  | [], s => s
  | (m, e) :: steps, s => c.play steps (c.step m e s)

/-- The loop is lost in the turn that this event gives it. -/
def LosesAt (c : Machine σ μ ε) (m : μ) (e : ε) (s : σ) : Prop :=
  ∃ met, c.brought e = some met ∧
    Loses c.reader (c.outside m) (c.screen m) (c.transport s) met

/-- The turn that this event gives the loop ends the session. -/
def StopsAt (c : Machine σ μ ε) (m : μ) (e : ε) (s : σ) (failure? : Option Failure)
    (left : Transport) : Prop :=
  ∃ i, c.brought e = some (some i) ∧
    Stops c.reader (c.screen m) (c.transport s) i failure? left

/-- What becomes of the reading loop and of the call that waits, over every run from a state. -/
structure Attends (c : Machine σ μ ε) (start : σ) : Prop where
  /-- A session that is called off is not waited for any longer. -/
  returns : ∀ steps, (c.standing (c.play steps start)).cancelled = true →
    ∃ result, (c.standing (c.play steps start)).Returned result
  /-- A turn that ends the session brings the call back, with the failure if there is one. -/
  stops : ∀ steps m e failure? left,
    c.standing (c.play steps start) = .underWay →
    c.StopsAt m e (c.play steps start) failure? left → ¬c.LosesAt m e (c.play steps start) →
    ∀ later, c.standing (c.play later (c.step m e (c.play steps start))) =
      .ended (leaving (c.outside m) failure? left)
  /-- A turn in which the loop is lost ends nothing; nor does whatever comes in afterwards. -/
  loses : ∀ steps m e, c.standing (c.play steps start) = .underWay →
    c.LosesAt m e (c.play steps start) →
    ∀ later, (∀ entry ∈ later, (c.brought entry.2).isSome) →
      c.standing (c.play later (c.step m e (c.play steps start))) = .lost
  /-- Every other turn leaves the loop running. -/
  goes : ∀ steps m e, c.standing (c.play steps start) = .underWay →
    (c.brought e).isSome → ¬c.LosesAt m e (c.play steps start) →
    (∀ failure? left, ¬c.StopsAt m e (c.play steps start) failure? left) →
    c.standing (c.step m e (c.play steps start)) = .underWay
  /-- A loop that ended in a session that was not called off was lost in one of its turns. -/
  lost : ∀ steps, (c.standing (c.play steps start)).reading = false →
    (c.standing (c.play steps start)).cancelled = false →
    ∃ before m e after, steps = before ++ (m, e) :: after ∧
      c.standing (c.play before start) = .underWay ∧ c.LosesAt m e (c.play before start)

def reads (c : Machine σ μ ε) (s : σ) : Bool := (c.standing s).reading

/-- What one step does, for the states of a session that is waited for and of one that is over. -/
structure Laws (c : Machine σ μ ε) (alive : σ → Prop)
    (returned : Except Trouble Unit → σ → Prop) : Prop where
  alive_standing : ∀ s, alive s → c.standing s = if c.reads s then .underWay else .lost
  returned_standing : ∀ s result, returned result s → (c.standing s).Returned result
  returned_step : ∀ s m e result, returned result s →
    returned result (c.step m e s) ∧ c.reads (c.step m e s) = c.reads s
  other_step : ∀ s m e, alive s → c.brought e = none →
    (alive (c.step m e s) ∧ c.reads (c.step m e s) = c.reads s) ∨
      ∃ result, returned result (c.step m e s)
  lost_step : ∀ s m e, alive s → c.reads s = false → (c.brought e).isSome → c.step m e s = s
  loses : ∀ s m e, alive s → c.reads s = true → c.LosesAt m e s →
    alive (c.step m e s) ∧ c.reads (c.step m e s) = false
  stops : ∀ s m e failure? left, alive s → c.reads s = true →
    c.StopsAt m e s failure? left → ¬c.LosesAt m e s →
    returned (leaving (c.outside m) failure? left) (c.step m e s) ∧ c.reads (c.step m e s) = false
  goes : ∀ s m e, alive s → c.reads s = true → (c.brought e).isSome →
    ¬c.LosesAt m e s → (∀ failure? left, ¬c.StopsAt m e s failure? left) →
    alive (c.step m e s) ∧ c.reads (c.step m e s) = true

section
variable {c : Machine σ μ ε} {s : σ}
variable {alive : σ → Prop} {returned : Except Trouble Unit → σ → Prop}
variable {result : Except Trouble Unit}

theorem play_append (c : Machine σ μ ε) (before after : List (μ × ε)) (s : σ) :
    c.play (before ++ after) s = c.play after (c.play before s) := by
  induction before generalizing s with
  | nil => rfl
  | cons entry rest ih => exact ih _

theorem play_snoc (c : Machine σ μ ε) (steps : List (μ × ε)) (m : μ) (e : ε) (s : σ) :
    c.play (steps ++ [(m, e)]) s = c.step m e (c.play steps s) :=
  c.play_append steps [(m, e)] s

theorem reads_of_underWay (underWay : c.standing s = .underWay) : c.reads s = true :=
  congrArg Standing.reading underWay

theorem Laws.underWay (laws : c.Laws alive returned) (h : alive s) (reads : c.reads s = true) :
    c.standing s = .underWay := by
  rw [laws.alive_standing s h, if_pos reads]

theorem Laws.lost (laws : c.Laws alive returned) (h : alive s) (reads : c.reads s = false) :
    c.standing s = .lost := by
  rw [laws.alive_standing s h, reads, if_neg Bool.false_ne_true]

theorem Laws.uncalled (laws : c.Laws alive returned) (h : alive s) :
    (c.standing s).cancelled = false := by
  rw [laws.alive_standing s h]
  cases c.reads s <;> rfl

theorem Laws.ended_of_returned (laws : c.Laws alive returned) (h : returned result s)
    (reads : c.reads s = false) :
    c.standing s = .ended result := by
  obtain ⟨cancelled, waiting, outcome⟩ := laws.returned_standing s result h
  change (⟨c.reads s, (c.standing s).cancelled, (c.standing s).waiting,
    (c.standing s).outcome⟩ : Standing) = .ended result
  rw [reads, cancelled, waiting, outcome]
  rfl

theorem Laws.play_returned (laws : c.Laws alive returned) (h : returned result s)
    (steps : List (μ × ε)) :
    returned result (c.play steps s) ∧ c.reads (c.play steps s) = c.reads s := by
  induction steps generalizing s with
  | nil => exact ⟨h, rfl⟩
  | cons entry rest ih =>
    obtain ⟨stays, same⟩ := laws.returned_step s entry.1 entry.2 result h
    obtain ⟨later, still⟩ := ih stays
    exact ⟨later, still.trans same⟩

theorem Laws.play_lost (laws : c.Laws alive returned) (h : alive s) (reads : c.reads s = false)
    {steps : List (μ × ε)} (read : ∀ entry ∈ steps, (c.brought entry.2).isSome) :
    c.play steps s = s := by
  induction steps with
  | nil => rfl
  | cons entry rest ih =>
    rw [play, laws.lost_step s entry.1 entry.2 h reads (read _ List.mem_cons_self)]
    exact ih fun entry member => read entry (List.mem_cons_of_mem _ member)

/-- A step ends the session, or leaves it waited for; its loop ends only in a turn that loses it. -/
theorem Laws.step_cases (laws : c.Laws alive returned) (h : alive s) (m : μ) (e : ε) :
    (∃ result, returned result (c.step m e s)) ∨ alive (c.step m e s) ∧
      (c.reads (c.step m e s) = c.reads s ∨ c.reads s = true ∧ c.LosesAt m e s) := by
  cases heard : c.brought e with
  | none =>
    obtain ⟨stays, same⟩ | finished := laws.other_step s m e h heard
    · exact .inr ⟨stays, .inl same⟩
    · exact .inl finished
  | some met =>
    have heard' : (c.brought e).isSome := by rw [heard]; rfl
    cases reads : c.reads s with
    | true =>
      by_cases loses : c.LosesAt m e s
      · exact .inr ⟨(laws.loses s m e h reads loses).1, .inr ⟨rfl, loses⟩⟩
      · by_cases stops : ∃ failure? left, c.StopsAt m e s failure? left
        · obtain ⟨failure?, left, stops⟩ := stops
          exact .inl ⟨_, (laws.stops s m e failure? left h reads stops loses).1⟩
        · obtain ⟨stays, same⟩ := laws.goes s m e h reads heard' loses
            fun failure? left at' => stops ⟨failure?, left, at'⟩
          exact .inr ⟨stays, .inl same⟩
    | false =>
      rw [laws.lost_step s m e h reads heard']
      exact .inr ⟨h, .inl reads⟩

/-- A session that is waited for reads on, or its loop was lost on the way. -/
theorem Laws.play_cases (laws : c.Laws alive returned) (h : alive s) (reads : c.reads s = true)
    (steps : List (μ × ε)) :
    (∃ result, returned result (c.play steps s)) ∨ alive (c.play steps s) ∧
      (c.reads (c.play steps s) = true ∨
        ∃ before m e after, steps = before ++ (m, e) :: after ∧
          c.standing (c.play before s) = .underWay ∧ c.LosesAt m e (c.play before s)) := by
  -- from the end of the run, so that the turn in which the loop was lost keeps its place
  induction steps using List.reverseRecOn with
  | nil => exact .inr ⟨h, .inl reads⟩
  | append_singleton steps entry ih =>
    obtain ⟨m, e⟩ := entry
    rw [play_snoc]
    obtain ⟨result, finished⟩ | ⟨waited, still⟩ := ih
    · exact .inl ⟨result, (laws.returned_step _ m e result finished).1⟩
    · obtain finished | ⟨stays, same | ⟨read, loses⟩⟩ := laws.step_cases waited m e
      · exact .inl finished
      · refine .inr ⟨stays, ?_⟩
        obtain read | ⟨before, m', e', after, rfl, at'⟩ := still
        · exact .inl (same.trans read)
        · exact .inr ⟨before, m', e', after ++ [(m, e)], by simp, at'⟩
      · exact .inr ⟨stays, .inr ⟨steps, m, e, [], rfl, laws.underWay waited read, loses⟩⟩

/-- What a step does settles what becomes of every run. -/
theorem Laws.attends (laws : c.Laws alive returned)
    (h : (alive s ∧ c.reads s = true) ∨ ∃ result, returned result s) : c.Attends s := by
  have runs (steps : List (μ × ε)) :
      (∃ result, returned result (c.play steps s)) ∨ alive (c.play steps s) := by
    obtain ⟨waited, reads⟩ | ⟨result, ended⟩ := h
    · exact (laws.play_cases waited reads steps).imp_right And.left
    · exact .inl ⟨result, (laws.play_returned ended steps).1⟩
  have waits {steps : List (μ × ε)} (read : c.standing (c.play steps s) = .underWay) :
      alive (c.play steps s) := by
    obtain ⟨result, finished⟩ | alive := runs steps
    · obtain ⟨called, -⟩ := laws.returned_standing _ result finished
      rw [read] at called
      cases called
    · exact alive
  refine ⟨fun steps called => ?_, fun steps m e failure? left read stops kept later => ?_,
    fun steps m e read loses later heard => ?_, fun steps m e read heard kept goes => ?_,
    fun steps ended uncalled => ?_⟩
  · obtain ⟨result, finished⟩ | alive := runs steps
    · exact ⟨result, laws.returned_standing _ result finished⟩
    · exact absurd (called.symm.trans (laws.uncalled alive)) nofun
  · obtain ⟨finished, ended⟩ :=
      laws.stops _ m e failure? left (waits read) (reads_of_underWay read) stops kept
    obtain ⟨stays, same⟩ := laws.play_returned finished later
    exact laws.ended_of_returned stays (same.trans ended)
  · obtain ⟨alive, ended⟩ := laws.loses _ m e (waits read) (reads_of_underWay read) loses
    rw [laws.play_lost alive ended heard]
    exact laws.lost alive ended
  · obtain ⟨alive, reads⟩ := laws.goes _ m e (waits read) (reads_of_underWay read) heard kept goes
    exact laws.underWay alive reads
  · obtain ⟨waited, reads⟩ | ⟨result, finished⟩ := h
    · obtain ⟨result, finished⟩ | ⟨-, read | lost⟩ := laws.play_cases waited reads steps
      · obtain ⟨called, -⟩ := laws.returned_standing _ result finished
        exact absurd (uncalled.symm.trans called) nofun
      · exact absurd (ended.symm.trans read) nofun
      · exact lost
    · obtain ⟨called, -⟩ := laws.returned_standing _ result (laws.play_returned finished steps).1
      exact absurd (uncalled.symm.trans called) nofun

end
end Machine
end EdgeSession
