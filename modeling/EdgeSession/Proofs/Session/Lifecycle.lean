import EdgeSession.Proofs.Session.Transport

/-!
The life of a session: one dial, and then calls in any order. While it is open each call is served;
one call ends it, with one CLOSE frame and one hang-up; from then on nothing happens any more.
-/
namespace EdgeSession.Transport

/-- A call on a transport, with what the outside world does while it runs. -/
inductive Call
  | send (outside : Outside) (m : Message)
  | read (outside : Outside) (waiting : List Incoming)
  | close (outside : Outside)

namespace Call

def outside : Call → Outside
  | send outside _ | read outside _ | close outside => outside

def waiting : Call → List Incoming
  | read _ waiting => waiting
  | _ => []

def run : Call → Transport → Transport
  | send outside m, t => (t.send outside m).2
  | read outside waiting, t => (t.read outside waiting).2.1
  | close outside, t => (t.close outside).2

/-- What the network and the session's owner see of a call. -/
def acts (call : Call) (t : Transport) : List Act := (call.run t).journal.drop t.journal.length

/-- The outside world does only what it can, and the ids that come in have a written form. -/
structure Allowed (call : Call) : Prop where
  calm : Calm call.outside
  ids : ∀ incoming ∈ call.waiting, ∀ m, Brings incoming m → Frame.fits m.session = true

theorem Allowed.of_nothing_waiting {call : Call} (calm : Calm call.outside)
    (none : call.waiting = []) : call.Allowed := by
  refine ⟨calm, fun incoming here => ?_⟩
  rw [none] at here
  cases here

end Call

/-- The transport after some calls. -/
def play : List Call → Transport → Transport
  | [], t => t
  | call :: rest, t => play rest (call.run t)

/-- The calls, each with what was seen of it. -/
def log : List Call → Transport → List (Call × List Act)
  | [], _ => []
  | call :: rest, t => (call, call.acts t) :: log rest (call.run t)

/-- What is seen of a call on an open session that stays open: the frame of the message sent, under
the ids of the session and for the caller alone; or that a message was received. -/
inductive Serves (connection : Nat) (target : String) : Call → List Act → Prop
  | refused {outside : Outside} {m : Message} {fault : Frame.EncodeFault} {session : String}
      (h : Frame.encode { m with target, session } = .error fault) :
      Serves connection target (.send outside m) []
  | wrote {outside : Outside} {m : Message} {frame : Bytes} {session : String}
      (h : Frame.encode { m with target, session } = .ok frame) :
      Serves connection target (.send outside m) [.wrote connection frame, .activity]
  | lost {outside : Outside} {m : Message} {frame : Bytes} {session : String}
      (h : Frame.encode { m with target, session } = .ok frame) :
      Serves connection target (.send outside m) [.lost connection frame]
  | received {outside : Outside} {waiting : List Incoming} {m : Message}
      (h : Brings (waiting.head?.getD .ended) m) :
      Serves connection target (.read outside waiting) [.activity]

/-- What is seen of the call that ends a session, which is never one that sends. -/
inductive Ends (connection : Nat) (target : String) : Call → List Act → Prop
  | read {outside : Outside} {waiting : List Incoming} {acts : List Act}
      (h : Parting connection target acts) : Ends connection target (.read outside waiting) acts
  | close {outside : Outside} {acts : List Act} (h : Parting connection target acts) :
      Ends connection target (.close outside) acts

/-- What is seen of a session that opened: calls served, and then, if it has ended, the call that
ended it and silence. -/
inductive Course (connection : Nat) (target : String) : Bool → List (Call × List Act) → Prop
  | start : Course connection target false []
  | serves {ended : Bool} {call : Call} {acts : List Act} {rest : List (Call × List Act)}
      (h : Serves connection target call acts) (later : Course connection target ended rest) :
      Course connection target ended ((call, acts) :: rest)
  | ends {call : Call} {acts : List Act} {rest : List (Call × List Act)}
      (h : Ends connection target call acts) (silent : ∀ entry ∈ rest, entry.2 = []) :
      Course connection target true ((call, acts) :: rest)

/-- An open session that nothing has gone wrong with. -/
structure Running (connection : Nat) (name : String) (t : Transport) : Prop
    extends Live connection t where
  undone : t.done = false
  clean : t.sticky = none
  named : t.target = name

section
variable {connection : Nat} {target : String} {t : Transport} {call : Call} {calls : List Call}

/-! ## One call -/

theorem Call.acts_eq {acts : List Act} (h : (call.run t).journal = t.journal ++ acts) :
    call.acts t = acts := by
  rw [Call.acts, h, List.drop_left]

theorem Live.record (live : Live connection t) (acts : List Act) :
    Live connection (t.record acts) :=
  ⟨live.link, live.unclosed, live.plain, live.target, live.session⟩

theorem Running.record (running : Running connection target t) (acts : List Act) :
    Running connection target (t.record acts) :=
  ⟨running.toLive.record acts, running.undone, running.clean, running.named⟩

theorem Running.adopt (running : Running connection target t) {m : Message}
    (fits : Frame.fits m.session = true) : Running connection target (t.adopt m) := by
  simp only [Transport.adopt]
  split
  · exact running
  · exact ⟨⟨running.link, running.unclosed, running.plain, running.target, fits⟩, running.undone,
      running.clean, running.named⟩

theorem brings_waiting {waiting : List Incoming} {m : Message}
    (h : Brings (waiting.head?.getD .ended) m) :
    ∃ incoming ∈ waiting, Brings incoming m := by
  cases waiting with
  | nil => cases h
  | cons incoming rest => exact ⟨incoming, List.mem_cons_self, h⟩

/-- How a call on an open session turns out. -/
inductive Outcome (connection : Nat) (target : String) (call : Call) (t : Transport) : Prop
  | served {acts : List Act} (journal : (call.run t).journal = t.journal ++ acts)
      (running : Running connection target (call.run t))
      (serves : Serves connection target call acts)
  | ended {acts : List Act} (journal : (call.run t).journal = t.journal ++ acts)
      (ended : Ended (call.run t)) (ends : Ends connection target call acts)

theorem send_outcome (running : Running connection target t) (outside : Outside) (m : Message) :
    Outcome connection target (.send outside m) t := by
  obtain rfl := running.named
  have sends := send_cases running.link outside m
  rw [encode_plain running.plain] at sends
  obtain ⟨fault, he, hs⟩ | ⟨frame, he, ⟨-, hs⟩ | ⟨fault, -, hs⟩⟩ := sends
  · have same : (Call.send outside m).run t = t := by rw [Call.run, hs]
    exact .served (by rw [same, List.append_nil]) (by rwa [same]) (.refused he)
  · have wrote : (Call.send outside m).run t = t.record [.wrote connection frame, .activity] := by
      rw [Call.run, hs]
    exact .served (by rw [wrote]; rfl) (wrote ▸ running.record _) (.wrote he)
  · have lost : (Call.send outside m).run t = t.record [.lost connection frame] := by
      rw [Call.run, hs]
    exact .served (by rw [lost]; rfl) (lost ▸ running.record _) (.lost he)

theorem close_outcome (running : Running connection target t) {outside : Outside}
    (calm : Calm outside) : Outcome connection target (.close outside) t := by
  obtain rfl := running.named
  obtain ⟨acts, parting, hc⟩ := close_live running.toLive calm
  have closed : (Call.close outside).run t = t.leave acts := by rw [Call.run, hc]
  exact .ended (by rw [closed]; rfl) (closed ▸ leave_ended acts t) (.close parting)

theorem read_outcome (running : Running connection target t) {outside : Outside}
    (calm : Calm outside) {waiting : List Incoming}
    (ids : ∀ incoming ∈ waiting, ∀ m, Brings incoming m → Frame.fits m.session = true) :
    Outcome connection target (.read outside waiting) t := by
  obtain rfl := running.named
  have run : (Call.read outside waiting).run t =
      (take outside (waiting.head?.getD .ended) t).2 := by
    rw [Call.run, read_linked running.link]
  obtain ⟨m, brings, ht⟩ | ⟨acts, -, parting, ht⟩ | ⟨failure, acts, -, parting, ht⟩ :=
    take_cases running.toLive calm (waiting.head?.getD .ended)
  · obtain ⟨incoming, here, same⟩ := brings_waiting brings
    have received := running.adopt (ids incoming here m same)
    have journal : (t.adopt m).journal = t.journal := by
      simp only [adopt]
      split <;> rfl
    rw [ht] at run
    refine .served ?_ (run ▸ received.record _) (.received brings)
    rw [run, record, journal]
  · rw [ht] at run
    exact .ended (by rw [run]; rfl) (run ▸ leave_ended acts t) (.read parting)
  · rw [ht] at run
    exact .ended (by rw [run]; rfl) (run ▸ leave_ended acts _) (.read parting)

/-- A call on an open session is served, or ends it. -/
theorem run_running (running : Running connection target t) (allowed : call.Allowed) :
    Outcome connection target call t := by
  obtain ⟨calm, ids⟩ := allowed
  cases call with
  | send outside m => exact send_outcome running outside m
  | read outside waiting => exact read_outcome running calm ids
  | close outside => exact close_outcome running calm

/-- A call on a session that has ended does nothing. -/
theorem run_ended (ended : Ended t) (call : Call) : call.run t = t := by
  cases call with
  | send outside m => rw [Call.run, send_unlinked ended.link]
  | read outside waiting => rw [Call.run, read_unlinked ended.link]
  | close outside => rw [Call.run, close_ended ended]

theorem acts_ended (ended : Ended t) (call : Call) : call.acts t = [] :=
  Call.acts_eq (by rw [run_ended ended, List.append_nil])

/-! ## Runs of calls -/

theorem play_ended (ended : Ended t) (calls : List Call) : play calls t = t := by
  induction calls with
  | nil => rfl
  | cons call rest ih => rw [play, run_ended ended, ih]

theorem log_ended (ended : Ended t) (calls : List Call) : ∀ entry ∈ log calls t, entry.2 = [] := by
  induction calls with
  | nil => simp [log]
  | cons call rest ih =>
    intro entry member
    rw [log, run_ended ended, List.mem_cons] at member
    rcases member with rfl | member
    · exact acts_ended ended call
    · exact ih entry member

theorem flatMap_log_ended (ended : Ended t) (calls : List Call) :
    (log calls t).flatMap Prod.snd = [] :=
  List.flatMap_eq_nil_iff.2 (log_ended ended calls)

/-- An open session runs its course, and what is seen of a run is what is seen of its calls. -/
theorem play_running (running : Running connection target t)
    (allowed : ∀ call ∈ calls, call.Allowed) :
    (play calls t).journal = t.journal ++ (log calls t).flatMap Prod.snd ∧
      ((Running connection target (play calls t) ∧
          Course connection target false (log calls t)) ∨
        (Ended (play calls t) ∧ Course connection target true (log calls t))) := by
  induction calls generalizing t with
  | nil => exact ⟨by simp [play, log], .inl ⟨running, .start⟩⟩
  | cons call rest ih =>
    simp only [play, log, List.flatMap_cons]
    cases run_running running (allowed call List.mem_cons_self) with
    | served journal running serves =>
      obtain ⟨later, course⟩ := ih running fun call member =>
        allowed call (List.mem_cons_of_mem _ member)
      rw [Call.acts_eq journal]
      refine ⟨by rw [later, journal, List.append_assoc], ?_⟩
      rcases course with ⟨stays, course⟩ | ⟨ended, course⟩
      · exact .inl ⟨stays, .serves serves course⟩
      · exact .inr ⟨ended, .serves serves course⟩
    | ended journal ended ends =>
      rw [Call.acts_eq journal, play_ended ended]
      refine ⟨?_, .inr ⟨ended, .ends ends (log_ended ended rest)⟩⟩
      rw [flatMap_log_ended ended, List.append_nil, journal]

/-! ## Counting hang-ups -/

def isHangUp : Act → Bool
  | .hungUp _ => true
  | _ => false

theorem hangUps_eq (t : Transport) : t.hangUps = t.journal.countP isHangUp :=
  congrArg (List.countP · t.journal) (funext fun act => by cases act <;> rfl)

theorem Serves.no_hangUp {acts : List Act} (h : Serves connection target call acts) :
    acts.countP isHangUp = 0 := by
  cases h <;> rfl

theorem Ends.one_hangUp {acts : List Act} (h : Ends connection target call acts) :
    acts.countP isHangUp = 1 := by
  rcases h with ⟨⟨-⟩ | ⟨-⟩⟩ | ⟨⟨-⟩ | ⟨-⟩⟩ <;> rfl

theorem Course.hangUps_le {ended : Bool} {entries : List (Call × List Act)}
    (h : Course connection target ended entries) :
    (entries.flatMap Prod.snd).countP isHangUp ≤ 1 := by
  induction h with
  | start => exact Nat.zero_le _
  | serves h _ ih => rwa [List.flatMap_cons, List.countP_append, h.no_hangUp, Nat.zero_add]
  | ends h silent =>
    rw [List.flatMap_cons, List.countP_append, h.one_hangUp, List.flatMap_eq_nil_iff.2 silent]
    exact Nat.le_refl 1

/-! ## Every state -/

/-- What holds of a session after every step. -/
structure Coherent (t : Transport) : Prop where
  done_iff : t.done = true ↔ t.closed = true
  closed_iff : t.closed = true ↔ t.link = none
  sticky_done : ∀ failure, t.sticky = some failure → t.done = true
  /-- A session that has ended takes no more calls. -/
  refuses : t.closed = true → ∀ outside m waiting,
    send outside m t = (.error (.session unconnected), t) ∧
      read outside waiting t = (.error (.session unconnected), t, waiting)
  /-- The failure that is kept stays, whatever follows. -/
  keeps : ∀ failure, t.sticky = some failure → ∀ calls, (play calls t).sticky = some failure
  /-- A failure that a read reports is the one that is kept, and the session has ended. -/
  breaks : ∀ outside waiting failure, (Call.read outside waiting).Allowed →
    (read outside waiting t).1 = .error (.session failure) → failure ≠ unconnected →
    Ended (read outside waiting t).2.1 ∧ (read outside waiting t).2.1.sticky = some failure
  /-- A read that finds the session left in good order ends it, and keeps no failure. -/
  leaves : ∀ outside waiting, (Call.read outside waiting).Allowed →
    (read outside waiting t).1 = .ok none →
    Ended (read outside waiting t).2.1 ∧ (read outside waiting t).2.1.sticky = none

theorem Ended.coherent (ended : Ended t) : Coherent t where
  done_iff := by simp [ended.done, ended.closed]
  closed_iff := by simp [ended.closed, ended.link]
  sticky_done _ _ := ended.done
  refuses _ outside m waiting :=
    ⟨send_unlinked ended.link outside m, read_unlinked ended.link outside waiting⟩
  keeps failure kept calls := by rwa [play_ended ended]
  breaks outside waiting failure _ h other := by
    rw [read_unlinked ended.link] at h
    cases h
    exact absurd rfl other
  leaves outside waiting _ h := by
    rw [read_unlinked ended.link] at h
    cases h

theorem Running.breaks (running : Running connection target t) {outside : Outside}
    {waiting : List Incoming} (calm : Calm outside) {failure : Failure}
    (h : (read outside waiting t).1 = .error (.session failure)) :
    Ended (read outside waiting t).2.1 ∧ (read outside waiting t).2.1.sticky = some failure := by
  rw [read_linked running.link] at h ⊢
  obtain ⟨m, -, ht⟩ | ⟨acts, -, -, ht⟩ | ⟨broken, acts, -, -, ht⟩ :=
    take_cases running.toLive calm (waiting.head?.getD .ended)
  · rw [ht] at h
    cases h
  · rw [ht] at h
    cases h
  · rw [ht] at h ⊢
    cases h
    refine ⟨leave_ended acts _, ?_⟩
    simp only [leave, stick, running.clean]
    rfl

theorem Running.leaves (running : Running connection target t) {outside : Outside}
    {waiting : List Incoming} (calm : Calm outside) (h : (read outside waiting t).1 = .ok none) :
    Ended (read outside waiting t).2.1 ∧ (read outside waiting t).2.1.sticky = none := by
  rw [read_linked running.link] at h ⊢
  obtain ⟨m, -, ht⟩ | ⟨acts, -, -, ht⟩ | ⟨broken, acts, -, -, ht⟩ :=
    take_cases running.toLive calm (waiting.head?.getD .ended)
  · rw [ht] at h
    cases h
  · rw [ht]
    exact ⟨leave_ended acts _, running.clean⟩
  · rw [ht] at h
    cases h

theorem Running.coherent (running : Running connection target t) : Coherent t where
  done_iff := by simp [running.undone, running.unclosed]
  closed_iff := by simp [running.unclosed, running.link]
  sticky_done failure kept := by
    rw [running.clean] at kept
    cases kept
  refuses closed := by
    rw [running.unclosed] at closed
    cases closed
  keeps failure kept := by
    rw [running.clean] at kept
    cases kept
  breaks _ _ _ allowed h _ := running.breaks allowed.calm h
  leaves _ _ allowed h := running.leaves allowed.calm h

end

/-- A dial opens a session, or ends it with the failure it reports. -/
theorem connect_cases {target session : String} (ids : Frame.fits target ∧ Frame.fits session)
    {fault : Option NetworkFault} (dialled : Dialled fault) (outside : Outside) (url : String)
    (headers : List (String × String)) :
    (∃ dial,
        (connect outside fault url headers (initial target session)).2.journal = [.dial dial]) ∧
      (Running 0 target (connect outside fault url headers (initial target session)).2 ∨
        Ended (connect outside fault url headers (initial target session)).2) := by
  obtain ⟨dial, hc | ⟨failure, hc⟩⟩ :=
    connect_dialled dialled outside url headers target session
  · rw [hc]
    exact ⟨⟨dial, rfl⟩, .inl ⟨⟨rfl, rfl, rfl, ids.1, ids.2⟩, rfl, rfl, rfl⟩⟩
  · rw [hc]
    exact ⟨⟨dial, rfl⟩, .inr (leave_ended _ _)⟩

/-- **The life of a session.** After a dial and any calls the session is done just when it is
closed, and closed just when it has no connection; one that is closed takes no more calls; and a
failure that is kept stays. All that is seen of it is the dial, the frames of messages sent, and one
parting: a CLOSE frame, the hang-up, and nothing after them. A dial that failed leaves nothing to be
seen of any call. -/
theorem lifecycle {target session : String} (ids : Frame.fits target ∧ Frame.fits session)
    {fault : Option NetworkFault} (dialled : Dialled fault) (outside : Outside) (url : String)
    (headers : List (String × String)) {calls : List Call}
    (allowed : ∀ call ∈ calls, call.Allowed) :
    let start := (connect outside fault url headers (initial target session)).2
    let t := play calls start
    Coherent t ∧ t.hangUps ≤ 1 ∧
      (∃ dial, t.journal = .dial dial :: (log calls start).flatMap Prod.snd) ∧
      (Course 0 target t.closed (log calls start) ∨
        start.closed = true ∧ ∀ entry ∈ log calls start, entry.2 = []) := by
  intro start t
  obtain ⟨⟨dial, dialled⟩, running | ended⟩ := connect_cases ids dialled outside url headers
  · obtain ⟨journal, course⟩ := play_running running allowed
    rw [dialled, List.singleton_append] at journal
    have hangUps {ended : Bool} (course : Course 0 target ended (log calls start)) :
        t.hangUps ≤ 1 := by
      rw [hangUps_eq, journal]
      exact course.hangUps_le
    rcases course with ⟨stays, course⟩ | ⟨ended, course⟩
    · refine ⟨stays.coherent, hangUps course, ⟨dial, journal⟩, .inl ?_⟩
      rwa [stays.unclosed]
    · refine ⟨ended.coherent, hangUps course, ⟨dial, journal⟩, .inl ?_⟩
      rwa [ended.closed]
  · have same : t = start := play_ended ended calls
    have journal : t.journal = .dial dial :: (log calls start).flatMap Prod.snd := by
      rw [same, flatMap_log_ended ended calls, dialled]
    refine ⟨same ▸ ended.coherent, ?_, ⟨dial, journal⟩, .inr ⟨ended.closed, log_ended ended calls⟩⟩
    rw [same, hangUps_eq, dialled]
    exact Nat.zero_le _

/-- A session that sends a key, reads a message without fields, and is then refused. -/
theorem lifecycle_refused :
    let start := (connect { now := 0 } none "ws://h/exec" [] (initial "ms" "exec")).2
    let calls : List Call := [.send { now := 1 } { type := 0, data := [0x6C] },
      .read { now := 2 } [.frame [0x80]],
      .read { now := 3, send := some (.closed none none) } [.closed (some ⟨1008, "no"⟩) none],
      .close { now := 4 }]
    Coherent (play calls start) ∧ (play calls start).sticky = some (.policy "no") ∧
      (play calls start).hangUps ≤ 1 := by
  intro start calls
  have calm (now : Int) (known : Pack.Encodable now) : Calm { now } := ⟨known, .fine, .fine⟩
  have empty : Frame.decode [0x80] = .ok { type := 0 } := by decide +kernel
  have allowed : ∀ call ∈ calls, call.Allowed := by
    simp only [calls, List.forall_mem_cons]
    refine ⟨.of_nothing_waiting (calm 1 (by decide)) rfl, ⟨calm 2 (by decide), ?_⟩,
      ⟨⟨(by decide : Pack.Encodable 3), .closed none none, .fine⟩, ?_⟩,
      .of_nothing_waiting (calm 4 (by decide)) rfl, List.forall_mem_nil _⟩
    · intro incoming here m brings
      obtain rfl := List.mem_singleton.1 here
      cases brings with
      | frame h =>
        rw [empty] at h
        cases h
        decide
    · intro incoming here m brings
      obtain rfl := List.mem_singleton.1 here
      cases brings
  have ids : Frame.fits "ms" ∧ Frame.fits "exec" := by decide
  obtain ⟨coherent, once, -⟩ := lifecycle ids .open { now := 0 } "ws://h/exec" [] allowed
  exact ⟨coherent, by decide +kernel, once⟩

end EdgeSession.Transport
