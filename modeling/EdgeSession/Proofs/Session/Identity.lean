import EdgeSession.Proofs.Session.ReadingLoop

/-!
Under whose name a session writes. Each frame carries the session's own target and the last name
that the session was given, by its owner or by a message it read; and the owner is told of each
frame written and each message read, and of nothing else.
-/
namespace EdgeSession

namespace Frame

theorem legal_of_encode {m : Message} {frame : Bytes} (known : Known m.type)
    (h : encode m = .ok frame) : Legal m ∧ frame = bytesOf m := by
  simp only [encode] at h
  split at h
  · cases h
  · rename_i short
    split at h
    · cases h
    · split at h
      · cases h
      · rename_i ids
        split at h
        · cases h
        · rename_i time
          cases h
          simp only [Bool.not_eq_true', Bool.not_eq_false, Bool.and_eq_true] at ids
          exact ⟨⟨known, Nat.not_lt.1 short, fits_iff.1 ids.1, fits_iff.1 ids.2,
            Decidable.not_not.1 time⟩, rfl⟩

/-- Whatever is written of a known kind is read back. -/
theorem decode_of_encode {m : Message} {frame : Bytes} (known : Known m.type)
    (h : encode m = .ok frame) : decode frame = .ok m := by
  obtain ⟨legal, rfl⟩ := legal_of_encode known h
  exact decode_bytesOf legal

end Frame

namespace Transport

/-- What is done with a session: a call on it, which the outside world may answer as it likes, or
its owner names it. -/
inductive Move
  | send (outside : Outside) (m : Message)
  | read (outside : Outside) (waiting : List Incoming)
  | readFault (outside : Outside) (fault : NetworkFault)
  | close (outside : Outside)
  | rename (session : String)

namespace Move

/-- A move's result, which holds the message that is read, and the transport it leaves. -/
def run : Move → Transport → Except Trouble (Option Message) × Transport
  | send outside m, t => ((t.send outside m).1.map fun _ => none, (t.send outside m).2)
  | read outside waiting, t => ((t.read outside waiting).1, (t.read outside waiting).2.1)
  | readFault outside fault, t => t.readFault outside fault
  | close outside, t => ((t.close outside).1.map fun _ => none, (t.close outside).2)
  | rename session, t => (.ok none, { t with session })

/-- The message that a move may write: the one that is passed in, or that of the parting. -/
def issued? : Move → Option Message
  | send _ m => some m
  | read outside _ | readFault outside _ | close outside =>
    some (.ofKind .close [] outside.now)
  | rename _ => none

/-- What is passed in is of one of the ten kinds. -/
def Kinded (move : Move) : Prop := ∀ outside m, move = .send outside m → Frame.Known m.type

end Move

/-- The frames that some acts put on the network and that it took. -/
def framesIn (acts : List Act) : List Bytes :=
  acts.filterMap fun
    | .wrote _ frame => some frame
    | _ => none

/-- A move, what it came to, and what was seen of it. -/
structure Event where
  move : Move
  result : Except Trouble (Option Message)
  acts : List Act

namespace Event

def frames (e : Event) : List Bytes := framesIn e.acts

def activities (e : Event) : Nat := e.acts.count .activity

/-- The message that was read. -/
def received? (e : Event) : Option Message :=
  match e.result with
  | .ok m? => m?
  | .error _ => none

/-- The name that the session was given: by its owner any, by a message one that is not empty. -/
def name? (e : Event) : Option String :=
  match e.move with
  | .rename session => some session
  | _ => (e.received?.map Message.session).filter (· ≠ "")

/-- What an event is under these ids: it writes one frame at most, with the message that it issues
under the ids, and a send writes it unless it fails; and the owner is told of the frame and of a
message that is read. -/
structure Stamped (target session : String) (e : Event) : Prop where
  frames : ∀ frame ∈ e.frames, ∃ m, e.move.issued? = some m ∧
    Frame.decode frame = .ok { m with target, session }
  once : e.frames.length ≤ 1
  sends : ∀ outside m, e.move = .send outside m →
    (e.frames = [] ↔ ∃ trouble, e.result = .error trouble)
  activities : e.activities = e.frames.length + e.received?.toList.length

end Event

def Move.event (move : Move) (t : Transport) : Event :=
  ⟨move, (move.run t).1, (move.run t).2.journal.drop t.journal.length⟩

/-- The transport after some moves. -/
def after : List Move → Transport → Transport
  | [], t => t
  | move :: rest, t => after rest (move.run t).2

def history : List Move → Transport → List Event
  | [], _ => []
  | move :: rest, t => move.event t :: history rest (move.run t).2

/-- The last name that a session was given in some events, else the one it had before. -/
def named (session : String) (events : List Event) : String :=
  (events.filterMap Event.name?).getLast?.getD session

/-- What is seen of a message that may be put on the network, with a hang-up behind it or none. -/
inductive Puts (m : Message) : List Act → Prop
  | nothing : Puts m []
  | wrote {connection : Nat} {frame : Bytes} (h : Frame.decode frame = .ok m) :
      Puts m [.wrote connection frame, .activity]
  | lost {connection : Nat} {frame : Bytes} : Puts m [.lost connection frame]
  | hungUp {connection : Nat} {acts : List Act} (h : Puts m acts) :
      Puts m (acts ++ [.hungUp connection])

/-- The transport once these acts were seen of it, under the ids it had. -/
structure Adds (acts : List Act) (t t' : Transport) : Prop where
  journal : t'.journal = t.journal ++ acts
  target : t'.target = t.target
  raw : t'.rawTarget = t.rawTarget
  session : t'.session = t.session

section
variable {t t' : Transport} {outside : Outside} {m : Message} {move : Move} {acts : List Act}
variable {connection : Nat}

/-! ## One message -/

theorem framesIn_append (front back : List Act) :
    framesIn (front ++ back) = framesIn front ++ framesIn back :=
  List.filterMap_append

theorem Puts.frames (h : Puts m acts) :
    (∀ frame ∈ framesIn acts, Frame.decode frame = .ok m) ∧ (framesIn acts).length ≤ 1 ∧
      acts.count .activity = (framesIn acts).length := by
  induction h with
  | nothing | lost => exact ⟨nofun, Nat.zero_le 1, rfl⟩
  | wrote h =>
    refine ⟨fun frame member => ?_, Nat.le_refl 1, rfl⟩
    obtain rfl := List.mem_singleton.1 member
    exact h
  | hungUp _ ih =>
    rw [framesIn_append, List.count_append]
    exact (List.append_nil _).symm ▸ ih

theorem Adds.nothing (t : Transport) : Adds [] t t := ⟨(List.append_nil _).symm, rfl, rfl, rfl⟩

theorem Adds.record (acts : List Act) (t : Transport) : Adds acts t (t.record acts) :=
  ⟨rfl, rfl, rfl, rfl⟩

theorem Adds.then {more : List Act} {t'' : Transport} (first : Adds acts t t')
    (later : Adds more t' t'') : Adds (acts ++ more) t t'' :=
  ⟨by rw [later.journal, first.journal, List.append_assoc], later.target.trans first.target,
    later.raw.trans first.raw, later.session.trans first.session⟩

/-- A send puts one frame on the network, which takes it or does not, or none. -/
theorem send_puts (plain : t.rawTarget = none) (known : Frame.Known m.type) (outside : Outside) :
    ∃ acts, Puts (t.stamp m) acts ∧ Adds acts t (send outside m t).2 ∧
      (framesIn acts = [] ↔ ∃ trouble, (send outside m t).1 = .error trouble) := by
  cases link : t.link with
  | none =>
    rw [send_unlinked link]
    exact ⟨[], .nothing, .nothing t, by simp [framesIn]⟩
  | some connection =>
    obtain ⟨fault, -, hs⟩ | ⟨frame, encoded, ⟨-, hs⟩ | ⟨fault, -, hs⟩⟩ :=
      send_cases link outside m
    · rw [hs]
      exact ⟨[], .nothing, .nothing t, by simp [framesIn]⟩
    · rw [hs]
      rw [encode_plain plain] at encoded
      have decoded := Frame.decode_of_encode (m := t.stamp m) known encoded
      exact ⟨_, .wrote decoded, .record _ t, by simp [framesIn]⟩
    · rw [hs]
      exact ⟨_, .lost, .record _ t, by simp [framesIn]⟩

theorem hangUp_adds (outside : Outside) (connection : Nat) (t : Transport) :
    Adds [.hungUp connection] t (hangUp outside connection t).2 := by
  simp only [hangUp]
  cases outside.close with
  | none => exact ⟨rfl, rfl, rfl, rfl⟩
  | some fault => dsimp only; split <;> exact ⟨rfl, rfl, rfl, rfl⟩

theorem afterParting_puts {sent : Except Trouble Unit × Transport} (puts : Puts m acts)
    (adds : Adds acts t sent.2) (outside : Outside) (connection : Nat) :
    ∃ more, Puts m more ∧ Adds more t (afterParting outside connection sent).2 := by
  rcases sent with ⟨trouble | _, t'⟩
  · simp only [afterParting]
    split
    · exact ⟨_, puts.hungUp, adds.then (hangUp_adds outside connection t')⟩
    · exact ⟨acts, puts, adds⟩
  · exact ⟨_, puts.hungUp, adds.then (hangUp_adds outside connection t')⟩

/-- Closing puts the parting frame on the network, whatever comes of it. -/
theorem close_puts (plain : t.rawTarget = none) (outside : Outside) :
    ∃ acts, Puts (t.stamp (.ofKind .close [] outside.now)) acts ∧
      Adds acts t (close outside t).2 := by
  cases closed : t.closed with
  | true =>
    rw [close_again closed]
    exact ⟨[], .nothing, .nothing t⟩
  | false =>
    cases link : t.link with
    | none =>
      rw [close_unlinked closed link]
      exact ⟨[], .nothing, (List.append_nil _).symm, rfl, rfl, rfl⟩
    | some connection =>
      have known : Frame.Known (Message.ofKind .close [] outside.now).type := known_code .close
      obtain ⟨acts, puts, ⟨journal, target, raw, session⟩, -⟩ :=
        send_puts (t := { t with closed := true }) plain known outside
      rw [close_linked closed link]
      exact afterParting_puts (t := t) puts ⟨journal, target, raw, session⟩ outside connection

theorem readFault_unlinked (link : t.link = none) (outside : Outside) (fault : NetworkFault) :
    t.readFault outside fault = (.error (.session unconnected), t) := by
  simp only [readFault, link]

theorem readFault_linked (link : t.link = some connection) (outside : Outside)
    (fault : NetworkFault) :
    t.readFault outside fault =
      match fault.incoming? with
      | some i => take outside i t
      | none => (.error (.network fault), t) := by
  cases fault <;> simp only [readFault, link, NetworkFault.incoming?]

/-- A message that is read gives its name to the session, unless it has none. -/
theorem heard_ids (m : Message) (t : Transport) :
    (t.heard m).journal = t.journal ++ [.activity] ∧ (t.heard m).target = t.target ∧
      (t.heard m).rawTarget = t.rawTarget ∧
      (t.heard m).session = if m.session = "" then t.session else m.session := by
  simp only [heard, adopt, record]
  split <;> exact ⟨rfl, rfl, rfl, rfl⟩

/-! ## One move -/

theorem Move.event_eq (h : (move.run t).2.journal = t.journal ++ acts) :
    move.event t = ⟨move, (move.run t).1, acts⟩ := by
  rw [Move.event, h, List.drop_left]

/-- What a move does under the ids of the session; it leaves the session with the name it gave. -/
structure Move.Does (move : Move) (t : Transport) : Prop where
  stamped : (move.event t).Stamped t.target t.session
  journal : (move.run t).2.journal = t.journal ++ (move.event t).acts
  target : (move.run t).2.target = t.target
  raw : (move.run t).2.rawTarget = t.rawTarget
  session : (move.run t).2.session = (move.event t).name?.getD t.session

/-- A move that reads nothing and names nobody. -/
theorem Move.does_puts {result : Except Trouble Unit} (puts : Puts (t.stamp m) acts)
    (adds : Adds acts t t') (run : move.run t = (result.map fun _ => none, t'))
    (issues : move.issued? = some m)
    (sends : ∀ outside m, move = .send outside m →
      (framesIn acts = [] ↔ ∃ trouble, result = .error trouble)) : move.Does t := by
  obtain ⟨frames, once, activities⟩ := puts.frames
  have journal : (move.run t).2.journal = t.journal ++ acts := by
    rw [run]
    exact adds.journal
  have event : move.event t = ⟨move, result.map fun _ => none, acts⟩ := by
    rw [event_eq journal, run]
  have received : (⟨move, result.map fun _ => none, acts⟩ : Event).received? = none := by
    cases result <;> rfl
  have name : (⟨move, result.map fun _ => none, acts⟩ : Event).name? = none := by
    cases move with
    | rename session => cases issues
    | _ => simp only [Event.name?, received]; rfl
  refine ⟨?_, ?_, ?_, ?_, ?_⟩
  · rw [event]
    refine ⟨fun frame member => ⟨m, issues, frames frame member⟩, once,
      fun outside m same => ?_, ?_⟩
    · rw [Event.frames, sends outside m same]
      cases result <;> simp [Except.map]
    · rw [received]
      exact activities
  · rw [event, journal]
  · rw [run]
    exact adds.target
  · rw [run]
    exact adds.raw
  · rw [event, run, name]
    exact adds.session

/-- A move that fails and leaves everything as it is. -/
theorem Move.does_nothing {trouble : Trouble} (run : move.run t = (.error trouble, t))
    (issues : move.issued? = some m) : move.Does t :=
  does_puts .nothing (.nothing t) (show _ = (Except.map _ (.error trouble), t) from run) issues
    fun _ _ _ => by simp [framesIn]

/-- What is done with what comes in: a message is taken in under the name that it gives; anything
else has the connection closed. -/
theorem Move.does_take {i : Incoming} (plain : t.rawTarget = none)
    (run : move.run t = take outside i t)
    (issues : move.issued? = some (.ofKind .close [] outside.now))
    (unsent : ∀ outside m, move ≠ .send outside m) : move.Does t := by
  have unnamed (session : String) : move ≠ .rename session := by
    rintro rfl
    cases issues
  obtain ⟨m, brings⟩ | ⟨failure?, closes⟩ := brings_or_closes t i
  · rw [take_brings brings] at run
    obtain ⟨told, target, raw, session⟩ := heard_ids m t
    have journal : (move.run t).2.journal = t.journal ++ [.activity] := by
      rw [run]
      exact told
    have event : move.event t = ⟨move, .ok (some m), [.activity]⟩ := by
      rw [event_eq journal, run]
    have name : (⟨move, .ok (some m), [.activity]⟩ : Event).name? =
        if m.session = "" then none else some m.session := by
      cases move with
      | rename session => exact absurd rfl (unnamed session)
      | _ => simp [Event.name?, Event.received?, Option.filter]
    refine ⟨?_, ?_, ?_, ?_, ?_⟩
    · rw [event]
      exact ⟨nofun, Nat.zero_le 1, fun outside m same => absurd same (unsent outside m), rfl⟩
    · rw [event, journal]
    · rw [run]
      exact target
    · rw [run]
      exact raw
    · rw [event, name, run]
      refine session.trans ?_
      split <;> rfl
  · obtain ⟨acts, puts, adds⟩ := close_puts plain outside
    rw [take_closes closes] at run
    refine does_puts puts ?_ run issues fun outside m same => absurd same (unsent outside m)
    cases failure? <;> exact ⟨adds.journal, adds.target, adds.raw, adds.session⟩

theorem Move.does (kinded : move.Kinded) (plain : t.rawTarget = none) : move.Does t := by
  cases move with
  | send outside m =>
    obtain ⟨acts, puts, adds, sends⟩ := send_puts plain (kinded outside m rfl) outside
    exact does_puts puts adds rfl rfl fun _ _ _ => sends
  | read outside waiting =>
    cases link : t.link with
    | none => exact does_nothing (by rw [run, read_unlinked link]) rfl
    | some connection =>
      have run : (Move.read outside waiting).run t =
          take outside (waiting.head?.getD .ended) t := by
        rw [run, read_linked link]
      exact does_take plain run rfl fun _ _ same => nomatch same
  | readFault outside fault =>
    cases link : t.link with
    | none => exact does_nothing (readFault_unlinked link outside fault) rfl
    | some connection =>
      have run := readFault_linked link outside fault
      cases brings : fault.incoming? with
      | none =>
        rw [brings] at run
        exact does_nothing run rfl
      | some i =>
        rw [brings] at run
        exact does_take plain run rfl fun _ _ same => nomatch same
  | close outside =>
    obtain ⟨acts, puts, adds⟩ := close_puts plain outside
    exact does_puts puts adds rfl rfl fun _ _ same => nomatch same
  | rename session =>
    have event : (Move.rename session).event t = ⟨.rename session, .ok none, []⟩ :=
      event_eq (List.append_nil _).symm
    refine ⟨?_, ?_, rfl, rfl, ?_⟩
    · rw [event]
      exact ⟨nofun, Nat.zero_le 1, fun _ _ same => (nomatch same), rfl⟩
    · rw [event]
      exact (List.append_nil _).symm
    · rw [event]
      rfl

/-! ## Runs -/

theorem named_cons (session : String) (e : Event) (events : List Event) :
    named session (e :: events) = named (e.name?.getD session) events := by
  unfold named
  rw [List.filterMap_cons]
  cases e.name? with
  | none => rfl
  | some name =>
    rw [List.getLast?_cons, Option.getD_some, Option.getD_some]

/-- What a run does: each event is stamped with the name that the events before it gave, and what
was seen of it is what was seen of its events. -/
theorem history_stamped {moves : List Move} (kinded : ∀ move ∈ moves, move.Kinded)
    (plain : t.rawTarget = none) :
    (∀ before e later, history moves t = before ++ e :: later →
      e.Stamped t.target (named t.session before)) ∧
    (after moves t).journal = t.journal ++ (history moves t).flatMap Event.acts ∧
    (after moves t).target = t.target ∧
    (after moves t).session = named t.session (history moves t) := by
  induction moves generalizing t with
  | nil =>
    refine ⟨fun before e later split => ?_, by simp [history, after], rfl, rfl⟩
    simp [history] at split
  | cons move rest ih =>
    have does := move.does (kinded move List.mem_cons_self) plain
    obtain ⟨stamped, journal, target, session⟩ :=
      ih (fun other member => kinded other (List.mem_cons_of_mem _ member)) (does.raw.trans plain)
    refine ⟨fun before e later split => ?_, ?_, ?_, ?_⟩
    · cases before with
      | nil =>
        cases split
        exact does.stamped
      | cons first before =>
        obtain ⟨rfl, rest⟩ := List.cons.inj split
        rw [named_cons, ← does.session, ← does.target]
        exact stamped before e later rest
    · rw [after, journal, does.journal, history, List.flatMap_cons, List.append_assoc]
    · rw [after, target, does.target]
    · rw [after, session, does.session, history, named_cons]

/-- Whatever comes of the dial, it is all that is seen of it. -/
theorem connect_adds (outside : Outside) (fault : Option NetworkFault) (url : String)
    (headers : List (String × String)) (target session : String) :
    ∃ dial, Adds [.dial dial] (initial target session)
      (connect outside fault url headers (initial target session)).2 := by
  refine ⟨{ url, headers, secure := isSecure url }, ?_⟩
  cases fault with
  | none => exact ⟨rfl, rfl, rfl, rfl⟩
  | some fault => cases fault <;> exact ⟨rfl, rfl, rfl, rfl⟩

theorem activities_history {events : List Event} {target : String}
    (stamped : ∀ e ∈ events, ∃ session, e.Stamped target session) :
    (events.flatMap Event.acts).count .activity =
      (events.flatMap Event.frames).length + (events.filterMap Event.received?).length := by
  induction events with
  | nil => rfl
  | cons e rest ih =>
    obtain ⟨session, here⟩ := stamped e List.mem_cons_self
    have received : ((e :: rest).filterMap Event.received?).length =
        e.received?.toList.length + (rest.filterMap Event.received?).length := by
      cases h : e.received? <;> simp [h, Nat.add_comm]
    have activities : e.acts.count .activity = e.frames.length + e.received?.toList.length :=
      here.activities
    rw [List.flatMap_cons, List.count_append, List.flatMap_cons, List.length_append, received,
      ih fun e member => stamped e (List.mem_cons_of_mem _ member), activities]
    omega

theorem framesIn_flatMap (events : List Event) :
    framesIn (events.flatMap Event.acts) = events.flatMap Event.frames := by
  induction events with
  | nil => rfl
  | cons e rest ih => rw [List.flatMap_cons, framesIn_append, ih, List.flatMap_cons]; rfl

end

/-- **Under whose name a session writes.** After a dial, and whatever is done with the session and
however the network answers: each frame that an event writes is read back as the message issued
there, under the session's own target and the last name that it was given before. A message that is
read gives it its name unless that is empty. All that is written is written by those events, and the
owner is told once for each frame written and once for each message read. -/
theorem frames_stamped (target session : String) (outside : Outside)
    (fault : Option NetworkFault) (url : String) (headers : List (String × String))
    {moves : List Move} (kinded : ∀ move ∈ moves, move.Kinded) :
    let start := (connect outside fault url headers (initial target session)).2
    let events := history moves start
    let t := after moves start
    (∀ before e later, events = before ++ e :: later →
      e.Stamped target (named session before)) ∧
    t.target = target ∧ t.session = named session events ∧
    t.written = events.flatMap Event.frames ∧
    t.activities = t.written.length + (events.filterMap Event.received?).length := by
  intro start events t
  obtain ⟨dial, ⟨dialled, toTarget, plain, underSession⟩⟩ :=
    connect_adds outside fault url headers target session
  obtain ⟨stamped, journal, keptTarget, lastSession⟩ := history_stamped (t := start) kinded plain
  change start.target = target at toTarget
  change start.session = session at underSession
  change start.journal = [.dial dial] at dialled
  rw [toTarget, underSession] at stamped
  rw [dialled] at journal
  have written : t.written = events.flatMap Event.frames := by
    change framesIn t.journal = _
    rw [journal, framesIn_append, framesIn_flatMap]
    rfl
  refine ⟨stamped, keptTarget.trans toTarget, ?_, written, ?_⟩
  · rw [← underSession]
    exact lastSession
  · have each : ∀ e ∈ events, ∃ session, e.Stamped target session := by
      intro e member
      obtain ⟨before, later, split⟩ := List.append_of_mem member
      exact ⟨_, stamped before e later split⟩
    rw [written, ← activities_history each, Transport.activities, journal, List.count_append]
    exact Nat.zero_add _

/-- A session that is sent a message under other ids after another message named it, and that is
named by its owner before it is closed. -/
theorem frames_stamped_renamed :
    let start := (connect { now := 0 } none "ws://h/exec" [] (initial "ms" "")).2
    let message : Message := { type := 0, data := [0x6C], target := "other", session := "alien" }
    let naming : Bytes :=
      [0x81, 0xA6, 0x65, 0x78, 0x65, 0x63, 0x49, 0x64, 0xA2, 0x73, 0x31]
    let moves : List Move := [.read { now := 1 } [.frame naming], .send { now := 2 } message,
      .rename "s2", .close { now := 3 }]
    let t := after moves start
    t.session = "s2" ∧ t.activities = t.written.length + 1 ∧
      ∃ frame ∈ t.written,
        Frame.decode frame = .ok { message with target := "ms", session := "s1" } := by
  intro start message naming moves t
  have kinded : ∀ move ∈ moves, move.Kinded := by
    simp only [moves, List.forall_mem_cons]
    refine ⟨?_, ?_, ?_, ?_, List.forall_mem_nil _⟩
    · rintro _ _ ⟨⟩
    · rintro _ _ ⟨⟩
      decide
    · rintro _ _ ⟨⟩
    · rintro _ _ ⟨⟩
  obtain ⟨stamped, -, named, written, activities⟩ :=
    frames_stamped "ms" "" { now := 0 } none "ws://h/exec" [] kinded
  have received : ((history moves start).filterMap Event.received?).length = 1 := by
    decide +kernel
  have names : EdgeSession.Transport.named "" (history moves start) = "s2" := by decide +kernel
  refine ⟨named.trans names, activities.trans (congrArg _ received), ?_⟩
  let heard := ((Move.read { now := 1 } [.frame naming]).run start).2
  let sent := (Move.send { now := 2 } message).event heard
  have here := stamped [(Move.read { now := 1 } [.frame naming]).event start] sent
    (history [.rename "s2", .close { now := 3 }] ((Move.send { now := 2 } message).run heard).2) rfl
  have taken : sent.result = .ok none := by decide +kernel
  obtain ⟨frame, member⟩ : ∃ frame, frame ∈ sent.frames := by
    refine List.exists_mem_of_ne_nil _ fun none => ?_
    obtain ⟨trouble, failed⟩ := (here.sends _ _ rfl).1 none
    exact absurd (taken.symm.trans failed) nofun
  obtain ⟨m, ⟨⟩, decoded⟩ := here.frames frame member
  refine ⟨frame, ?_, ?_⟩
  · rw [written]
    exact List.mem_flatMap.2 ⟨sent, .tail _ (.head _), member⟩
  · have session : EdgeSession.Transport.named ""
        [(Move.read { now := 1 } [.frame naming]).event start] = "s1" := by
      decide +kernel
    rw [session] at decoded
    exact decoded

end Transport
end EdgeSession
