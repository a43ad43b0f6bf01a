import EdgeSession.Proofs.Session.Codec
import EdgeSession.Session.Transport

/-!
What each call on a transport does, as a whole: its result, what changes and what does not, and what
the network sees of it.
-/
namespace EdgeSession.Transport

/-- What a live socket may answer when it is written to or closed. -/
inductive Usual : Option NetworkFault → Prop
  | fine : Usual none
  | closed (received sent : Option CloseFrame) : Usual (some (.closed received sent))
  | system (kind : SystemError) (text : String) : Usual (some (.system kind text))

/-- A clock whose times have a written form, and a socket that answers as sockets do. -/
structure Calm (outside : Outside) : Prop where
  now : Pack.Encodable outside.now
  send : Usual outside.send
  close : Usual outside.close

/-- An open session, under ids that are texts and have a written form. -/
structure Live (connection : Nat) (t : Transport) : Prop where
  link : t.link = some connection
  unclosed : t.closed = false
  plain : t.rawTarget = none
  target : Frame.fits t.target = true
  session : Frame.fits t.session = true

/-- A session that has ended. -/
structure Ended (t : Transport) : Prop where
  link : t.link = none
  closed : t.closed = true
  done : t.done = true

/-- The same transport once it has done these things. -/
def record (acts : List Act) (t : Transport) : Transport := { t with journal := t.journal ++ acts }

/-- The same transport once it has ended with these acts. -/
def leave (acts : List Act) (t : Transport) : Transport :=
  { t.record acts with link := none, closed := true, done := true }

theorem leave_ended (acts : List Act) (t : Transport) : Ended (t.leave acts) := ⟨rfl, rfl, rfl⟩

/-- How a connection is left: one CLOSE frame, taken or not, and then the hang-up. -/
inductive Parting (connection : Nat) (target : String) : List Act → Prop
  | wrote {frame : Bytes} {session : String} {now : Int}
      (h : Frame.encode { Message.ofKind .close [] now with target, session } = .ok frame) :
      Parting connection target [.wrote connection frame, .activity, .hungUp connection]
  | lost {frame : Bytes} {session : String} {now : Int}
      (h : Frame.encode { Message.ofKind .close [] now with target, session } = .ok frame) :
      Parting connection target [.lost connection frame, .hungUp connection]

section
variable {connection : Nat} {outside : Outside} {t : Transport}

/-! ## Writing -/

/-- Under an identity that is a text, a message is stamped with it. -/
theorem encode_plain (plain : t.rawTarget = none) (m : Message) :
    t.encode m = Frame.encode (t.stamp m) := by
  unfold encode
  rw [plain]

theorem encode_oversized_iff {m : Message} {n : Nat} :
    t.encode m = .error (.oversized n) ↔
      Frame.maxPayload < m.data.length ∧ n = m.data.length := by
  unfold encode
  cases t.rawTarget with
  | none => exact Frame.encode_oversized_iff
  | some target => exact Frame.encodeUnder_oversized_iff

/-- A message that has no frame does nothing at all; the frame of any other is put on the network,
which may lose it. -/
theorem send_cases (link : t.link = some connection) (outside : Outside) (m : Message) :
    (∃ fault, t.encode m = .error fault ∧
      send outside m t = (.error (encodeTrouble fault), t)) ∨
    ∃ frame, t.encode m = .ok frame ∧
      ((outside.send = none ∧
          send outside m t = (.ok (), t.record [.wrote connection frame, .activity])) ∨
        ∃ fault, outside.send = some fault ∧
          send outside m t = (.error (linkTrouble fault), t.record [.lost connection frame])) := by
  simp only [send, link]
  cases he : t.encode m with
  | error fault => exact .inl ⟨fault, rfl, rfl⟩
  | ok frame =>
    refine .inr ⟨frame, rfl, ?_⟩
    cases ho : outside.send with
    | none =>
      refine .inl ⟨rfl, ?_⟩
      simp only [note, record, List.append_assoc]
      rfl
    | some fault => exact .inr ⟨fault, rfl, rfl⟩

theorem send_unlinked (link : t.link = none) (outside : Outside) (m : Message) :
    send outside m t = (.error (.session unconnected), t) := by
  simp only [send, link]

/-! ## Closing -/

theorem hangUp_usual (usual : Usual outside.close) (t : Transport) :
    hangUp outside connection t =
      (.ok (), { t.record [.hungUp connection] with link := none, done := true }) := by
  simp only [hangUp]
  generalize outside.close = answer at usual
  cases usual <;> rfl

theorem linkTrouble_passable {fault : NetworkFault} (usual : Usual (some fault)) :
    isPassable (linkTrouble fault) = true := by
  cases usual <;> rfl

theorem known_code (kind : Kind) : Frame.Known kind.code := by
  cases kind <;> decide

theorem legal_ofKind (live : Live connection t) (kind : Kind) (data : Bytes)
    (small : data.length ≤ Frame.maxPayload) {now : Int} (known : Pack.Encodable now) :
    Frame.Legal (t.stamp (.ofKind kind data now)) where
  type := known_code kind
  data := small
  target := Frame.fits_iff.1 live.target
  session := Frame.fits_iff.1 live.session
  timestamp := known

/-- What an open session sends of its own has a frame. -/
theorem encode_ofKind (live : Live connection t) (kind : Kind) (data : Bytes)
    (small : data.length ≤ Frame.maxPayload) {now : Int} (known : Pack.Encodable now) :
    ∃ frame, t.encode (.ofKind kind data now) = .ok frame := by
  rw [encode_plain live.plain]
  exact ⟨_, Frame.encode_legal (legal_ofKind live kind data small known)⟩

/-- An open session is closed with a CLOSE frame and a hang-up, whatever the socket answers. -/
theorem close_live (live : Live connection t) (calm : Calm outside) :
    ∃ acts, Parting connection t.target acts ∧ close outside t = (.ok (), t.leave acts) := by
  obtain ⟨frame, written⟩ := encode_ofKind live .close [] (Nat.zero_le _) calm.now
  have spelt : Frame.encode (t.stamp (.ofKind .close [] outside.now)) = .ok frame :=
    (encode_plain live.plain _).symm.trans written
  have link : { t with closed := true }.link = some connection := live.link
  simp only [close, live.unclosed, live.link, Bool.false_eq_true, if_false]
  obtain ⟨fault, he, -⟩ | ⟨frame', he, ⟨-, hs⟩ | ⟨fault, ho, hs⟩⟩ :=
    send_cases link outside (.ofKind .close [] outside.now)
  · exact absurd (written.symm.trans he) nofun
  · obtain rfl : frame = frame' := Except.ok.inj (written.symm.trans he)
    refine ⟨_, .wrote spelt, ?_⟩
    simp only [live.link] at hs
    simp only [hs]
    rw [hangUp_usual calm.close]
    simp only [leave, record, List.append_assoc, List.cons_append, List.nil_append]
  · obtain rfl : frame = frame' := Except.ok.inj (written.symm.trans he)
    refine ⟨_, .lost spelt, ?_⟩
    have passable := linkTrouble_passable (ho ▸ calm.send)
    simp only [live.link] at hs
    simp only [hs, passable, if_true]
    rw [hangUp_usual calm.close]
    simp only [leave, record, List.append_assoc, List.cons_append, List.nil_append]

/-- Only the first call does anything. -/
theorem close_ended (ended : Ended t) (outside : Outside) : close outside t = (.ok (), t) := by
  simp only [close, ended.closed, if_true]

theorem Live.stick (live : Live connection t) (failure : Failure) :
    Live connection (t.stick failure) :=
  ⟨live.link, live.unclosed, live.plain, live.target, live.session⟩

theorem fail_live {α : Type} (live : Live connection t) (calm : Calm outside) (failure : Failure) :
    ∃ acts, Parting connection t.target acts ∧
      fail (α := α) outside failure t =
        (.error (.session failure), (t.stick failure).leave acts) := by
  obtain ⟨acts, parting, closed⟩ := close_live (live.stick failure) calm
  refine ⟨acts, parting, ?_⟩
  simp only [fail, closed]

/-! ## Opening -/

/-- How a dial may end. -/
inductive Dialled : Option NetworkFault → Prop
  | open : Dialled none
  | closed (received sent : Option CloseFrame) : Dialled (some (.closed received sent))
  | rejected (status : Int) : Dialled (some (.rejected status))
  | protocol (text : String) : Dialled (some (.protocol text))
  | system (kind : SystemError) (text : String) : Dialled (some (.system kind text))

theorem connect_dialled {fault : Option NetworkFault} (dialled : Dialled fault) (outside : Outside)
    (url : String) (headers : List (String × String)) (target session : String) :
    ∃ dial, (connect outside fault url headers (initial target session) =
        (.ok (),
          { (initial target session).record [.dial dial] with link := some 0, opened := 1 })) ∨
      ∃ failure, connect outside fault url headers (initial target session) =
        (.error (.session failure),
          (((initial target session).record [.dial dial]).stick failure).leave []) := by
  refine ⟨{ url, headers, secure := isSecure url }, ?_⟩
  cases dialled with
  | «open» => exact .inl rfl
  | _ => exact .inr ⟨_, rfl⟩

/-! ## Reading -/

/-- What is read as a message. -/
inductive Brings : Incoming → Message → Prop
  | frame {bytes : Bytes} {m : Message} (h : Frame.decode bytes = .ok m) : Brings (.frame bytes) m
  | text {s : String} {m : Message} (h : Frame.decode (Utf8.encode s) = .ok m) :
      Brings (.text s) m

/-- What comes in is no longer than a connection takes. -/
def Sized : Incoming → Prop
  | .frame bytes => bytes.length ≤ Frame.maxSize
  | .text s => (Utf8.encode s).length ≤ Frame.maxSize
  | .closed _ _ => True

/-- The session id of a message that comes in has a written form. -/
theorem Brings.fits {i : Incoming} {m : Message} (h : Brings i m) (sized : Sized i) :
    Frame.fits m.session = true := by
  obtain ⟨frame, decoded, short⟩ : ∃ frame, Frame.decode frame = .ok m ∧
      frame.length ≤ Frame.maxSize := by
    cases h with
    | frame decoded => exact ⟨_, decoded, sized⟩
    | text decoded => exact ⟨_, decoded, sized⟩
  have bound : 3 * Frame.maxSize < 2 ^ 32 := by decide
  exact Frame.fits_iff.2 (Frame.legal_of_short decoded (by omega)).session

/-- What ends a session with a failure. -/
inductive Breaks : Incoming → Failure → Prop
  | frame {bytes : Bytes} {fault : Frame.DecodeFault} (h : Frame.decode bytes = .error fault) :
      Breaks (.frame bytes) fault.failure
  | text {s : String} {fault : Frame.DecodeFault}
      (h : Frame.decode (Utf8.encode s) = .error fault) : Breaks (.text s) fault.failure
  | closed {received sent : Option CloseFrame} (h : (closureOf received sent).isGraceful = false) :
      Breaks (.closed received sent) (closureOf received sent)

/-- What ends a session in good order. -/
inductive Leaves : Incoming → Prop
  | closed {received sent : Option CloseFrame} (h : (closureOf received sent).isGraceful = true) :
      Leaves (.closed received sent)

/-- Whatever comes in is a message, or ends the session. -/
theorem arrives (incoming : Incoming) :
    (∃ m, Brings incoming m) ∨ Leaves incoming ∨ ∃ failure, Breaks incoming failure := by
  cases incoming with
  | frame bytes =>
    cases h : Frame.decode bytes with
    | ok m => exact .inl ⟨m, .frame h⟩
    | error fault => exact .inr (.inr ⟨_, .frame h⟩)
  | text s =>
    cases h : Frame.decode (Utf8.encode s) with
    | ok m => exact .inl ⟨m, .text h⟩
    | error fault => exact .inr (.inr ⟨_, .text h⟩)
  | closed received sent =>
    cases h : (closureOf received sent).isGraceful with
    | true => exact .inr (.inl (.closed h))
    | false => exact .inr (.inr ⟨_, .closed h⟩)

theorem take_brings {incoming : Incoming} {m : Message} (h : Brings incoming m)
    (outside : Outside) (t : Transport) :
    take outside incoming t = (.ok (some m), (t.adopt m).record [.activity]) := by
  cases h with
  | _ h => simp only [take, receive, h]; rfl

/-- How the closing itself turns out is left to the socket. -/
theorem take_leaves {incoming : Incoming} (h : Leaves incoming) (outside : Outside)
    (t : Transport) :
    take outside incoming t = ((close outside t).1.map fun _ => none, (close outside t).2) := by
  cases h with
  | closed h =>
    simp only [take, h, Bool.or_true, if_true]
    rcases close outside t with ⟨_ | _, _⟩ <;> rfl

/-- A closure counts only where this side has not closed before. -/
theorem take_breaks {incoming : Incoming} {failure : Failure} (h : Breaks incoming failure)
    (counts : ∀ received sent, incoming = .closed received sent → t.closed = false)
    (outside : Outside) : take outside incoming t = fail outside failure t := by
  cases h with
  | closed h =>
    simp only [take, counts _ _ rfl, h, Bool.or_false, Bool.false_eq_true, if_false]
  | _ h => simp only [take, receive, h]

/-- Where the socket answers as sockets do, the session has ended afterwards. -/
theorem take_cases (live : Live connection t) (calm : Calm outside) (incoming : Incoming) :
    (∃ m, Brings incoming m ∧
      take outside incoming t = (.ok (some m), (t.adopt m).record [.activity])) ∨
    (∃ acts, Leaves incoming ∧ Parting connection t.target acts ∧
      take outside incoming t = (.ok none, t.leave acts)) ∨
    ∃ failure acts, Breaks incoming failure ∧ Parting connection t.target acts ∧
      take outside incoming t = (.error (.session failure), (t.stick failure).leave acts) := by
  obtain ⟨m, brings⟩ | leaves | ⟨failure, breaks⟩ := arrives incoming
  · exact .inl ⟨m, brings, take_brings brings outside t⟩
  · obtain ⟨acts, parting, closed⟩ := close_live live calm
    exact .inr (.inl ⟨acts, leaves, parting, by rw [take_leaves leaves, closed]; rfl⟩)
  · obtain ⟨acts, parting, failed⟩ := fail_live live calm failure
    exact .inr (.inr ⟨failure, acts, breaks, parting,
      by rw [take_breaks breaks fun _ _ _ => live.unclosed, failed]⟩)

theorem read_linked (link : t.link = some connection) (outside : Outside)
    (waiting : List Incoming) :
    read outside waiting t =
      ((take outside (waiting.head?.getD .ended) t).1,
        (take outside (waiting.head?.getD .ended) t).2, waiting.tail) := by
  simp only [read, link]

theorem read_unlinked (link : t.link = none) (outside : Outside) (waiting : List Incoming) :
    read outside waiting t = (.error (.session unconnected), t, waiting) := by
  simp only [read, link]

end

end EdgeSession.Transport
