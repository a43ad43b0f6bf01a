import EdgeSession.Proofs.Session.Lifecycle
import EdgeSession.Proofs.Session.Reading

/-!
The first `close` of a session, in every state of the session and for everything that its connection
may raise. It is brought to its end where the parting frame goes out, or is lost as sessions know
it. Any other error there is left to the caller, and the session stays half closed for good.
-/
namespace EdgeSession.Transport

/-- What a connection may answer: nothing amiss, or an error of the websocket protocol or of the
operating system. -/
inductive OfConnection : Option NetworkFault → Prop
  | fine : OfConnection none
  | closed (received sent : Option CloseFrame) : OfConnection (some (.closed received sent))
  | rejected (status : Int) : OfConnection (some (.rejected status))
  | protocol (text : String) : OfConnection (some (.protocol text))
  | system (kind : SystemError) (text : String) : OfConnection (some (.system kind text))

/-- The CLOSE frame of a session has a form, and the socket takes it, or answers that the connection
is closed, or with an error of the operating system. -/
structure Parts (outside : Outside) (t : Transport) : Prop where
  written : ∃ frame, t.encode (.ofKind .close [] outside.now) = .ok frame
  sent : Usual outside.send

/-- A call of `close` that came back, and left the session done, with its connection hung up and
dropped. -/
structure Finishes (t : Transport) (call : Except Trouble Unit × Transport) : Prop where
  returns : call.1 = .ok ()
  closed : call.2.closed = true
  done : call.2.done = true
  dropped : call.2.link = none
  hungUp : ∀ connection, t.link = some connection →
    call.2.journal.getLast? = some (.hungUp connection)

/-- A call of `close` that raised, and left the session closed and not done. Its connection is held
and was not hung up, and no later call does anything about it. -/
structure GivesUp (t : Transport) (call : Except Trouble Unit × Transport) : Prop where
  raises : ∃ trouble, call.1 = .error trouble
  closed : call.2.closed = true
  undone : call.2.done = t.done
  held : call.2.link = t.link
  hangUps : call.2.hangUps = t.hangUps
  again : ∀ later, close later call.2 = (.ok (), call.2)

section
variable {connection : Nat} {outside : Outside} {t : Transport}

theorem hangUp_ofConnection (closes : OfConnection outside.close) (t : Transport) :
    hangUp outside connection t =
      (.ok (), { t.record [.hungUp connection] with link := none, done := true }) := by
  simp only [hangUp]
  generalize outside.close = answer at closes
  cases closes <;> rfl

/-- Of what a connection raises, the CLOSE frame may meet with just what is usual. -/
theorem linkTrouble_passable_iff {fault : NetworkFault} (sends : OfConnection (some fault)) :
    isPassable (linkTrouble fault) = true ↔ Usual (some fault) := by
  constructor
  · intro passable
    cases sends with
    | closed received sent => exact .closed received sent
    | system kind text => exact .system kind text
    | rejected | protocol => cases passable
  · exact linkTrouble_passable

/-- The parting frame has no payload, so what keeps it from being written is none of a session's. -/
theorem encodeTrouble_impassable {fault : Frame.EncodeFault}
    (unwritten : t.encode (.ofKind .close [] outside.now) = .error fault) :
    isPassable (encodeTrouble fault) = false := by
  cases fault with
  | outOfRange | tooLong => rfl
  | oversized length =>
    obtain ⟨large, -⟩ := encode_oversized_iff.1 unwritten
    exact absurd large (Nat.not_lt_zero _)

/-- The session ends with its parting frame, taken or lost, and the hang-up. -/
theorem close_parts (first : t.closed = false) (link : t.link = some connection)
    (parts : Parts outside t) (closes : OfConnection outside.close) :
    ∃ acts, acts.getLast? = some (.hungUp connection) ∧
      close outside t = (.ok (), t.leave acts) := by
  obtain ⟨frame, written⟩ := parts.written
  have opened : { t with closed := true }.link = some connection := link
  rw [close_linked first link]
  obtain ⟨fault, he, -⟩ | ⟨frame', -, ⟨-, hs⟩ | ⟨fault, ho, hs⟩⟩ :=
    send_cases opened outside (.ofKind .close [] outside.now)
  · exact absurd (written.symm.trans he) nofun
  · refine ⟨[.wrote connection frame', .activity, .hungUp connection], rfl, ?_⟩
    simp only [hs, afterParting]
    rw [hangUp_ofConnection closes]
    simp only [leave, record, List.append_assoc, List.cons_append, List.nil_append]
  · have passable := linkTrouble_passable (ho ▸ parts.sent)
    refine ⟨[.lost connection frame', .hungUp connection], rfl, ?_⟩
    simp only [hs, afterParting, passable, if_true]
    rw [hangUp_ofConnection closes]
    simp only [leave, record, List.append_assoc, List.cons_append, List.nil_append]

/-- Without a parting frame the closing stops there: nothing is hung up. -/
theorem close_unparted (first : t.closed = false) (link : t.link = some connection)
    (unparted : ¬Parts outside t) (sends : OfConnection outside.send) :
    ∃ trouble acts, acts.countP isHangUp = 0 ∧
      close outside t = (.error trouble, { t.record acts with closed := true }) := by
  have opened : { t with closed := true }.link = some connection := link
  rw [close_linked first link]
  obtain ⟨fault, he, hs⟩ | ⟨frame, he, ⟨ho, -⟩ | ⟨fault, ho, hs⟩⟩ :=
    send_cases opened outside (.ofKind .close [] outside.now)
  · refine ⟨encodeTrouble fault, [], rfl, ?_⟩
    have impassable := encodeTrouble_impassable (t := { t with closed := true }) he
    simp only [hs, afterParting, impassable, Bool.false_eq_true, if_false, record,
      List.append_nil]
  · exact absurd ⟨⟨frame, he⟩, ho ▸ .fine⟩ unparted
  · refine ⟨linkTrouble fault, [.lost connection frame], rfl, ?_⟩
    have impassable : isPassable (linkTrouble fault) = false := by
      refine Bool.eq_false_iff.2 fun passable => unparted ⟨⟨frame, he⟩, ?_⟩
      rw [ho] at sends ⊢
      exact (linkTrouble_passable_iff sends).1 passable
    simp only [hs, afterParting, impassable, Bool.false_eq_true, if_false]
    rfl

theorem finishes_unlinked (first : t.closed = false) (link : t.link = none) (outside : Outside) :
    Finishes t (close outside t) := by
  rw [close_unlinked first link]
  exact ⟨rfl, rfl, rfl, link, fun connection linked => absurd (link.symm.trans linked) nofun⟩

theorem finishes_parts (first : t.closed = false) (link : t.link = some connection)
    (parts : Parts outside t) (closes : OfConnection outside.close) :
    Finishes t (close outside t) := by
  obtain ⟨acts, last, closed⟩ := close_parts first link parts closes
  rw [closed]
  refine ⟨rfl, rfl, rfl, rfl, fun connection' linked => ?_⟩
  obtain rfl := Option.some.inj (link.symm.trans linked)
  show (t.journal ++ acts).getLast? = some (.hungUp connection)
  rw [List.getLast?_append, last]
  rfl

theorem givesUp_unparted (first : t.closed = false) (link : t.link = some connection)
    (unparted : ¬Parts outside t) (sends : OfConnection outside.send) :
    GivesUp t (close outside t) := by
  obtain ⟨trouble, acts, silent, closed⟩ := close_unparted first link unparted sends
  rw [closed]
  refine ⟨⟨trouble, rfl⟩, rfl, rfl, rfl, ?_, fun later => close_again rfl later⟩
  rw [hangUps_eq, hangUps_eq]
  show (t.journal ++ acts).countP isHangUp = t.journal.countP isHangUp
  rw [List.countP_append, silent, Nat.add_zero]

/-- The first `close` brings the session to its end, or gives up; never both. -/
theorem close_settles (first : t.closed = false) (sends : OfConnection outside.send)
    (closes : OfConnection outside.close) :
    (t.link = none ∨ Parts outside t) ∧ Finishes t (close outside t) ∨
      ¬(t.link = none ∨ Parts outside t) ∧ GivesUp t (close outside t) := by
  cases link : t.link with
  | none => exact .inl ⟨.inl rfl, finishes_unlinked first link outside⟩
  | some connection =>
    by_cases parts : Parts outside t
    · exact .inl ⟨.inr parts, finishes_parts first link parts closes⟩
    · refine .inr ⟨?_, givesUp_unparted first link parts sends⟩
      rintro (unlinked | parted)
      · cases unlinked
      · exact parts parted

end
end EdgeSession.Transport
