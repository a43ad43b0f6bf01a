import EdgeSession.Proofs.Session.Transport

/-!
What reading does to a transport whatever the socket answers: a message is taken in, and anything
else closes the connection, which may itself go wrong.
-/
namespace EdgeSession

/-- A failure as the call of `start` raises it. -/
def report : Option Failure → Except Trouble Unit
  | none => .ok ()
  | some failure => .error (.session failure)

/-- The message that comes in, if it is one. -/
def Incoming.message? : Incoming → Option Message
  | .frame bytes => (Frame.decode bytes).toOption
  | .text s => (Frame.decode (Utf8.encode s)).toOption
  | .closed _ _ => none

namespace Transport

/-- The transport once it has read a message. -/
def heard (m : Message) (t : Transport) : Transport := (t.adopt m).record [.activity]

def keep (failure? : Option Failure) (t : Transport) : Transport := failure?.elim t t.stick

/-- What a call comes to that closes the connection on its way back: trouble with the closing goes
before the failure. -/
def leaving (outside : Outside) (failure? : Option Failure) (t : Transport) :
    Except Trouble Unit :=
  (close outside t).1.bind fun _ => report failure?

/-- What makes its reader close a connection: the remote side leaves, or is gone once this side has
closed; or a failure. -/
inductive Closes (t : Transport) : Incoming → Option Failure → Prop
  | left {i : Incoming} (h : Leaves i) : Closes t i none
  | gone {received sent : Option CloseFrame} (closed : t.closed = true) :
      Closes t (.closed received sent) none
  | broken {i : Incoming} {failure : Failure} (h : Breaks i failure)
      (counts : ∀ received sent, i = .closed received sent → t.closed = false) :
      Closes t i (some failure)

section
variable {outside : Outside} {connection : Nat} {t : Transport} {i : Incoming}
variable {failure? : Option Failure}

/-! ## Closing -/

theorem close_again (closed : t.closed = true) (outside : Outside) :
    close outside t = (.ok (), t) := by
  simp only [close, closed, if_true]

theorem send_closed (outside : Outside) (m : Message) (t : Transport) :
    (send outside m t).2.closed = t.closed := by
  cases link : t.link with
  | none => rw [send_unlinked link]
  | some connection =>
    obtain ⟨fault, -, hs⟩ | ⟨frame, -, ⟨-, hs⟩ | ⟨fault, -, hs⟩⟩ := send_cases link outside m <;>
      rw [hs] <;> rfl

theorem send_isConnected (outside : Outside) (m : Message) (t : Transport) :
    (send outside m t).2.isConnected = t.isConnected := by
  cases link : t.link with
  | none => rw [send_unlinked link]
  | some connection =>
    obtain ⟨fault, -, hs⟩ | ⟨frame, -, ⟨-, hs⟩ | ⟨fault, -, hs⟩⟩ := send_cases link outside m <;>
      rw [hs] <;> rfl

theorem hangUp_closed (outside : Outside) (connection : Nat) (t : Transport) :
    (hangUp outside connection t).2.closed = t.closed := by
  simp only [hangUp]
  cases outside.close with
  | none => rfl
  | some fault => dsimp only; split <;> rfl

/-- What follows the parting frame of an open session. -/
def afterParting (outside : Outside) (connection : Nat) :
    Except Trouble Unit × Transport → Except Trouble Unit × Transport
  | (.ok _, t) => hangUp outside connection t
  | (.error trouble, t) =>
    if isPassable trouble then hangUp outside connection t else (.error trouble, t)

theorem close_linked (unclosed : t.closed = false) (link : t.link = some connection)
    (outside : Outside) :
    close outside t =
      afterParting outside connection
        (send outside (.ofKind .close [] outside.now) { t with closed := true }) := by
  simp only [close, unclosed, link, Bool.false_eq_true, if_false]
  rfl

theorem close_unlinked (unclosed : t.closed = false) (link : t.link = none) (outside : Outside) :
    close outside t = (.ok (), { t with closed := true, done := true }) := by
  simp only [close, unclosed, link, Bool.false_eq_true, if_false]

theorem afterParting_closed (outside : Outside) (connection : Nat)
    (sent : Except Trouble Unit × Transport) :
    (afterParting outside connection sent).2.closed = sent.2.closed := by
  rcases sent with ⟨trouble | _, t⟩
  · simp only [afterParting]
    split
    · exact hangUp_closed outside connection t
    · rfl
  · exact hangUp_closed outside connection t

theorem close_closed (outside : Outside) (t : Transport) :
    (close outside t).2.closed = true := by
  cases closed : t.closed with
  | true => rw [close_again closed, closed]
  | false =>
    cases link : t.link with
    | none => rw [close_unlinked closed link]
    | some connection => rw [close_linked closed link, afterParting_closed, send_closed]

theorem hangUp_error {trouble : Trouble} (h : (hangUp outside connection t).1 = .error trouble)
    (failure : Failure) : trouble ≠ .session failure := by
  simp only [hangUp] at h
  split at h
  · cases h
  · split at h <;> cases h
    exact Trouble.noConfusion

theorem afterParting_error {sent : Except Trouble Unit × Transport} {trouble : Trouble}
    (h : (afterParting outside connection sent).1 = .error trouble) (failure : Failure) :
    trouble ≠ .session failure := by
  rcases sent with ⟨met | _, t⟩
  · simp only [afterParting] at h
    split at h
    · exact hangUp_error h failure
    · rename_i unknown
      cases h
      rintro rfl
      exact unknown rfl
  · exact hangUp_error h failure

/-- Whoever closes is only told of errors that no session knows. -/
theorem close_error {trouble : Trouble} (h : (close outside t).1 = .error trouble)
    (failure : Failure) : trouble ≠ .session failure := by
  cases closed : t.closed with
  | true =>
    rw [close_again closed] at h
    cases h
  | false =>
    cases link : t.link with
    | none =>
      rw [close_unlinked closed link] at h
      cases h
    | some connection =>
      rw [close_linked closed link] at h
      exact afterParting_error h failure

theorem send_stick (outside : Outside) (m : Message) (failure : Failure) (t : Transport) :
    send outside m (t.stick failure) =
      ((send outside m t).1, (send outside m t).2.stick failure) := by
  have link : (t.stick failure).link = t.link := rfl
  have same : (t.stick failure).encode m = t.encode m := rfl
  simp only [send, link, same]
  cases t.link with
  | none => rfl
  | some connection =>
    dsimp only
    cases t.encode m with
    | error fault => rfl
    | ok frame => cases outside.send <;> rfl

theorem hangUp_stick (outside : Outside) (connection : Nat) (failure : Failure) (t : Transport) :
    hangUp outside connection (t.stick failure) =
      ((hangUp outside connection t).1, (hangUp outside connection t).2.stick failure) := by
  simp only [hangUp]
  cases outside.close with
  | none => rfl
  | some fault => dsimp only; split <;> rfl

/-- A failure that is kept has no part in the closing. -/
theorem close_stick (outside : Outside) (failure : Failure) (t : Transport) :
    close outside (t.stick failure) =
      ((close outside t).1, (close outside t).2.stick failure) := by
  cases closed : t.closed with
  | true => rw [close_again closed, close_again (t := t.stick failure) closed]
  | false =>
    cases link : t.link with
    | none =>
      rw [close_unlinked closed link, close_unlinked (t := t.stick failure) closed link]
      rfl
    | some connection =>
      have shut : { t.stick failure with closed := true } =
          { t with closed := true }.stick failure := rfl
      rw [close_linked closed link, close_linked (t := t.stick failure) closed link, shut,
        send_stick]
      rcases send outside _ { t with closed := true } with ⟨trouble | _, sent⟩
      · simp only [afterParting]
        split
        · exact hangUp_stick outside connection failure sent
        · rfl
      · exact hangUp_stick outside connection failure sent

theorem send_sticky (outside : Outside) (m : Message) (t : Transport) :
    (send outside m t).2.sticky = t.sticky := by
  cases link : t.link with
  | none => rw [send_unlinked link]
  | some connection =>
    obtain ⟨fault, -, hs⟩ | ⟨frame, -, ⟨-, hs⟩ | ⟨fault, -, hs⟩⟩ := send_cases link outside m <;>
      rw [hs] <;> rfl

theorem hangUp_sticky (outside : Outside) (connection : Nat) (t : Transport) :
    (hangUp outside connection t).2.sticky = t.sticky := by
  simp only [hangUp]
  cases outside.close with
  | none => rfl
  | some fault => dsimp only; split <;> rfl

/-- Closing adds no failure to the one that is kept. -/
theorem close_sticky (outside : Outside) (t : Transport) :
    (close outside t).2.sticky = t.sticky := by
  cases closed : t.closed with
  | true => rw [close_again closed]
  | false =>
    cases link : t.link with
    | none => rw [close_unlinked closed link]
    | some connection =>
      have sent := send_sticky outside (.ofKind .close [] outside.now) { t with closed := true }
      rw [close_linked closed link]
      generalize send outside (.ofKind .close [] outside.now) { t with closed := true } = call
        at sent ⊢
      rcases call with ⟨trouble | _, u⟩
      · simp only [afterParting]
        split
        · exact (hangUp_sticky ..).trans sent
        · exact sent
      · exact (hangUp_sticky ..).trans sent

@[simp] theorem keep_closed (failure? : Option Failure) (t : Transport) :
    (t.keep failure?).closed = t.closed := by
  cases failure? <;> rfl

theorem leaving_of_ok (closed : (close outside t).1 = .ok ()) (failure? : Option Failure) :
    leaving outside failure? t = report failure? := by
  rw [leaving, closed]; rfl

theorem leaving_of_error {trouble : Trouble} (fault : (close outside t).1 = .error trouble)
    (failure? : Option Failure) : leaving outside failure? t = .error trouble := by
  rw [leaving, fault]; rfl

/-! ## What is read -/

@[simp] theorem heard_isConnected (m : Message) (t : Transport) :
    (t.heard m).isConnected = t.isConnected := by
  simp only [heard, adopt, isConnected, record]
  split <;> rfl

/-- What comes in brings a message, or makes its reader close the connection. -/
theorem brings_or_closes (t : Transport) (i : Incoming) :
    (∃ m, Brings i m) ∨ ∃ failure?, Closes t i failure? := by
  obtain message | leaves | ⟨failure, breaks⟩ := arrives i
  · exact .inl message
  · exact .inr ⟨none, .left leaves⟩
  · cases breaks with
    | frame h => exact .inr ⟨_, .broken (.frame h) nofun⟩
    | text h => exact .inr ⟨_, .broken (.text h) nofun⟩
    | closed h =>
      cases closed : t.closed with
      | true => exact .inr ⟨none, .gone closed⟩
      | false => exact .inr ⟨_, .broken (.closed h) fun _ _ _ => closed⟩

theorem message?_of_brings {m : Message} (h : Brings i m) : i.message? = some m := by
  cases h with
  | _ h => simp only [Incoming.message?, h]; rfl

theorem brings_of_message? {m : Message} (h : i.message? = some m) : Brings i m := by
  cases i with
  | frame bytes =>
    cases hd : Frame.decode bytes with
    | ok m' =>
      simp only [Incoming.message?, hd] at h
      cases h
      exact .frame hd
    | error fault =>
      simp only [Incoming.message?, hd] at h
      cases h
  | text s =>
    cases hd : Frame.decode (Utf8.encode s) with
    | ok m' =>
      simp only [Incoming.message?, hd] at h
      cases h
      exact .text hd
    | error fault =>
      simp only [Incoming.message?, hd] at h
      cases h
  | closed received sent => cases h

theorem closes_of_no_message (h : i.message? = none) (t : Transport) :
    ∃ failure?, Closes t i failure? := by
  obtain ⟨m, brings⟩ | closes := brings_or_closes t i
  · rw [message?_of_brings brings] at h
    cases h
  · exact closes

/-- A closure in good order is no failure. -/
theorem Breaks.not_graceful {failure : Failure} (h : Breaks i failure) :
    failure.isGraceful = false := by
  cases h with
  | closed h => exact h
  | frame | text => rename_i fault _; cases fault <;> rfl

theorem Closes.not_graceful (h : Closes t i failure?) (failure : Failure)
    (same : failure? = some failure) : failure.isGraceful = false := by
  cases h with
  | left | gone => cases same
  | broken h =>
    cases same
    exact h.not_graceful

/-- The connection is closed, and the failure kept and reported. -/
theorem take_closes (h : Closes t i failure?) (outside : Outside) :
    take outside i t =
      ((leaving outside failure? t).map fun _ => none, (close outside t).2.keep failure?) := by
  cases h with
  | left h =>
    rw [take_leaves h, leaving]
    cases (close outside t).1 <;> rfl
  | gone closed =>
    simp only [take, closed, Bool.true_or, if_true, leaving, close_again closed]
    rfl
  | broken h counts =>
    rw [take_breaks h counts, fail, close_stick, leaving]
    cases (close outside t).1 <;> rfl

end
end Transport
end EdgeSession
