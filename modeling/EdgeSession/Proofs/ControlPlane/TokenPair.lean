import Mathlib.Control.Monad.Basic
import EdgeSession.Proofs.ControlPlane.Lookups

/-!
The two tokens of a client across a renewal. They stay as they are, or an answer brings the access
token and, if it names one, the refresh token; and a login is tried for no other reason than that
there is no refresh token, or it is turned down.
-/
namespace EdgeSession.ControlPlane.Client

/-- An answer without the status of an error, and what it holds. -/
inductive Success : Http.Reply → Json → Prop
  | empty {status : Nat} (fine : status < 400 ∨ 599 < status) :
      Success (.answer status "") (.obj [])
  | json {status : Nat} {body : String} {v : Json} (fine : status < 400 ∨ 599 < status)
      (given : body ≠ "") (read : Json.parseValue (answerText body) = .ok v) :
      Success (.answer status body) v

/-- What an answer holds brings an access token, one that does not count as absent. -/
def Grants (tokens access : Json) : Prop :=
  tokens.get? "accessToken" = some access ∧ access.isTruthy = true

/-- A question for tokens is turned down by its status, or by a success that brings none. -/
inductive TurnedDown : Http.Reply → Prop
  | status {status : Nat} {body : String} (refused : status = 401 ∨ status = 403) :
      TurnedDown (.answer status body)
  | tokenless {reply : Http.Reply} {tokens : Json} (success : Success reply tokens)
      (none : ∀ access, ¬Grants tokens access) : TurnedDown reply

/-- There is no refresh token, or it is turned down. -/
def LoginDue (server : Http.Server) (log : List Http.Request) (c : Client) : Prop :=
  c.refresh.isTruthy = false ∨
    ∃ request, c.request server c.refreshQuestion = .ok request ∧ TurnedDown (server log request)

/-- What is sent for a question: its request, unless it has none. -/
def sends (server : Http.Server) (c : Client) (q : Question) : List Http.Request :=
  (c.request server q).toOption.toList

/-- What comes of a question after the requests in `log`. -/
def answered (server : Http.Server) (log : List Http.Request) (c : Client) (q : Question) :
    Except Fault Json := do
  let request ← c.request server q
  c.readReply q.path (server log request)

/-- The last of some requests is answered with an access token. -/
inductive Granted (server : Http.Server) (log : List Http.Request) :
    List Http.Request → Json → Json → Prop
  | intro {front : List Http.Request} {request : Http.Request} {tokens access : Json}
      (success : Success (server (log ++ front) request) tokens) (grants : Grants tokens access) :
      Granted server log (front ++ [request]) tokens access

/-- The refresh token that is to be held after an answer: a null is none. -/
def refreshAfter (c : Client) (tokens : Json) : Json :=
  match tokens.get? "refreshToken" with
  | none | some .null => c.refresh
  | some token => token

/-- What a renewal does: its result, the client it leaves, and the requests it makes. -/
structure AllOrNothing (server : Http.Server) (log : List Http.Request) (c : Client)
    (result : Except Fault Unit) (after : Client) (made : List Http.Request) : Prop where
  /-- Without reason for a login only the refresh token is tried, and what goes wrong is raised. -/
  direct : ¬LoginDue server log c →
    made = c.sends server c.refreshQuestion ∧
      ∀ fault, answered server log c c.refreshQuestion = .error fault → result = .error fault
  login : LoginDue server log c →
    made = (if c.refresh.isTruthy then c.sends server c.refreshQuestion else []) ++
      c.sends server c.loginQuestion
  returns : result = .ok () ↔ ∃ tokens access, Granted server log made tokens access
  failed : ∀ fault, result = .error fault → after = c
  /-- Both tokens come from the answer, the refresh token as far as it names one. -/
  pair : ∀ tokens access, Granted server log made tokens access →
    after = { c with access, refresh := (tokens.get? "refreshToken").getD c.refresh }
  /-- A refresh token is thrown away only for a null. -/
  kept : ∀ tokens access, Granted server log made tokens access →
    (after.refresh = c.refreshAfter tokens ↔
      (tokens.get? "refreshToken" = some .null → c.refresh = .null))

variable {server : Http.Server} {log made front : List Http.Request} {c after : Client}
  {q : Question} {path : String} {reply : Http.Reply} {tokens access v : Json}
  {request : Http.Request} {result : Except Fault Client}

/-! ## Replies -/

theorem readReply_eq_ok_iff : c.readReply path reply = .ok v ↔ Success reply v := by
  constructor
  · intro read
    cases reply with
    | answer status body =>
      simp only [readReply, readAnswer] at read
      split at read
      · cases read
      split at read
      · cases read
      split at read
      · cases read
      rename_i noError
      have fine : status < 400 ∨ 599 < status := by
        rw [Bool.and_eq_true, decide_eq_true_eq, decide_eq_true_eq] at noError
        omega
      split at read
      · rename_i empty
        cases read
        subst empty
        exact .empty fine
      · rename_i given
        split at read
        · rename_i parsed
          cases read
          exact .json fine given parsed
        · cases read
    | unreachable | broken => cases read
  · intro success
    cases success with
    | @empty status fine | @json status _ _ fine =>
      have unrefused : ¬(status = 401 || status = 403) = true := by simp; omega
      have found : ¬status = 404 := by omega
      have noError : ¬(400 ≤ status && status ≤ 599) = true := by simp; omega
      simp only [readReply, readAnswer]
      rw [if_neg unrefused, if_neg found, if_neg noError]
      simp [*]

theorem Success.unique {w : Json} (h : Success reply v) (again : Success reply w) : v = w := by
  have read {v : Json} (h : Success reply v) : readReply ⟨"", v, v, v, v⟩ "" reply = .ok v :=
    readReply_eq_ok_iff.2 h
  exact Except.ok.inj ((read h).symm.trans (read again))

theorem readReply_unauthorized_iff :
    (∃ text, c.readReply path reply = .error (.failure .unauthorized text)) ↔
      ∃ status body, reply = .answer status body ∧ (status = 401 ∨ status = 403) := by
  constructor
  · rintro ⟨text, read⟩
    cases reply with
    | answer status body =>
      simp only [readReply, readAnswer] at read
      split at read
      · rename_i refused
        exact ⟨status, body, rfl, by simpa using refused⟩
      repeat' split at read
      all_goals cases read
    | unreachable | broken => cases read
  · rintro ⟨status, body, rfl, refused⟩
    refine ⟨s!"control plane returned {status} for {path}", ?_⟩
    simp only [readReply, readAnswer]
    rw [if_pos (by simpa using refused)]

theorem accessToken?_eq_some_iff : accessToken? tokens = some access ↔ Grants tokens access :=
  Option.filter_eq_some_iff

theorem accessToken?_eq_none_iff :
    accessToken? tokens = none ↔ ∀ access, ¬Grants tokens access := by
  simp only [Option.eq_none_iff_forall_ne_some, ne_eq, accessToken?_eq_some_iff]

theorem turnedDown_iff (c : Client) (path : String) :
    TurnedDown reply ↔
      (∃ text, c.readReply path reply = .error (.failure .unauthorized text)) ∨
        ∃ tokens, c.readReply path reply = .ok tokens ∧ accessToken? tokens = none := by
  simp only [readReply_unauthorized_iff, readReply_eq_ok_iff, accessToken?_eq_none_iff]
  constructor
  · rintro (refused | ⟨success, none⟩)
    · exact .inl ⟨_, _, rfl, refused⟩
    · exact .inr ⟨_, success, none⟩
  · rintro (⟨status, body, rfl, refused⟩ | ⟨tokens, success, none⟩)
    · exact .status refused
    · exact .tokenless success none

/-! ## One question for tokens -/

theorem Trade.made_eq (h : Trade server log c q result made) : made = c.sends server q := by
  cases h with
  | unsent unspelt => rw [sends, unspelt]; rfl
  | refused sent | tokenless sent | granted sent => rw [sends, sent]; rfl

/-- Whether a question was turned down is told by its fault. -/
theorem Trade.turnedDown_iff (h : Trade server log c q result made) :
    (∃ request, c.request server q = .ok request ∧ TurnedDown (server log request)) ↔
      ∃ text, result = .error (.failure .unauthorized text) := by
  simp only [Client.turnedDown_iff c q.path]
  cases h with
  | unsent unspelt =>
    simp only [unspelt, reduceCtorEq, false_and, exists_false, false_iff]
    rintro ⟨text, same⟩
    exact request_unspelt unspelt _ text (Except.error.inj same)
  | refused sent refusal => simp [sent, refusal]
  | tokenless sent answer absent => simp [sent, answer, absent]
  | granted sent answer present => simp [sent, answer, present]

/-- A fault of the answer is the fault of the trade. -/
theorem Trade.raised {fault : Fault} (h : Trade server log c q result made)
    (failed : answered server log c q = .error fault) : result = .error fault := by
  unfold answered at failed
  cases h with
  | unsent unspelt =>
    rw [unspelt] at failed
    cases failed
    rfl
  | refused sent refusal =>
    rw [sent] at failed
    cases refusal.symm.trans failed
    rfl
  | tokenless sent answer | granted sent answer =>
    rw [sent] at failed
    cases answer.symm.trans failed

theorem granted_concat_iff :
    Granted server log (front ++ [request]) tokens access ↔
      Success (server (log ++ front) request) tokens ∧ Grants tokens access := by
  constructor
  · generalize whole : front ++ [request] = requests
    rintro ⟨success, grants⟩
    obtain ⟨rfl, last⟩ := List.append_inj' whole rfl
    cases last
    exact ⟨success, grants⟩
  · exact fun ⟨success, grants⟩ => .intro success grants

theorem not_granted_nil : ¬Granted server log [] tokens access := by
  generalize none : ([] : List Http.Request) = requests
  rintro ⟨-, -⟩
  simp at none

/-- A trade that brings tokens is one whose request is answered with an access token. If nothing is
sent for it, nothing is granted that was not before. -/
theorem Trade.granted_iff (h : Trade server (log ++ front) c q result made)
    (stale : ∀ tokens access, ¬Granted server log front tokens access) :
    (∀ tokens access, Granted server log (front ++ made) tokens access →
        result = .ok (c.withTokens tokens access)) ∧
      ((∃ c', result = .ok c') → ∃ tokens access, Granted server log (front ++ made) tokens access)
    := by
  cases h with
  | unsent =>
    rw [List.append_nil]
    exact ⟨fun tokens access granted => absurd granted (stale tokens access), nofun⟩
  | refused _ refusal =>
    refine ⟨fun tokens access granted => ?_, nofun⟩
    rw [readReply_eq_ok_iff.2 (granted_concat_iff.1 granted).1] at refusal
    cases refusal
  | tokenless _ answer absent =>
    refine ⟨fun tokens access granted => ?_, nofun⟩
    obtain ⟨success, grants⟩ := granted_concat_iff.1 granted
    cases success.unique (readReply_eq_ok_iff.1 answer)
    exact absurd grants (accessToken?_eq_none_iff.1 absent access)
  | @granted _ tokens access _ answer present =>
    have success := readReply_eq_ok_iff.1 answer
    refine ⟨fun tokens' access' granted => ?_, fun _ =>
      ⟨tokens, access, .intro success (accessToken?_eq_some_iff.1 present)⟩⟩
    obtain ⟨again, grants⟩ := granted_concat_iff.1 granted
    cases success.unique again
    cases present.symm.trans (accessToken?_eq_some_iff.2 grants)
    rfl

/-! ## A renewal -/

/-- A renewal ends in the trade that it makes last, and makes one for each of its reasons. -/
theorem Renewal.last_trade (h : Renewal server log c result made) :
    ∃ front last q, made = front ++ last ∧ Trade server (log ++ front) c q result last ∧
      (∀ tokens access, ¬Granted server log front tokens access) ∧
      (¬LoginDue server log c → front = [] ∧ q = c.refreshQuestion) ∧
      (LoginDue server log c →
        front = (if c.refresh.isTruthy then c.sends server c.refreshQuestion else []) ∧
          q = c.loginQuestion) := by
  have noneBefore : ∀ tokens access, ¬Granted server log [] tokens access :=
    fun _ _ => not_granted_nil
  have here {q : Question} {result : Except Fault Client} {made : List Http.Request}
      (trade : Trade server log c q result made) : Trade server (log ++ []) c q result made := by
    rwa [List.append_nil]
  cases h with
  | refreshed held refresh =>
    have undue : ¬LoginDue server log c := by
      rintro (unheld | due)
      · simp [held] at unheld
      · obtain ⟨text, ended⟩ := refresh.turnedDown_iff.1 due
        cases ended
    exact ⟨[], made, _, rfl, here refresh, noneBefore, fun _ => ⟨rfl, rfl⟩,
      fun due => absurd due undue⟩
  | failed held refresh kept =>
    have undue : ¬LoginDue server log c := by
      rintro (unheld | due)
      · simp [held] at unheld
      · obtain ⟨text, ended⟩ := refresh.turnedDown_iff.1 due
        exact kept text (Except.error.inj ended)
    exact ⟨[], made, _, rfl, here refresh, noneBefore, fun _ => ⟨rfl, rfl⟩,
      fun due => absurd due undue⟩
  | @turnedDown text result tried more held refresh login =>
    have due : LoginDue server log c := .inr (refresh.turnedDown_iff.2 ⟨text, rfl⟩)
    refine ⟨tried, more, _, rfl, login, fun tokens access granted => ?_,
      fun undue => absurd due undue, fun _ => ⟨?_, rfl⟩⟩
    · cases ((here refresh).granted_iff noneBefore).1 tokens access granted
    · rw [if_pos held]
      exact refresh.made_eq
  | loggedIn unheld login =>
    have due : LoginDue server log c := .inl (Bool.eq_false_iff.2 unheld)
    exact ⟨[], made, _, rfl, here login, noneBefore, fun undue => absurd due undue,
      fun _ => ⟨(if_neg unheld).symm, rfl⟩⟩

theorem refresh_kept_iff :
    (tokens.get? "refreshToken").getD c.refresh = c.refreshAfter tokens ↔
      (tokens.get? "refreshToken" = some .null → c.refresh = .null) := by
  unfold refreshAfter
  split
  · rename_i absent
    simp [absent]
  · rename_i null
    simp [null, eq_comm]
  · rename_i other given
    rw [given, Option.getD_some, Option.some.injEq]
    exact iff_of_true rfl fun null => (other null).elim

/-- **A renewal is all or nothing.** Either it raises and the client keeps both its tokens, or the
last request was answered with an access token and the client holds what came with it. A login is
tried exactly if there is no refresh token or it was turned down; whatever else goes wrong with the
refresh token is raised. The one refresh token that is lost is the one for which a null was sent. -/
theorem renewed_or_unchanged (server : Http.Server) (log : List Http.Request) (c : Client) :
    ∃ result after made, (renew server).exec ⟨c, log⟩ = (result, ⟨after, log ++ made⟩) ∧
      AllOrNothing server log c result after made := by
  obtain ⟨result, made, renewed, ran⟩ := renewal server log c
  obtain ⟨front, last, q, rfl, trade, stale, direct, login⟩ := renewed.last_trade
  obtain ⟨brought, brings⟩ := trade.granted_iff stale
  have requested (due : LoginDue server log c) :
      front ++ last = (if c.refresh.isTruthy then c.sends server c.refreshQuestion else []) ++
        c.sends server c.loginQuestion := by
    obtain ⟨before, same⟩ := login due
    rw [trade.made_eq, same, before]
  have tried (undue : ¬LoginDue server log c) :
      front ++ last = c.sends server c.refreshQuestion := by
    obtain ⟨none, same⟩ := direct undue
    rw [trade.made_eq, same, none, List.nil_append]
  have raised (undue : ¬LoginDue server log c) {fault : Fault}
      (failed : answered server log c c.refreshQuestion = .error fault) :
      result = .error fault := by
    obtain ⟨none, same⟩ := direct undue
    subst none same
    rw [List.append_nil] at trade
    exact trade.raised failed
  cases result with
  | error fault =>
    have ungranted (tokens access : Json) :
        ¬Granted server log (front ++ last) tokens access := fun granted => by
      cases brought tokens access granted
    refine ⟨.error fault, c, front ++ last, ran, ⟨fun undue => ⟨tried undue, ?_⟩, requested,
      ⟨nofun, ?_⟩, fun _ _ => rfl, ?_, ?_⟩⟩
    · intro other failed
      cases raised undue failed
      rfl
    · exact fun ⟨tokens, access, granted⟩ => absurd granted (ungranted tokens access)
    · exact fun tokens access granted => absurd granted (ungranted tokens access)
    · exact fun tokens access granted => absurd granted (ungranted tokens access)
  | ok after =>
    have same {tokens access : Json} (granted : Granted server log (front ++ last) tokens access) :
        after = c.withTokens tokens access := Except.ok.inj (brought tokens access granted)
    refine ⟨.ok (), after, front ++ last, ran, ⟨fun undue => ⟨tried undue, ?_⟩, requested,
      ⟨fun _ => brings ⟨after, rfl⟩, fun _ => rfl⟩, nofun, fun tokens access => same, ?_⟩⟩
    · intro other failed
      cases raised undue failed
    · intro tokens access granted
      rw [same granted]
      exact refresh_kept_iff

/-- A null throws a refresh token away. -/
theorem refresh_token_lost :
    let server : Http.Server := .answering fun _ _ =>
      .answer 200 (Json.obj [("accessToken", .str "new"), ("refreshToken", .null)]).compact
    let c : Client := { baseUrl := "http://host", refresh := .str "old" }
    let turn := (renew server).exec ⟨c, []⟩
    turn.1 = .ok () ∧ turn.2.client.access = .str "new" ∧ turn.2.client.refresh = .null :=
  ⟨by decide +kernel, by decide +kernel, by decide +kernel⟩

end EdgeSession.ControlPlane.Client
