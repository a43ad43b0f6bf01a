import EdgeSession.ControlPlane.Client
import EdgeSession.Proofs.ControlPlane.Task

/-!
Renewing a session: what a client sends for it, in which order, and the tokens it holds afterwards.
-/
namespace EdgeSession.ControlPlane.Client

open ControlPlane.Task

/-- The client with the tokens of an answer. The refresh token stays if there is no new one. -/
def withTokens (c : Client) (tokens access : Json) : Client :=
  { c with access, refresh := (tokens.get? "refreshToken").getD c.refresh }

/-- What comes of asking for tokens after the requests in `log`: the client with its new tokens, or
a fault; and what is sent for it. -/
inductive Trade (server : Http.Server) (log : List Http.Request) (c : Client) (q : Question) :
    Except Fault Client → List Http.Request → Prop
  | unsent {fault : Fault} (unspelt : c.request server q = .error fault) :
      Trade server log c q (.error fault) []
  | refused {request : Http.Request} {fault : Fault} (sent : c.request server q = .ok request)
      (refusal : c.readReply q.path (server log request) = .error fault) :
      Trade server log c q (.error fault) [request]
  | tokenless {request : Http.Request} {tokens : Json} (sent : c.request server q = .ok request)
      (answer : c.readReply q.path (server log request) = .ok tokens)
      (absent : accessToken? tokens = none) :
      Trade server log c q
        (.error (.failure .unauthorized "login response carried no access token")) [request]
  | granted {request : Http.Request} {tokens access : Json}
      (sent : c.request server q = .ok request)
      (answer : c.readReply q.path (server log request) = .ok tokens)
      (present : accessToken? tokens = some access) :
      Trade server log c q (.ok (c.withTokens tokens access)) [request]

/-- A renewal: the refresh token is tried if there is one; a login is tried if there is none or it
was turned down. -/
inductive Renewal (server : Http.Server) (log : List Http.Request) (c : Client) :
    Except Fault Client → List Http.Request → Prop
  | refreshed {c' : Client} {made : List Http.Request} (held : c.refresh.isTruthy)
      (refresh : Trade server log c c.refreshQuestion (.ok c') made) :
      Renewal server log c (.ok c') made
  | failed {fault : Fault} {made : List Http.Request} (held : c.refresh.isTruthy)
      (refresh : Trade server log c c.refreshQuestion (.error fault) made)
      (kept : ∀ text, fault ≠ .failure .unauthorized text) :
      Renewal server log c (.error fault) made
  | turnedDown {text : String} {result : Except Fault Client} {made more : List Http.Request}
      (held : c.refresh.isTruthy)
      (refresh : Trade server log c c.refreshQuestion (.error (.failure .unauthorized text)) made)
      (login : Trade server (log ++ made) c c.loginQuestion result more) :
      Renewal server log c result (made ++ more)
  | loggedIn {result : Except Fault Client} {made : List Http.Request} (held : ¬c.refresh.isTruthy)
      (login : Trade server log c c.loginQuestion result made) :
      Renewal server log c result made

/-- Whether a client's request is one for tokens: by the refresh token it holds, which is all that
such a request carries, or by a login. -/
def AsksForTokens (server : Http.Server) (c : Client) (request : Http.Request) : Prop :=
  (c.request server c.refreshQuestion = .ok request ∧
    request.body = (Json.obj [("refreshToken", c.refresh)]).compact) ∨
  c.request server c.loginQuestion = .ok request

/-- How a talk stands after a client was renewed, or was not. -/
def settled (c : Client) (log : List Http.Request) : Except Fault Client → Except Fault Unit × Talk
  | .ok c' => (.ok (), ⟨c', log⟩)
  | .error fault => (.error fault, ⟨c, log⟩)

variable {server : Http.Server} {log : List Http.Request} {c : Client} {q : Question}

theorem request_body {request : Http.Request} (h : c.request server q = .ok request) :
    request.body = bodyText q.body := by
  unfold Client.request at h
  simp only [bind, Except.bind] at h
  split at h
  · cases h
  · split at h
    · cases h
    · split at h
      · cases h
      · cases h
        rfl

theorem Trade.sent {result : Except Fault Client} {made : List Http.Request}
    (h : Trade server log c q result made) :
    ∀ request ∈ made, c.request server q = .ok request := by
  intro request mem
  cases h with
  | unsent => cases mem
  | refused sent | tokenless sent | granted sent => rwa [List.mem_singleton.mp mem]

/-- All that a renewal sends asks for tokens, in the name of the client that is renewed. -/
theorem Renewal.asks {result : Except Fault Client} {made : List Http.Request}
    (h : Renewal server log c result made) : ∀ request ∈ made, c.AsksForTokens server request := by
  have byToken {result : Except Fault Client} {made : List Http.Request}
      (refresh : Trade server log c c.refreshQuestion result made) :
      ∀ request ∈ made, c.AsksForTokens server request := by
    intro request mem
    have sent := refresh.sent request mem
    exact .inl ⟨sent, request_body sent⟩
  intro request mem
  cases h with
  | refreshed _ refresh | failed _ refresh => exact byToken refresh request mem
  | turnedDown _ refresh login =>
    rcases List.mem_append.mp mem with mem | mem
    · exact byToken refresh request mem
    · exact .inr (login.sent request mem)
  | loggedIn _ login => exact .inr (login.sent request mem)

theorem ask_unsent {fault : Fault} (h : c.request server q = .error fault) :
    (ask server q).exec ⟨c, log⟩ = (.error fault, ⟨c, log⟩) := by
  unfold ask
  rw [exec_bind_ok (exec_get _), h]
  exact exec_bind_error (exec_ofExcept_error id fault _)

theorem ask_sent {request : Http.Request} (h : c.request server q = .ok request) :
    (ask server q).exec ⟨c, log⟩ =
      (c.readReply q.path (server log request), ⟨c, log ++ [request]⟩) := by
  unfold ask
  rw [exec_bind_ok (exec_get _), h, exec_bind_ok (exec_ofExcept_ok id request _)]
  simp only []
  rw [exec_bind_ok (exec_set _ _)]
  cases c.readReply q.path (server log request) <;> rfl

/-- Asking for tokens is a trade. -/
theorem trade (server : Http.Server) (log : List Http.Request) (c : Client) (q : Question) :
    ∃ result made, Trade server log c q result made ∧
      exec (ask server q >>= keepTokens) ⟨c, log⟩ = c.settled (log ++ made) result := by
  cases request : c.request server q with
  | error fault =>
    refine ⟨_, _, .unsent request, ?_⟩
    rw [exec_bind_error (ask_unsent request), List.append_nil]
    rfl
  | ok sent =>
    cases reply : c.readReply q.path (server log sent) with
    | error fault =>
      refine ⟨_, _, .refused request reply, ?_⟩
      rw [exec_bind_error ((ask_sent request).trans (by rw [reply]))]
      rfl
    | ok tokens =>
      rw [exec_bind_ok ((ask_sent request).trans (by rw [reply]))]
      unfold keepTokens
      cases access : accessToken? tokens with
      | none => exact ⟨_, _, .tokenless request reply access, rfl⟩
      | some _ => exact ⟨_, _, .granted request reply access, rfl⟩

theorem useRefreshToken_exec (server : Http.Server) (log : List Http.Request) (c : Client) :
    (useRefreshToken server).exec ⟨c, log⟩ =
      exec (ask server c.refreshQuestion >>= keepTokens) ⟨c, log⟩ := by
  unfold useRefreshToken
  rw [exec_bind_ok (exec_get _)]

theorem useLogin_exec (server : Http.Server) (log : List Http.Request) (c : Client) :
    (useLogin server).exec ⟨c, log⟩ =
      exec (ask server c.loginQuestion >>= keepTokens) ⟨c, log⟩ := by
  unfold useLogin
  rw [exec_bind_ok (exec_get _)]

/-- What renewing a session does is a renewal. A client that is not renewed stays as it is. -/
theorem renewal (server : Http.Server) (log : List Http.Request) (c : Client) :
    ∃ result made, Renewal server log c result made ∧
      (renew server).exec ⟨c, log⟩ = c.settled (log ++ made) result := by
  unfold renew
  rw [exec_bind_ok (exec_get _)]
  by_cases held : c.refresh.isTruthy
  · rw [if_pos held, exec_tryCatch, useRefreshToken_exec]
    obtain ⟨result, made, refresh, ran⟩ := trade server log c c.refreshQuestion
    rw [ran]
    cases result with
    | ok c' => exact ⟨_, _, .refreshed held refresh, rfl⟩
    | error fault =>
      by_cases turned : ∃ text, fault = .failure .unauthorized text
      · obtain ⟨text, rfl⟩ := turned
        obtain ⟨result, more, login, ran⟩ := trade server (log ++ made) c c.loginQuestion
        refine ⟨_, _, .turnedDown held refresh login, ?_⟩
        -- the handler goes on from the log that the refused try has left
        rw [← List.append_assoc, ← ran, ← useLogin_exec]
        rfl
      · refine ⟨_, _, .failed held refresh fun text h => turned ⟨text, h⟩, ?_⟩
        simp only [settled]
        split
        · rename_i text
          exact absurd ⟨text, rfl⟩ turned
        · rfl
  · rw [if_neg held, useLogin_exec]
    obtain ⟨result, made, login, ran⟩ := trade server log c c.loginQuestion
    exact ⟨_, _, .loggedIn held login, ran⟩

end EdgeSession.ControlPlane.Client
