import EdgeSession.Proofs.Config.Shape
import EdgeSession.Proofs.ControlPlane.Login
import EdgeSession.Proofs.Except
import EdgeSession.Proofs.Wp

/-!
Where the faults come from that the control plane's client has no words for: from what is stored for
a namespace, or from what the control plane replied to the requests that were made.
-/
namespace EdgeSession.ControlPlane

open Config
open Client (accessToken? readAnswer)

variable (server : Http.Server)

/-- Whether the control plane replied so to one of the requests that were made. -/
def Replied (log : List Http.Request) (reply : Http.Reply) : Prop :=
  ∃ before request, before ++ [request] <+: log ∧ server before request = reply

/-- Whether one of the replies holds a value. -/
def Answered (log : List Http.Request) (v : Json) : Prop :=
  ∃ path status body, Replied server log (.answer status body) ∧ readAnswer path status body = .ok v

/-- Whether an entry stands in a list that the control plane answered. -/
def Listed (log : List Http.Request) (entry : Json) : Prop :=
  ∃ answer list entries, Answered server log answer ∧ list ∈ ["fogs", "microservices"] ∧
    answer.get? list = some (.arr entries) ∧ entry ∈ entries

/-- Where a client's questions go, below the base address. -/
def places : List String :=
  ["/user/login", "/user/refresh", "/iofog-list", "/microservices", "/microservices/system"]

/-- Where a fault comes from that is no failure in words. -/
inductive Cause (n : Namespace) (log : List Http.Request) : Fault → Prop
  | endpoint {text : String} {fault : BaseUrl.Fault} (stored : n.endpoint = .str text)
      (unfit : BaseUrl.normalize text.toList n.useHttps.isTruthy = .error fault) :
      Cause n log (.endpoint fault)
  | password {text : String} (stored : n.user.password = .str text)
      (unfit : rawPassword? text = none) : Cause n log (.password .notAscii)
  /-- The endpoint makes an address that requests cannot be sent to. -/
  | address {url place : String} {query : Option (List Char)} {fault : Http.UrlFault}
      (base : Caches.baseUrl n = .ok url) (asked : place ∈ places)
      (unfit : server.spell (Text.dropSlashes url.toList ++ place.toList) query = .error fault) :
      Cause n log (.address fault)
  | broken {text : String} (reply : Replied server log (.broken text)) : Cause n log (.broken text)
  | token {answer access : Json} (answered : Answered server log answer)
      (given : accessToken? answer = some access) (unfit : Client.isAscii access.asText = false) :
      Cause n log .notAscii
  | refresh {answer token : Json} (answered : Answered server log answer)
      (given : answer.get? "refreshToken" = some token) (unfit : token.isStandard = false) :
      Cause n log .notStandard
  | unlisted {answer : Json} {fault : ShapeFault} (answered : Answered server log answer)
      (unfit : Client.itemsOf (answer.get? "microservices") = .error fault) :
      Cause n log (.shape fault)
  | entry {v : Json} (listed : Listed server log v) (unfit : ∀ members, v ≠ .obj members) :
      Cause n log (.shape .notObject)
  | name {members : List (String × Json)} {name : Json} (listed : Listed server log (.obj members))
      (held : Json.lookup "name" members = some name) (unfit : Reconcile.isPlain name = false) :
      Cause n log (.shape .notPlain)

/-- A failure in words, or a fault with its cause. -/
def Accounted (n : Namespace) (log : List Http.Request) (fault : Fault) : Prop :=
  (∃ kind text, fault = .failure kind text) ∨ Cause server n log fault

/-- Whether a refresh token is a text, as those that are stored, or came with an answer. -/
def Refreshing (log : List Http.Request) (token : Json) : Prop :=
  (∃ text, token = .str text) ∨
    ∃ answer, Answered server log answer ∧ answer.get? "refreshToken" = some token

/-- What a client of a namespace holds: what is stored, and tokens that it was given. -/
structure Kept (n : Namespace) (log : List Http.Request) (c : Client) : Prop where
  base : ∃ url, Caches.baseUrl n = .ok url ∧ c.baseUrl = String.ofList (Text.dropSlashes url.toList)
  email : ∃ text, c.email = .str text
  password : ∃ text, c.password = .str text
  access : c.access = .str "" ∨
    ∃ answer, Answered server log answer ∧ accessToken? answer = some c.access
  refresh : Refreshing server log c.refresh

variable {server} {n : Namespace} {log more : List Http.Request} {c : Client} {fault : Fault}

theorem Replied.mono {reply : Http.Reply} (h : Replied server log reply) (grown : log <+: more) :
    Replied server more reply := by
  obtain ⟨before, request, made, replied⟩ := h
  exact ⟨before, request, made.trans grown, replied⟩

theorem Answered.mono {v : Json} (h : Answered server log v) (grown : log <+: more) :
    Answered server more v := by
  obtain ⟨path, status, body, reply, read⟩ := h
  exact ⟨path, status, body, reply.mono grown, read⟩

theorem Listed.mono {v : Json} (h : Listed server log v) (grown : log <+: more) :
    Listed server more v := by
  obtain ⟨answer, list, entries, answered, held⟩ := h
  exact ⟨answer, list, entries, answered.mono grown, held⟩

theorem Refreshing.mono {token : Json} (h : Refreshing server log token) (grown : log <+: more) :
    Refreshing server more token :=
  h.imp_right fun ⟨answer, answered, held⟩ => ⟨answer, answered.mono grown, held⟩

theorem Kept.mono (h : Kept server n log c) (grown : log <+: more) : Kept server n more c where
  base := h.base
  email := h.email
  password := h.password
  access := h.access.imp_right fun ⟨answer, answered, held⟩ => ⟨answer, answered.mono grown, held⟩
  refresh := h.refresh.mono grown

theorem Cause.mono (h : Cause server n log fault) (grown : log <+: more) :
    Cause server n more fault := by
  cases h with
  | endpoint stored unfit => exact .endpoint stored unfit
  | password stored unfit => exact .password stored unfit
  | address base asked unfit => exact .address base asked unfit
  | broken reply => exact .broken (reply.mono grown)
  | token answered given unfit => exact .token (answered.mono grown) given unfit
  | refresh answered given unfit => exact .refresh (answered.mono grown) given unfit
  | unlisted answered unfit => exact .unlisted (answered.mono grown) unfit
  | entry listed unfit => exact .entry (listed.mono grown) unfit
  | name listed held unfit => exact .name (listed.mono grown) held unfit

theorem Accounted.mono (h : Accounted server n log fault) (grown : log <+: more) :
    Accounted server n more fault :=
  h.imp_right fun cause => cause.mono grown

theorem Kept.later (h : Kept server n log c) (made : List Http.Request) :
    Kept server n (log ++ made) c :=
  h.mono (List.prefix_append log made)

theorem Kept.withTokens (kept : Kept server n log c) {tokens access : Json}
    (answered : Answered server log tokens) (given : accessToken? tokens = some access) :
    Kept server n log (c.withTokens tokens access) where
  base := kept.base
  email := kept.email
  password := kept.password
  access := .inr ⟨tokens, answered, given⟩
  refresh := by
    unfold Client.withTokens
    cases fresh : tokens.get? "refreshToken" with
    | none => exact kept.refresh
    | some token => exact .inr ⟨tokens, answered, fresh⟩

/-- The last request is one of those that were made. -/
theorem replied_last (log : List Http.Request) (request : Http.Request) :
    Replied server (log ++ [request]) (server log request) :=
  ⟨log, request, List.prefix_rfl, rfl⟩

/-! ## Requests -/

namespace Client

theorem isAscii_bearer (s : String) : isAscii ("Bearer " ++ s) = isAscii s := by
  simp only [isAscii, String.toList_append, List.all_append]
  rw [show ("Bearer ".toList.all fun c => decide (c.toNat < 0x80)) = true from by decide,
    Bool.true_and]

theorem bearer?_unfit {q : Question} (kept : Kept server n log c)
    (unfit : (c.bearer? q).all isAscii = false) : Cause server n log .notAscii := by
  unfold bearer? at unfit
  split at unfit
  · rename_i goes
    rcases kept.access with none | ⟨answer, answered, given⟩
    · simp [none, Json.isTruthy] at goes
    · exact .token answered given (by simpa only [Option.all_some, isAscii_bearer] using unfit)
  · cases unfit

/-- A question of the client's own, with nothing in it that JSON has no spelling for unless it was
given. -/
structure Proper (server : Http.Server) (n : Namespace) (log : List Http.Request) (q : Question) :
    Prop where
  asked : q.path ∈ places
  spelt : q.body.all Json.isStandard = false → Cause server n log .notStandard

/-- A question that no request is made of. -/
theorem request_cause {q : Question} (kept : Kept server n log c) (proper : Proper server n log q)
    (unsent : c.request server q = .error fault) : Cause server n log fault := by
  obtain ⟨url, base, same⟩ := kept.base
  unfold Client.request at unsent
  rcases bind_eq_error.mp unsent with unsent | ⟨target, -, unsent⟩
  · cases made : server.spell (c.baseUrl ++ q.path).toList
        (q.query.map fun pair => Form.encodePairs [pair]) with
    | ok target => rw [made] at unsent; cases unsent
    | error unfit =>
      rw [made] at unsent
      cases unsent
      rw [same, String.toList_append, String.toList_ofList] at made
      exact .address base proper.asked made
  · simp only [Bool.not_eq_true', pure, Except.pure] at unsent
    split at unsent
    · rename_i unfit
      cases unsent
      exact bearer?_unfit kept unfit
    · split at unsent
      · rename_i unfit
        cases unsent
        exact proper.spelt unfit
      · cases unsent

theorem readReply_cause {path : String} {reply : Http.Reply} (replied : Replied server log reply)
    (read : c.readReply path reply = .error fault) : Accounted server n log fault := by
  cases reply with
  | answer status body =>
    left
    unfold readReply readAnswer at read
    simp only [] at read
    repeat' split at read
    all_goals cases read
    all_goals exact ⟨_, _, rfl⟩
  | unreachable text =>
    cases read
    exact .inl ⟨_, _, rfl⟩
  | broken text =>
    cases read
    exact .inr (.broken replied)

theorem readReply_answered {path : String} {reply : Http.Reply} {v : Json}
    (replied : Replied server log reply) (read : c.readReply path reply = .ok v) :
    Answered server log v := by
  cases reply with
  | answer status body => exact ⟨path, status, body, replied, read⟩
  | unreachable text => cases read
  | broken text => cases read

/-! ## Renewal -/

theorem refreshQuestion_proper (kept : Kept server n log c) :
    Proper server n log c.refreshQuestion := by
  refine ⟨by simp [refreshQuestion, places], fun unfit => ?_⟩
  rcases kept.refresh with ⟨text, same⟩ | ⟨answer, answered, given⟩
  · simp [refreshQuestion, same, Json.isStandard, Json.membersStandard] at unfit
  · refine .refresh answered given ?_
    simpa [refreshQuestion, Json.isStandard, Json.membersStandard] using unfit

theorem loginQuestion_proper (kept : Kept server n log c) :
    Proper server n log c.loginQuestion := by
  refine ⟨by simp [loginQuestion, places], fun unfit => ?_⟩
  obtain ⟨email, isEmail⟩ := kept.email
  obtain ⟨password, isPassword⟩ := kept.password
  simp [loginQuestion, isEmail, isPassword, Json.isStandard, Json.membersStandard] at unfit

variable {q : Question} {made : List Http.Request} {c' : Client}

theorem Trade.kept (h : Trade server log c q (.ok c') made) (kept : Kept server n log c) :
    Kept server n (log ++ made) c' := by
  cases h with
  | granted sent answer present =>
    exact (kept.later _).withTokens (readReply_answered (replied_last log _) answer) present

theorem Trade.accounted (h : Trade server log c q (.error fault) made)
    (kept : Kept server n log c) (proper : Proper server n log q) :
    Accounted server n (log ++ made) fault := by
  cases h with
  | unsent unspelt =>
    rw [List.append_nil]
    exact .inr (request_cause kept proper unspelt)
  | refused sent refusal => exact readReply_cause (replied_last log _) refusal
  | tokenless => exact .inl ⟨_, _, rfl⟩

theorem Renewal.kept (h : Renewal server log c (.ok c') made) (kept : Kept server n log c) :
    Kept server n (log ++ made) c' := by
  cases h with
  | refreshed _ refresh => exact refresh.kept kept
  | turnedDown _ refresh login =>
    rw [← List.append_assoc]
    exact login.kept (kept.later _)
  | loggedIn _ login => exact login.kept kept

theorem Renewal.accounted (h : Renewal server log c (.error fault) made)
    (kept : Kept server n log c) : Accounted server n (log ++ made) fault := by
  cases h with
  | failed _ refresh => exact refresh.accounted kept (refreshQuestion_proper kept)
  | turnedDown _ refresh login =>
    rw [← List.append_assoc]
    exact login.accounted (kept.later _) (loginQuestion_proper (kept.later _))
  | loggedIn _ login => exact login.accounted kept (loginQuestion_proper kept)

end Client
end EdgeSession.ControlPlane
