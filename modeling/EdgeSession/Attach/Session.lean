import EdgeSession.Attach.Target
import EdgeSession.Session.Registry
import EdgeSession.Session.Transport

/-!
One session from the dial to the end: it is registered while it lives, a controller leads it, and
whatever happens the transport is closed. The failure that ended it is put into words. A controller
may also wait for ever; then nothing more happens to the session.
-/
namespace EdgeSession.Attach

/-- Leads a session over a transport until it ends. What it has to show for it comes along. -/
abbrev Controller (σ : Type) := Transport → Except Trouble Unit × Transport × σ

/-- Leads a session over a transport, to its end or for ever. In the second case there is no result,
and the transport is as it stays. -/
abbrev Leader (σ : Type) := Transport → Option (Except Trouble Unit) × Transport × σ

/-- A controller that always comes back. -/
def Controller.leader (controller : Controller σ) : Leader σ := fun transport =>
  (some (controller transport).1, (controller transport).2)

instance : Coe (Controller σ) (Leader σ) := ⟨Controller.leader⟩

/-- What the world does to one session: how the dial ends, and what the network does while the
session is opened and closed. -/
structure World where
  dialFault : Option NetworkFault := none
  outside : Outside
  clock : Float := 0.0

/-- What came of a session. `led` holds what the controller has to show and how many sessions were
active when it began; there is none if the dial failed. -/
structure Ended (σ : Type) where
  result : Except Fault Unit
  transport : Transport
  registry : Registry
  led : Option (Nat × σ) := none

def bearer (token : Json) : List (String × String) :=
  [("Authorization", "Bearer " ++ token.asText)]

/-- Dials and, if there is a connection, lets the controller lead. -/
def lead (world : World) (controller : Controller σ) (target : Target) (active : Nat)
    (transport : Transport) : Except Trouble Unit × Transport × Option (Nat × σ) :=
  match transport.connect world.outside world.dialFault target.url (bearer target.token) with
  | (.error trouble, transport) => (.error trouble, transport, none)
  | (.ok _, transport) =>
    let (result, transport, shown) := controller transport
    (result, transport, some (active, shown))

/-- What a session that is over comes to: its failure, else the one that the transport keeps. -/
def verdict (result : Except Trouble Unit) (transport : Transport) : Except Fault Unit :=
  match result, transport.sticky with
  | .error trouble, _ => .error (.ofTrouble trouble)
  | .ok _, some failure => .error (.ofFailure failure)
  | .ok _, none => .ok ()

/-- What comes of a session that is over, or of one that never began. A transport that cannot be
closed leaves the record where it is. -/
def conclude (world : World) (session : String) (registry : Registry) (result : Except Trouble Unit)
    (transport : Transport) (led : Option (Nat × σ)) : Ended σ :=
  match transport.close world.outside with
  | (.error trouble, transport) =>
    { result := .error (.trouble trouble), transport, registry, led }
  | (.ok _, transport) =>
    { result := verdict result transport, transport, registry := registry.remove session, led }

/-- Leads one session under the given session id. -/
def attach (world : World) (controller : Controller σ) (session : String) (registry : Registry)
    (target : Target) : Ended σ :=
  let registry := registry.add ⟨session, target.id.asText, world.clock⟩
  let (result, transport, led) :=
    lead world controller target registry.activeCount (.forTarget target.id)
  conclude world session registry result transport led

/-- A session that never ends: its connection is not given up, and its record stays. -/
structure Endless (σ : Type) where
  transport : Transport
  registry : Registry
  active : Nat
  shown : σ

/-- What a session comes to. -/
inductive Outcome (σ : Type)
  | ended (e : Ended σ)
  | endless (e : Endless σ)

namespace Outcome

def transport : Outcome σ → Transport
  | ended e => e.transport
  | endless e => e.transport

def registry : Outcome σ → Registry
  | ended e => e.registry
  | endless e => e.registry

def ended? : Outcome σ → Option (Ended σ)
  | ended e => some e
  | endless _ => none

def endless? : Outcome σ → Option (Endless σ)
  | ended _ => none
  | endless e => some e

end Outcome

/-- Leads one session, which may never end. -/
def undertake (world : World) (leader : Leader σ) (session : String) (registry : Registry)
    (target : Target) : Outcome σ :=
  let registry := registry.add ⟨session, target.id.asText, world.clock⟩
  match (Transport.forTarget target.id).connect world.outside world.dialFault target.url
      (bearer target.token) with
  | (.error trouble, transport) =>
    .ended (conclude world session registry (.error trouble) transport none)
  | (.ok _, transport) =>
    match leader transport with
    | (some result, transport, shown) =>
      .ended (conclude world session registry result transport
        (some (registry.activeCount, shown)))
    | (none, transport, shown) =>
      .endless { transport, registry, active := registry.activeCount, shown }

end EdgeSession.Attach
