import EdgeSession.Proofs.Session.Registry
import Mathlib.Data.List.Basic

/-!
The registry against its history. Who is registered, in which order, and who goes with a sweep is
all read off what happened before: an id is there from its entering until it is taken out, and it
stands for the record that it was entered with last; a record was last active when it was last
touched.
-/
namespace EdgeSession.Registry

/-- What can be asked of a registry and of the records, each with the clock as it is then. -/
inductive Act
  | make (record : Record)
  | enter (number : Nat)
  | remove (session : String)
  | get (session : String)
  | touch (number : Nat) (now : Float)
  | sweep (timeout now : Float)

/-- What happened. -/
inductive Event
  | made (number : Nat) (record : Record)
  | entered (number : Nat) (session : String)
  | removed (session : String)
  | touched (number : Nat) (now : Float)
  | swept (gone : List String)

namespace Event

/-- The id is entered, whatever the record. -/
def Enters (session : String) (e : Event) : Prop := ∃ number, e = .entered number session

/-- The id is taken out. -/
def Takes (session : String) : Event → Prop
  | .removed other => other = session
  | .swept gone => session ∈ gone
  | _ => False

/-- The record is active, at that time. -/
def Dates (number : Nat) (time : Float) : Event → Prop
  | .made n record => n = number ∧ record.lastActivity = time
  | .touched n now => n = number ∧ now = time
  | _ => False

end Event

/-- A registry, and what happened to it so far, the latest first. -/
structure History where
  events : List Event := []
  registry : Registry := {}

namespace History

/-- Only a record that was made can be entered and touched. -/
def perform (h : History) : Act → History
  | .make record =>
    { events := .made h.registry.records.length record :: h.events
      registry := h.registry.make record }
  | .enter number =>
    match h.registry.record? number with
    | none => h
    | some record =>
      { events := .entered number record.session :: h.events
        registry := h.registry.enter number }
  | .remove session =>
    { events := .removed session :: h.events, registry := h.registry.remove session }
  | .get _ => h
  | .touch number now =>
    match h.registry.record? number with
    | none => h
    | some _ =>
      { events := .touched number now :: h.events, registry := h.registry.touch number now }
  | .sweep timeout now =>
    { events := .swept (h.registry.sweep timeout now).1 :: h.events
      registry := (h.registry.sweep timeout now).2 }

/-- What a registry has been through after some acts, from an empty one on. -/
def after (acts : List Act) : History := acts.foldl perform {}

end History

/-- There was an event of `p`, with what came before it, and none of `q` since. -/
def Since (p : Event → List Event → Prop) (q : Event → Prop) (events : List Event) : Prop :=
  ∃ later event earlier,
    events = later ++ event :: earlier ∧ p event earlier ∧ ∀ e ∈ later, ¬q e

/-- The id was entered, and neither removed nor swept since. -/
def Present (events : List Event) (session : String) : Prop :=
  Since (fun e _ => e.Enters session) (·.Takes session) events

/-- The id was entered with that record, and neither entered, removed nor swept since. -/
def Holds (events : List Event) (session : String) (number : Nat) : Prop :=
  Since (fun e _ => e = .entered number session) (fun e => e.Enters session ∨ e.Takes session)
    events

/-- The time of a record's latest touch, or the one it was made with. -/
def LastActive (events : List Event) (number : Nat) (time : Float) : Prop :=
  Since (fun e _ => e.Dates number time) (fun e => ∃ other, e.Dates number other) events

/-- The id came in after that many events. Where it was there already, it did not come in again. -/
def CameIn (events : List Event) (session : String) (place : Nat) : Prop :=
  Since (fun e earlier => e.Enters session ∧ ¬Present earlier session ∧ earlier.length = place)
    (·.Takes session) events

/-- Both ids are there, and the one came in before the other. -/
def Before (events : List Event) (first second : String) : Prop :=
  ∃ i j, CameIn events first i ∧ CameIn events second j ∧ i < j

section
variable {e : Event} {events : List Event} {session : String} {number place : Nat} {time : Float}
variable {p : Event → List Event → Prop} {q : Event → Prop}

theorem not_since_nil : ¬Since p q [] := by
  rintro ⟨later, event, earlier, split, -⟩
  simp at split

theorem since_cons : Since p q (e :: events) ↔ p e events ∨ ¬q e ∧ Since p q events := by
  constructor
  · rintro ⟨later, event, earlier, split, holds, none⟩
    cases later with
    | nil =>
      cases split
      exact .inl holds
    | cons latest later =>
      cases split
      exact .inr ⟨none e List.mem_cons_self,
        later, event, earlier, rfl, holds, fun e mem => none e (List.mem_cons_of_mem _ mem)⟩
  · rintro (holds | ⟨silent, later, event, earlier, rfl, holds, none⟩)
    · exact ⟨[], e, events, rfl, holds, by simp⟩
    · refine ⟨e :: later, event, earlier, rfl, holds, ?_⟩
      simpa using ⟨silent, none⟩

theorem holds_cons : Holds (e :: events) session number ↔
    e = .entered number session ∨
      ¬(e.Enters session ∨ e.Takes session) ∧ Holds events session number := since_cons

theorem present_cons : Present (e :: events) session ↔
    e.Enters session ∨ ¬e.Takes session ∧ Present events session := since_cons

theorem lastActive_cons : LastActive (e :: events) number time ↔
    e.Dates number time ∨
      (¬∃ other, e.Dates number other) ∧ LastActive events number time := since_cons

theorem cameIn_cons : CameIn (e :: events) session place ↔
    (e.Enters session ∧ ¬Present events session ∧ events.length = place) ∨
      ¬e.Takes session ∧ CameIn events session place := since_cons

/-- An id that is there stands for one record. -/
theorem present_iff : Present events session ↔ ∃ number, Holds events session number := by
  induction events with
  | nil => simp [Present, Holds, not_since_nil]
  | cons e events ih =>
    simp only [present_cons, holds_cons, ih]
    constructor
    · rintro (⟨number, enters⟩ | ⟨stays, number, holds⟩)
      · exact ⟨number, .inl enters⟩
      · by_cases enters : e.Enters session
        · exact enters.imp fun _ => .inl
        · exact ⟨number, .inr ⟨by simp [enters, stays], holds⟩⟩
    · rintro ⟨number, enters | ⟨silent, holds⟩⟩
      · exact .inl ⟨number, enters⟩
      · exact .inr ⟨fun takes => silent (.inr takes), number, holds⟩

theorem Holds.stays (h : Holds (e :: events) session number) : ¬e.Takes session := by
  rcases holds_cons.1 h with rfl | ⟨silent, -⟩
  · exact id
  · exact fun takes => silent (.inr takes)

theorem Holds.unique {other : Nat} (h : Holds events session number)
    (h' : Holds events session other) : number = other := by
  induction events with
  | nil => exact absurd h not_since_nil
  | cons e events ih =>
    rcases holds_cons.1 h with rfl | ⟨silent, h⟩
    · rcases holds_cons.1 h' with same | ⟨silent, -⟩
      · cases same
        rfl
      · exact absurd (.inl ⟨number, rfl⟩) silent
    · rcases holds_cons.1 h' with rfl | ⟨-, h'⟩
      · exact absurd (.inl ⟨other, rfl⟩) silent
      · exact ih h h'

theorem CameIn.present (h : CameIn events session place) : Present events session := by
  obtain ⟨later, event, earlier, split, ⟨enters, -⟩, stays⟩ := h
  exact ⟨later, event, earlier, split, enters, stays⟩

theorem CameIn.lt (h : CameIn events session place) : place < events.length := by
  obtain ⟨later, event, earlier, rfl, ⟨-, -, rfl⟩, -⟩ := h
  simp only [List.length_append, List.length_cons]
  omega

theorem CameIn.unique {other : Nat} (h : CameIn events session place)
    (h' : CameIn events session other) : place = other := by
  induction events with
  | nil => exact absurd h not_since_nil
  | cons e events ih =>
    rcases cameIn_cons.1 h with ⟨-, absent, rfl⟩ | ⟨-, h⟩
    · rcases cameIn_cons.1 h' with ⟨-, -, same⟩ | ⟨-, h'⟩
      · exact same
      · exact absurd h'.present absent
    · rcases cameIn_cons.1 h' with ⟨-, absent, -⟩ | ⟨-, h'⟩
      · exact absurd h.present absent
      · exact ih h h'

theorem Present.cameIn (h : Present events session) : ∃ place, CameIn events session place := by
  induction events with
  | nil => exact absurd h not_since_nil
  | cons e events ih =>
    by_cases before : Present events session
    · obtain ⟨place, came⟩ := ih before
      refine ⟨place, cameIn_cons.2 (.inr ⟨?_, came⟩)⟩
      rcases present_cons.1 h with ⟨number, rfl⟩ | ⟨stays, -⟩
      · exact id
      · exact stays
    · rcases present_cons.1 h with enters | ⟨-, present⟩
      · exact ⟨events.length, cameIn_cons.2 (.inl ⟨enters, before, rfl⟩)⟩
      · exact absurd present before

theorem Before.irrefl : ¬Before events session session := by
  rintro ⟨i, j, came, came', below⟩
  have := came.unique came'
  omega

/-- Ids that stay keep their order. -/
theorem Before.cons {first second : String} (h : Before events first second)
    (stays : ¬e.Takes first) (stays' : ¬e.Takes second) : Before (e :: events) first second := by
  obtain ⟨i, j, came, came', below⟩ := h
  exact ⟨i, j, cameIn_cons.2 (.inr ⟨stays, came⟩), cameIn_cons.2 (.inr ⟨stays', came'⟩), below⟩

/-- An id that comes in does so behind the others. -/
theorem Before.entered {other : String} (h : Present events other)
    (absent : ¬Present events session) :
    Before (.entered number session :: events) other session := by
  obtain ⟨i, came⟩ := h.cameIn
  exact ⟨i, events.length, cameIn_cons.2 (.inr ⟨id, came⟩),
    cameIn_cons.2 (.inl ⟨⟨number, rfl⟩, absent, rfl⟩), came.lt⟩

end

/-- What a registry knows is what happened. -/
structure Tracked (events : List Event) (r : Registry) : Prop where
  sound : r.Sound
  holds : ∀ session n, Holds events session n ↔ r.StandsFor session n
  active : ∀ n time, LastActive events n time ↔ (r.record? n).map (·.lastActivity) = some time
  order : r.ids.Pairwise (Before events)

section
variable {events : List Event} {e : Event} {r r' : Registry} {record : Record} {session : String}
variable {number n : Nat} {timeout now time : Float}

namespace Tracked

theorem mem_ids (h : Tracked events r) : session ∈ r.ids ↔ Present events session := by
  simp only [Registry.mem_ids, present_iff, h.holds]

/-- Where no id comes in, the order need not be looked at: those that are left keep theirs, for by
`holds` none of them is taken out. -/
theorem cons (h : Tracked events r) (sound : r'.Sound)
    (holds : ∀ session n, Holds (e :: events) session n ↔ r'.StandsFor session n)
    (active : ∀ n time,
      LastActive (e :: events) n time ↔ (r'.record? n).map (·.lastActivity) = some time)
    (left : r'.ids.Sublist r.ids) : Tracked (e :: events) r' where
  sound
  holds
  active
  order := by
    have stays : ∀ session ∈ r'.ids, ¬e.Takes session := by
      intro session mem
      obtain ⟨n, held⟩ := Registry.mem_ids.1 mem
      exact ((holds session n).2 held).stays
    exact (h.order.sublist left).imp_of_mem fun first second before =>
      before.cons (stays _ first) (stays _ second)

theorem make (h : Tracked events r) (record : Record) :
    Tracked (.made r.records.length record :: events) (r.make record) := by
  refine h.cons (h.sound.make record) (fun session n => ?_) (fun n time => ?_) ?_
  · rw [holds_cons, h.holds, h.sound.standsFor_make]
    simp [Event.Enters, Event.Takes]
  · rw [lastActive_cons, h.active]
    simp only [Event.Dates]
    by_cases new : n = r.records.length
    · subst new
      simp [record?_make_new]
    · rw [record?_make new]
      simp [Ne.symm new]
  · have same : (r.make record).ids = r.ids :=
      List.filterMap_congr fun n live => h.sound.session?_make live record
    rw [same]

theorem enter (h : Tracked events r) (made : r.record? number = some record) :
    Tracked (.entered number record.session :: events) (r.enter number) := by
  have holds : ∀ session n, Holds (.entered number record.session :: events) session n ↔
      (r.enter number).StandsFor session n := by
    intro session n
    rw [holds_cons, h.holds, standsFor_enter made]
    by_cases same : record.session = session <;>
      simp [Event.Enters, Event.Takes, same, eq_comm]
  have active : ∀ n time, LastActive (.entered number record.session :: events) n time ↔
      ((r.enter number).record? n).map (·.lastActivity) = some time := by
    intro n time
    rw [lastActive_cons, h.active, record?_enter]
    simp [Event.Dates]
  -- An id that is there keeps its place; one that is not comes in behind all others.
  have ids := ids_enter made
  split at ids
  next there => exact h.cons (h.sound.enter number) holds active (ids ▸ List.Sublist.refl _)
  next absent =>
    refine ⟨h.sound.enter number, holds, active, ?_⟩
    rw [ids]
    refine List.pairwise_append.2 ⟨h.order.imp fun before => before.cons id id,
      List.pairwise_singleton .., fun other there session last => ?_⟩
    rw [List.mem_singleton.1 last]
    exact .entered (h.mem_ids.1 there) (mt h.mem_ids.2 absent)

theorem remove (h : Tracked events r) (session : String) :
    Tracked (.removed session :: events) (r.remove session) := by
  refine h.cons (h.sound.remove session) (fun other n => ?_) (fun n time => ?_)
    (ids_sublist rfl List.filter_sublist)
  · rw [holds_cons, h.holds, standsFor_remove]
    simp [Event.Enters, Event.Takes]
  · rw [lastActive_cons, h.active]
    simp [Event.Dates, Registry.remove, record?]

theorem touch (h : Tracked events r) (made : r.record? number = some record) (now : Float) :
    Tracked (.touched number now :: events) (r.touch number now) := by
  refine h.cons (h.sound.touch number now) (fun session n => ?_) (fun n time => ?_) ?_
  · rw [holds_cons, h.holds, standsFor_touch]
    simp [Event.Enters, Event.Takes]
  · rw [lastActive_cons, h.active, record?_touch]
    simp only [Event.Dates]
    by_cases same : number = n
    · subst same
      simp [made]
    · simp [same]
  · have ids : (r.touch number now).ids = r.ids :=
      List.filterMap_congr fun n _ => session?_touch r number now
    rw [ids]

/-- A session is swept just when the record that it stands for is idle. -/
theorem swept_iff_isIdle (h : Tracked events r) (stands : r.StandsFor session n) :
    session ∈ (r.sweep timeout now).1 ↔ r.isIdle timeout now n = true := by
  rw [mem_sweep]
  constructor
  · rintro ⟨m, idle, stands'⟩
    have same : m = n := ((h.holds _ _).2 stands').unique ((h.holds _ _).2 stands)
    rwa [← same]
  · exact fun idle => ⟨n, idle, stands⟩

theorem sweep (h : Tracked events r) (timeout now : Float) :
    Tracked (.swept (r.sweep timeout now).1 :: events) (r.sweep timeout now).2 := by
  refine h.cons (h.sound.sweep timeout now) (fun session n => ?_) (fun n time => ?_)
    (ids_sublist rfl List.filter_sublist)
  · rw [holds_cons, h.holds, standsFor_sweep]
    simp only [Event.Enters, Event.Takes, reduceCtorEq, exists_false, false_or]
    exact and_congr_left fun stands => by rw [h.swept_iff_isIdle stands, Bool.not_eq_true]
  · rw [lastActive_cons, h.active]
    simp [Event.Dates, Registry.sweep, record?]

theorem perform {h : History} (tracked : Tracked h.events h.registry) (act : Act) :
    Tracked (h.perform act).events (h.perform act).registry := by
  cases act with
  | make record => exact tracked.make record
  | enter number =>
    simp only [History.perform]
    cases made : h.registry.record? number with
    | none => exact tracked
    | some record => exact tracked.enter made
  | remove session => exact tracked.remove session
  | get session => exact tracked
  | touch number now =>
    simp only [History.perform]
    cases made : h.registry.record? number with
    | none => exact tracked
    | some record => exact tracked.touch made now
  | sweep timeout now => exact tracked.sweep timeout now

theorem start : Tracked [] {} where
  sound := by simp [Sound]
  holds := by simp [Holds, not_since_nil, StandsFor]
  active := by simp [LastActive, not_since_nil, record?]
  order := List.Pairwise.nil

theorem after (acts : List Act) :
    Tracked (History.after acts).events (History.after acts).registry := by
  refine List.foldlRecOn (motive := fun h : History => Tracked h.events h.registry) acts _ ?_ ?_
  · exact start
  · exact fun h tracked act _ => perform tracked act

end Tracked

/-- What a registry holds is what came in and was not taken out, in the order in which it came in;
each id stands for the record that it was entered with last. -/
structure Keeps (events : List Event) (r : Registry) : Prop where
  ids : ∀ session, session ∈ r.ids ↔ Present events session
  once : r.ids.Nodup
  order : r.ids.Pairwise (Before events)
  count : r.activeCount = r.ids.length
  number : ∀ session n, r.number? session = some n ↔ Holds events session n
  activity : ∀ n time, LastActive events n time ↔
    ∃ record, r.record? n = some record ∧ record.lastActivity = time

/-- What a sweep answers and leaves: gone are those whose record was not active for longer than the
timeout, in the order in which they came in; the others stay as they are, and none of them goes when
it is done again. -/
structure Sweeps (events : List Event) (r : Registry) (timeout now : Float) (gone : List String)
    (left : Registry) : Prop where
  idle : ∀ session, session ∈ gone ↔
    ∃ n last, Holds events session n ∧ LastActive events n last ∧ timeout < now - last
  once : gone.Nodup
  order : gone.Pairwise (Before events)
  ids : left.ids = r.ids.filter (· ∉ gone)
  others : ∀ session n,
    left.number? session = some n ↔ session ∉ gone ∧ r.number? session = some n
  records : left.records = r.records
  again : left.sweep timeout now = ([], left)

namespace Tracked

theorem once (h : Tracked events r) {ids : List String} (part : ids.Sublist r.ids) :
    ids.Nodup := by
  refine (h.order.sublist part).imp fun {first second} before => ?_
  rintro rfl
  exact Before.irrefl before

theorem number?_iff (h : Tracked events r) :
    r.number? session = some n ↔ Holds events session n := by
  have found {m : Nat} (found : r.number? session = some m) : Holds events session m :=
    (h.holds session m).2 ⟨List.mem_of_find?_eq_some found, names_iff.1 (List.find?_some found)⟩
  refine ⟨found, fun holds => ?_⟩
  obtain ⟨live, named⟩ := (h.holds session n).1 holds
  cases other : r.number? session with
  | none => exact absurd (names_iff.2 named) (List.find?_eq_none.1 other n live)
  | some m => rw [(found other).unique holds]

theorem count (h : Tracked events r) : r.activeCount = r.ids.length := by
  have named : r.live.countP (fun n => (r.session? n).isSome) = r.live.length :=
    List.countP_eq_length.2 fun n live => by
      obtain ⟨session, named⟩ := h.sound.session? live
      rw [named]
      rfl
  rw [activeCount, ids, List.length_filterMap_eq_countP, named]

theorem keeps (h : Tracked events r) : Keeps events r where
  ids _ := h.mem_ids
  once := h.once (List.Sublist.refl _)
  order := h.order
  count := h.count
  number _ _ := h.number?_iff
  activity n time := by rw [h.active, Option.map_eq_some_iff]

theorem swept_iff (h : Tracked events r) : session ∈ (r.sweep timeout now).1 ↔
    ∃ n last, Holds events session n ∧ LastActive events n last ∧ timeout < now - last := by
  simp only [mem_sweep, h.holds, h.active, isIdle, Record.isExpired, Option.any_eq_true,
    decide_eq_true_eq, Option.map_eq_some_iff]
  constructor
  · rintro ⟨n, ⟨record, made, idle⟩, stands⟩
    exact ⟨n, record.lastActivity, stands, ⟨record, made, rfl⟩, idle⟩
  · rintro ⟨n, last, stands, ⟨record, made, rfl⟩, idle⟩
    exact ⟨n, ⟨record, made, idle⟩, stands⟩

theorem ids_sweep (h : Tracked events r) (timeout now : Float) :
    (r.sweep timeout now).2.ids = r.ids.filter (· ∉ (r.sweep timeout now).1) := by
  have listed : (r.sweep timeout now).2.ids =
      (r.live.filter fun n => !r.isIdle timeout now n).filterMap r.session? := rfl
  rw [listed, ids, List.filterMap_filter, List.filter_filterMap]
  refine List.filterMap_congr fun n live => ?_
  obtain ⟨session, named⟩ := h.sound.session? live
  have gone : session ∈ (r.sweep timeout now).1 ↔ r.isIdle timeout now n = true :=
    h.swept_iff_isIdle ⟨live, named⟩
  cases idle : r.isIdle timeout now n <;> simp [named, Option.filter, gone, idle]

theorem sweeps (h : Tracked events r) (timeout now : Float) :
    Sweeps events r timeout now (r.sweep timeout now).1 (r.sweep timeout now).2 where
  idle _ := h.swept_iff
  once := h.once (List.filter_sublist.filterMap _)
  order := h.order.sublist (List.filter_sublist.filterMap _)
  ids := h.ids_sweep timeout now
  others session n := by
    rw [(h.sweep timeout now).number?_iff, h.number?_iff, holds_cons]
    simp [Event.Enters, Event.Takes]
  records := rfl
  again := sweep_again r timeout now

end Tracked
end

/-- **Sweeping the idle.** Whatever was done before, in any order and at any readings of the clock,
a registry holds who came in and was not taken out since: as many as it counts, in the order in
which they came in, where entering an id again keeps its place and changes its record only. A sweep
answers with those of them whose record was last active longer ago than the timeout, each once and
in that order. A touch of a record that was replaced does not count. The others are left as they
were, and sweeping again at that time drops none. -/
theorem idle_swept (acts : List Act) :
    let h := History.after acts
    Keeps h.events h.registry ∧
      ∀ timeout now, Sweeps h.events h.registry timeout now
        (h.registry.sweep timeout now).1 (h.registry.sweep timeout now).2 :=
  ⟨(Tracked.after acts).keeps, (Tracked.after acts).sweeps⟩

end EdgeSession.Registry
