import EdgeSession.Proofs.LogTail.Turns
import EdgeSession.Proofs.Terminal.Keys

/-!
What becomes of the thread that reads a session, for both kinds of session. Whatever it knows of
ends the session, and the call of `start` comes back with the failure. What it does not know ends
the thread alone, and the call waits for ever.
-/
namespace EdgeSession

/-- **The thread that reads.** A controller that is started attends to its reading loop: a turn that
ends the session brings the call of `start` back with its failure, a turn that the loop does not
survive ends nothing and leaves the call waiting, and no other turn ends the loop. -/
theorem reading_loops_attended (transport : Transport) (outside : Outside)
    (hindrance : Terminal.Hindrance) :
    (∃ t, Terminal.Shell.start outside hindrance { transport } = .ok t ∧
        Terminal.controller.Attends t) ∧
      ∃ s, LogTail.Stream.start outside { transport } = .ok s ∧ LogTail.controller.Attends s := by
  obtain ⟨t, opened, begins⟩ :=
    Terminal.Shell.start_cases (fun _ => True) trivial outside hindrance
  obtain ⟨s, started, starts⟩ := LogTail.Stream.start_cases transport outside
  exact ⟨⟨t, opened, Terminal.laws.attends begins⟩, s, started, LogTail.laws.attends starts⟩

/-- Three ways to lose the loop: the connection answers with an error of the operating system's, the
screen with one that is none of its, and the socket does not take the parting frame after a failure.
Each time nobody reads any more, nothing is called off, and the call waits on. -/
theorem reading_loop_lost :
    let transport := (Transport.connect { now := 0 } none "ws://c/x" [] (.initial "m" "")).2
    let typed (code : UInt8) : Incoming := .frame [0x81, 0xA4, 0x74, 0x79, 0x70, 0x65, code]
    let failed : Incoming := .closed (some ⟨1011, ""⟩) none
    let shells : List (Terminal.Moment × Terminal.Shell.Event) :=
      [({ outside := { now := 1 } }, .readError (.system .general "no route")),
        ({ outside := { now := 1 }, screen := some (.foreign "closed file") }, .incoming (typed 1)),
        ({ outside := { now := 1, send := some (.protocol "late") } }, .incoming failed)]
    let streams : List (LogTail.Moment × LogTail.Stream.Event) :=
      [({ outside := { now := 1 } }, .readError (.system .general "no route")),
        ({ outside := { now := 1 }, screen := some (.foreign "closed file") }, .incoming (typed 6)),
        ({ outside := { now := 1, send := some (.protocol "late") } }, .incoming failed)]
    (∀ turn ∈ shells, (Terminal.Shell.start { now := 0 } {} { transport }).map
        (fun t => Terminal.controller.standing (t.step turn.1 turn.2)) = .ok .lost) ∧
      ∀ turn ∈ streams, (LogTail.Stream.start { now := 0 } { transport }).map
        (fun s => LogTail.controller.standing (s.step turn.1 turn.2)) = .ok .lost := by
  decide +kernel

end EdgeSession
