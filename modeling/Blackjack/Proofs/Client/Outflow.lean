import Blackjack.Proofs.Client.Operations
import Blackjack.Proofs.Transport.Outflow

/-!
# What a client writes

Whatever callers, the peer and the socket do, what a client has written on its connection and what
still waits to be written are the frames that it queued there, in order: the messages and accepted
requests of callers in the order of the calls, and among them the answers to heartbeats and the
repeated requests (`outbound_lossless`).
-/

namespace Blackjack

namespace Session

/-- An accepted request is sent, and a refused one is reported and sends nothing. -/
theorem Transition.reaction_of_request {session next : Session} {request : Request} {now : Instant}
    {reaction : Reaction SessionEvent}
    (transition : Transition session (.request request now) next reaction) :
    reaction = .send request.frame ∨ ∃ refusal : SubmitError,
      reaction = .emit (.rejected request.command refusal.message) := by
  cases transition with
  | rejected => exact .inr ⟨_, rfl⟩
  | fired hands | accepted hands =>
    obtain ⟨⟨⟩⟩ | ⟨⟨⟩⟩ := hands
    exact .inl rfl

end Session

namespace Client

/-- Whatever callers, the peer and the socket do, at every moment of a connection the bytes that the
socket accepted and those of the queue are together the frames that the connection has queued so
far, in order and each ending with its delimiter, also after any part of a flush. The queue starts
with nothing, so nothing comes from an earlier connection. The work that callers handed over since
the connection was begun is taken up in the order of the calls, and what is left of it still waits;
an accepted request queues its frame when it is taken up, and a refused one nothing. No frame of the
queue is ever empty, so a flush fails only where the socket fails, or accepts nothing of a frame
that holds something. -/
theorem outbound_lossless (config : TransportConfig) (initial : Session)
    (history : List (Engine.Move Request)) :
    let client : Client := (Engine.new config initial).run Session.protocol history
    let trace := ((Engine.new config initial).trace Session.protocol history).current
    ∃ queue waiting,
      (∀ worker ∈ client.worker, worker.link.outbound = queue ∧ worker.ingress = waiting) ∧
      (Engine.new config initial).handed Session.protocol [] history = trace.taken ++ waiting ∧
      (∀ request now reaction, .request request now reaction ∈ trace →
        reaction = .send request.frame ∨ ∃ refusal : SubmitError,
          reaction = .emit (.rejected request.command refusal.message)) ∧
      (∀ frame ∈ trace.frames, ∃ content, frame = content ++ [delimiter]) ∧
      ∀ before after, trace = before ++ after → ∃ middle,
        Trace.Passes [] before middle ∧ Trace.Passes middle after queue ∧
        before.written ++ middle.flatten = before.frames.flatten ∧ [] ∉ middle ∧
        ∀ answers,
          let flushed := Outbound.flush middle answers
          before.written ++ (flushed.written ++ flushed.waiting.flatten) = before.frames.flatten ∧
          [] ∉ flushed.waiting ∧
          ∀ reason, flushed.failure = some reason ↔ Outbound.Breaks middle answers reason := by
  intro client trace
  have reliable := Session.protocol_reliable
  have latest : Engine.Latest Session.protocol config client _ trace :=
    Engine.latest_of_history reliable config initial history
  obtain ⟨queue, waiting, held, takes, passes⟩ := latest.exists_queue
  refine ⟨queue, waiting, held, takes, ?_, trace.frames_end, ?_⟩
  · intro request now reaction member
    obtain ⟨session, answers⟩ := Engine.answers_of_history reliable config initial history _ member
    obtain rfl : reaction = (session.request request now).2 := answers
    exact (Session.step_transition session (.request request now)).reaction_of_request
  · rintro before after split
    rw [split] at passes
    obtain ⟨middle, first, second⟩ := passes.of_append
    have account := first.conserves
    have full := first.nil_not_mem List.not_mem_nil
    refine ⟨middle, first, second, account, full, fun answers => ⟨?_, ?_, ?_⟩⟩
    · rw [Outbound.written_append_waiting]
      exact account
    · exact Outbound.nil_not_mem_waiting full answers
    · exact fun reason => Outbound.failure_eq_some_iff full

/-- A login is handed over before the connection is there, three of its bytes are written, and then
a message is handed over. -/
theorem outbound_lossless_partial :
    let login : Request := ⟨"LOGIN___", "BJ:LOGIN___:bob\n", true⟩
    let history : List (Engine.Move Request) :=
      [.start ⟨"localhost", 7777⟩ 0, .submit login, .iterate 1 .connected,
        .iterate 2 (.handedOver fun _ => 2), .iterate 3 (.writable [.accepted 3]), .send "hi"]
    let initial := Session.new {} 0
    let client : Client := (Engine.new {} initial).run Session.protocol history
    let trace := ((Engine.new {} initial).trace Session.protocol history).current
    let queue := [Text.encode "LOGIN___:bob\n".toList]
    .request login 2 (.send login.frame) ∈ trace ∧ trace.written = Text.encode "BJ:".toList ∧
    (∃ worker, client.worker = some worker ∧ worker.link.outbound = queue ∧
      worker.ingress = [.message "hi"]) ∧
    trace.written ++ queue.flatten = trace.frames.flatten ∧
    ((Outbound.flush queue [.accepted 0]).failure = some Outbound.zeroWrite ↔
      Outbound.Breaks queue [.accepted 0] Outbound.zeroWrite) := by
  intro login history initial client trace queue
  have sent : .request login 2 (.send login.frame) ∈ trace := by decide
  have wrote : trace.written = Text.encode "BJ:".toList := by decide
  have stands : client.worker.map (fun worker => (worker.link.outbound, worker.ingress)) =
      some (queue, [.message "hi"]) := by decide
  obtain ⟨worker, registered, same⟩ := Option.map_eq_some_iff.mp stands
  obtain ⟨outbound, ingress⟩ := Prod.mk.inj same
  obtain ⟨last, waiting, held, -, -, -, moments⟩ := outbound_lossless {} initial history
  obtain ⟨middle, -, passes, account, -, flushes⟩ := moments trace [] (List.append_nil _).symm
  have there : last = queue := (held worker registered).1.symm.trans outbound
  have here : middle = queue := by
    rw [← there]
    cases passes
    rfl
  rw [here] at account flushes
  exact ⟨sent, wrote, ⟨worker, registered, outbound, ingress⟩, account,
    (flushes [.accepted 0]).2.2 Outbound.zeroWrite⟩

end Client

end Blackjack
