import Blackjack.Proofs.Client.Operations
import Blackjack.Proofs.Session.Ticking
import Blackjack.Proofs.Transport.Ticking

/-!
# How often a client ticks

How often the loop of a client ticks its session at one moment depends on what its waits bring, and
it makes no difference: unless a tick asks for a stop, the ticks after it at the same moment do
nothing (`ticks_idempotent`).
-/

namespace Blackjack

theorem Session.protocol_settles : Session.protocol.Settles := fun _ _ unasked => tick_tick unasked

namespace Client

/-- Whatever the limits of a session and whatever it has been through, if a tick asks for no stop,
then any number of further ticks at the same moment, be it before or after the moments that the
session remembers, leave the session as it is, with the state that it publishes and the number of
writes to its watch, and each of them queues nothing, tells nothing and asks for no stop, so every
link stays as it is.

So in any history, every tick that asks for no stop may be repeated at its moment any number of
times: that leads to the same session, tells the same events, queues the same frames and leaves the
same wish to stop. The same goes for the loop of a client, which repeats a tick by an iteration that
the timer ends: the client is the same afterwards, whatever the history, its consumer is told the
same events, the same frames join its queue, its connections end for the same causes, and all that
happens besides are ticks that ask for nothing. -/
theorem ticks_idempotent (config : TransportConfig) (initial : Session) :
    (∀ history now,
      let session := initial.run history
      (session.tick now).2.stop = none → ∀ more,
        let settled := (session.tick now).1
        let again := List.replicate more (Session.Operation.tick now)
        settled.run again = settled ∧ settled.reactions again = List.replicate more .none ∧
        ∀ link, (settled.reactions again).foldl Link.absorb link = link) ∧
    (∀ history longer, initial.Repeats history longer →
      initial.run longer = initial.run history ∧
      initial.events longer = initial.events history ∧
      initial.link longer = initial.link history) ∧
    (∀ history longer,
      let client : Client := Engine.new config initial
      client.Repeats Session.protocol history longer →
        client.run Session.protocol longer = client.run Session.protocol history ∧
        let trace := client.trace Session.protocol history
        let other := client.trace Session.protocol longer
        other.outputs = trace.outputs ∧ other.frames = trace.frames ∧
        other.eventful = trace.eventful) := by
  refine ⟨?_, ?_, ?_⟩
  · intro history now session unasked more settled again
    have idle : settled.tick now = (settled, .none) := Session.tick_tick unasked
    have silent : settled.reactions again = List.replicate more .none :=
      Session.reactions_replicate_tick idle more
    refine ⟨Session.run_replicate_tick idle more, silent, fun link => ?_⟩
    rw [silent]
    exact Session.foldl_replicate_none Link.absorb_none more link
  · intro history longer repeats
    exact ⟨repeats.run_eq, repeats.events_eq, repeats.link_eq⟩
  · intro history longer client repeats
    have kept : client.Kept := (Engine.Rests.new config initial).kept
    have reliable := Session.protocol_reliable
    have same := repeats.eventful_eq reliable Session.protocol_settles kept
    refine ⟨repeats.run_eq reliable Session.protocol_settles kept, ?_, ?_, same⟩
    · rw [← Trace.outputs_eventful, same, Trace.outputs_eventful]
    · rw [← Trace.frames_eventful, same, Trace.frames_eventful]

/-- With timeouts of zero and no retries, a login is given up at the moment of a message. Three more
ticks at that moment make no difference, also for the heartbeat that is read next, and neither does
another tick at an earlier moment. -/
theorem ticks_idempotent_expired :
    let policy : SessionPolicy := ⟨0, 0, 0, 0, 0⟩
    let login : Request := ⟨"LOGIN___", "BJ:LOGIN___:bob\n", true⟩
    let before : List Session.Operation := [.connecting 0, .request login 0, .line "BJ:NOTE" 5]
    let settled := (((Session.new policy 0).run before).tick 5).1
    let moves : List (Engine.Move Request) :=
      [.start ⟨"localhost", 7777⟩ 0, .iterate 0 .connected, .submit login,
        .iterate 0 (.handedOver fun _ => 0),
        .iterate 0 (.received (Text.encode "BJ:NOTE\n".toList) fun _ => 5)]
    let heartbeat : Engine.Move Request :=
      .iterate 5 (.received (Text.encode "BJ:PING____\n".toList) fun _ => 6)
    let again : List (Engine.Move Request) := List.replicate 3 (.iterate 5 .timer) ++ [heartbeat]
    let client : Client := Engine.new {} (Session.new policy 0)
    let expired := SessionEvent.requestExpired "LOGIN___"
    (((Session.new policy 0).run before).tick 5).2 = .emit expired ∧
    settled.run (List.replicate 3 (.tick 5)) = settled ∧
    (settled.tick 3).2.stop = none ∧ (settled.tick 3).1.run [.tick 3] = (settled.tick 3).1 ∧
    (Session.new policy 0).events (before ++ [.tick 5, .tick 5, .tick 5]) =
      (Session.new policy 0).events (before ++ [.tick 5]) ∧
    client.Repeats Session.protocol (moves ++ [heartbeat]) (moves ++ again) ∧
    client.run Session.protocol (moves ++ again) = client.run Session.protocol (moves ++ [heartbeat]) ∧
    (client.trace Session.protocol (moves ++ again)).outputs =
      [.message ⟨"NOTE", none⟩, expired] := by
  intro policy login before settled moves heartbeat again client expired
  have tells : (((Session.new policy 0).run before).tick 5).2 = .emit expired := by decide
  have unasked : (((Session.new policy 0).run before).tick 5).2.stop = none := by rw [tells]; rfl
  have late : (settled.tick 3).2.stop = none := by decide
  have ticks : ((client.run Session.protocol moves).live?.map fun worker =>
      (Session.protocol.tick worker.state 5).2.stop) = some none := by decide
  obtain ⟨worker, live, calm⟩ := Option.map_eq_some_iff.mp ticks
  have longer : client.Repeats Session.protocol (moves ++ [heartbeat]) (moves ++ again) :=
    .prepend moves (.again ⟨worker, live, calm⟩ 3 _ (.nil _))
  have repeats : (Session.new policy 0).Repeats (before ++ [.tick 5])
      (before ++ [.tick 5, .tick 5, .tick 5]) :=
    .once _ (.once _ (.once _ (.again unasked 2 (.nil _))))
  obtain ⟨still, histories, clients⟩ := ticks_idempotent {} (Session.new policy 0)
  obtain ⟨same, told, -, -⟩ := clients _ _ longer
  have after := still (before ++ [.tick 5]) 3
  rw [Session.run_concat] at after
  refine ⟨tells, (still before 5 unasked 3).1, late, (after late 1).1,
    (histories _ _ repeats).2.1, longer, same, ?_⟩
  rw [told]
  decide

end Client

end Blackjack
