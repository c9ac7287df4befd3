import Blackjack.Proofs.Client.Exhaustion
import Blackjack.Proofs.Session.Watch
import Blackjack.Proofs.Transport.Life

/-!
# What a new connection inherits

A connection attempt starts from a new loop, and its session from the policy, the count of lost
connections and whether the end of the attempts was reported. The watch alone remembers more, the
number of its writes, and no operation looks at that. So two clients that agree on these two are the
same client from their next connection on, up to that number.
-/

namespace Blackjack

namespace Session

/-- A session at the beginning of a connection. -/
def begun (policy : SessionPolicy) (now : Instant) (losses : Nat) (exhaustionReported : Bool) :
    Session where
  policy := policy
  state := .awaitingNickname
  pending := none
  health := ⟨now, 0, losses⟩
  watch := ⟨.awaitingNickname, 1⟩
  stopping := false
  invalidReported := false
  exhaustionReported := exhaustionReported

/-- A session without a connection. -/
structure Offline (policy : SessionPolicy) (session : Session) : Prop where
  policy : session.policy = policy
  state : session.state = .disconnected

theorem Offline.connecting_eq {policy : SessionPolicy} {session : Session}
    (offline : Offline policy session) (now : Instant) :
    session.connecting now =
      (begun policy now session.health.reconnectAttempts session.exhaustionReported).rewritten
        session.watch.writes := by
  obtain ⟨rfl, state⟩ := offline
  simp [connecting, enter, state, rewritten, begun, StateWatch.set, Nat.add_comm]

end Session

namespace Client

/-- A client whose connection has just begun. -/
def renewed (config : TransportConfig) (policy : SessionPolicy) (endpoint : Endpoint)
    (now : Instant) (losses : Nat) (exhaustionReported : Bool) : Client where
  config := config
  endpoint := some endpoint
  parked := none
  worker := some (.new config endpoint (.begun policy now losses exhaustionReported))
  running := true

/-- A client that has been through some history, and runs no loop any more. -/
structure Ended (config : TransportConfig) (policy : SessionPolicy) (client : Client)
    (session : Session) : Prop where
  reached : ∃ created history, client = (new config policy created).run Session.protocol history
  live? : client.live? = none
  state? : client.state? = some session

namespace Ended

variable {config : TransportConfig} {policy : SessionPolicy} {client : Client} {session : Session}

/-- At its end, a client is at rest and its session is without a connection. -/
theorem rests (ended : Ended config policy client session) :
    client.Rests session ∧ session.Offline policy ∧ client.config = config := by
  obtain ⟨⟨created, history, rfl⟩, idle, held⟩ := ended
  obtain ⟨stage, course, reaches⟩ := exists_course config policy created history
  rcases reaches.kept with ⟨other, rests⟩ | ⟨worker, runs⟩
  · obtain rfl : session = other := Option.some.inj (held.symm.trans rests.state?)
    obtain ⟨rfl, same⟩ := reaches.rests rests
    have settled := (Engine.latest_of_history Session.protocol_reliable config
      (Session.new policy created) history).config_eq
    refine ⟨rests, ⟨?_, ?_⟩, settled⟩
    · rw [same]
      exact Session.run_policy _ _
    · rw [same]
      exact (Session.disconnected_iff_of_course course (by simp [Session.new])).mpr rfl
  · cases idle.symm.trans runs.live?

section Connect

variable (ended : Ended config policy client session) {endpoint : Endpoint}
  (valid : endpoint.Valid) (now : Instant)
include ended valid

/-- A new connection begins in the same way, whatever the client has been through. -/
theorem connect_eq :
    client.connect endpoint now =
      { engine := (renewed config policy endpoint now session.health.reconnectAttempts
          session.exhaustionReported).map (Session.rewritten session.watch.writes)
        trace := [.connecting now] } := by
  obtain ⟨rests, offline, rfl⟩ := ended.rests
  obtain ⟨-, -, joined⟩ := rests.join
  have begins : Session.protocol.connecting session now = _ := offline.connecting_eq now
  simp only [connect, Engine.start_eq_of_rests rests valid, joined, begins]
  rfl

/-- And so it goes on. -/
theorem run_eq (later : List (Engine.Move Request)) :
    client.run Session.protocol (.start endpoint now :: later) =
      ((renewed config policy endpoint now session.health.reconnectAttempts
        session.exhaustionReported).run Session.protocol later).map
          (Session.rewritten session.watch.writes) := by
  have begins : client.step Session.protocol (.start endpoint now) = _ := ended.connect_eq valid now
  rw [← (Session.protocol_matches session.watch.writes).run]
  exact congrArg (fun call => call.engine.run Session.protocol later) begins

theorem trace_eq (later : List (Engine.Move Request)) :
    client.trace Session.protocol (.start endpoint now :: later) =
      .connecting now :: (renewed config policy endpoint now session.health.reconnectAttempts
        session.exhaustionReported).trace Session.protocol later := by
  have begins : client.step Session.protocol (.start endpoint now) = _ := ended.connect_eq valid now
  calc client.trace Session.protocol (.start endpoint now :: later)
      = .connecting now :: ((renewed config policy endpoint now
          session.health.reconnectAttempts session.exhaustionReported).map
            (Session.rewritten session.watch.writes)).trace Session.protocol later :=
        congrArg (fun call => call.trace ++ call.engine.trace Session.protocol later) begins
    _ = _ := congrArg _ ((Session.protocol_matches session.watch.writes).trace _ later)

end Connect

end Ended

/-- Nowhere is no place to connect to. -/
theorem connect_of_not_valid (client : Client) {endpoint : Endpoint} (invalid : ¬endpoint.Valid)
    (now : Instant) :
    (client.connect endpoint now).answer = .error
      (if Text.trim endpoint.host.toList = [] then .emptyHost else .invalidPort) := by
  unfold connect Engine.start
  split
  · rfl
  next hosted =>
  split
  · rfl
  · next ported => exact absurd ⟨hosted, ported⟩ invalid

theorem state_map_rewritten (client : Client) (more : Nat) :
    Client.state (client.map (Session.rewritten more)) = client.state := by
  unfold Client.state
  rw [Engine.map_state?]
  cases client.state? <;> rfl

theorem health_map_rewritten (client : Client) (more : Nat) :
    (client.map (Session.rewritten more)).state?.map Session.health =
      client.state?.map Session.health := by
  rw [Engine.map_state?]
  cases client.state? <;> rfl

/-- A new connection inherits nothing but the count of lost connections and whether the end of the
attempts was reported. Two clients with the same configurations that run no loop and agree on these
two are refused a start for the same reason, or else go the same way from then on, whatever they
have been through and whatever callers and the peer do later, as long as it is the same for both:
their traces are equal, with every byte written, every event and every cause of an end, and so are
all answers, the published states and the counters of health; and the clients themselves are equal
but for the number of writes to the watch, which they go on counting from where they were. -/
theorem connection_inherits_counters {config : TransportConfig} {policy : SessionPolicy}
    {one two : Client} {first second : Session} (ended : Ended config policy one first)
    (other : Ended config policy two second)
    (losses : first.health.reconnectAttempts = second.health.reconnectAttempts)
    (reported : first.exhaustionReported = second.exhaustionReported) (endpoint : Endpoint)
    (now : Instant) :
    (one.connect endpoint now).answer = (two.connect endpoint now).answer ∧
    ((one.connect endpoint now).answer = .ok () → ∀ later : List (Engine.Move Request),
      let moves := .start endpoint now :: later
      one.trace Session.protocol moves = two.trace Session.protocol moves ∧
      (∀ move, ((one.run Session.protocol moves).step Session.protocol move).answer =
        ((two.run Session.protocol moves).step Session.protocol move).answer) ∧
      Client.state (one.run Session.protocol moves) =
        Client.state (two.run Session.protocol moves) ∧
      (one.run Session.protocol moves).state?.map Session.health =
        (two.run Session.protocol moves).state?.map Session.health ∧
      ∃ client : Client,
        one.run Session.protocol moves = client.map (Session.rewritten first.watch.writes) ∧
        two.run Session.protocol moves = client.map (Session.rewritten second.watch.writes)) := by
  by_cases valid : endpoint.Valid
  · refine ⟨by rw [ended.connect_eq valid, other.connect_eq valid], ?_⟩
    intro _ later moves
    have left := ended.run_eq valid now later
    have right := other.run_eq valid now later
    rw [← losses, ← reported] at right
    refine ⟨?_, fun move => ?_, ?_, ?_, _, left, right⟩
    · rw [ended.trace_eq valid, other.trace_eq valid, losses, reported]
    · rw [left, right, (Session.protocol_matches _).step, (Session.protocol_matches _).step]
      rfl
    · rw [left, right, state_map_rewritten, state_map_rewritten]
    · rw [left, right, health_map_rewritten, health_map_rewritten]
  · have refused := connect_of_not_valid one valid now
    refine ⟨by rw [refused, connect_of_not_valid two valid], fun accepted => ?_⟩
    cases refused.symm.trans accepted

/-- One client never connected. The other lost a connection with half a line received, a request
pending and another one never taken up, and a caller has ended the next connection after a
heartbeat. -/
theorem connection_inherits_counters_heartbeat :
    let login : Request := ⟨"LOGIN___", "BJ:LOGIN___:bob\n", true⟩
    let endpoint : Endpoint := ⟨"localhost", 7777⟩
    let history : List (Engine.Move Request) :=
      [.start endpoint 0, .iterate 1 .connected, .submit login, .iterate 2 (.handedOver fun _ => 2),
        .iterate 3 (.received (Text.encode "BJ:ACK".toList) fun _ => 3), .submit login,
        .iterate 4 (.unreadable "reset"), .reconnect 5, .iterate 6 .connected,
        .iterate 7 (.received (Text.encode "BJ:PING____\nBJ:".toList) fun _ => 7), .stop "bye"]
    let one := new {} {} 0
    let two := (new {} {} 9).run Session.protocol history
    let first := Session.new {} 0
    let second : Session := { Session.new {} 0 with health := ⟨7, 0, 0⟩, watch := ⟨.disconnected, 5⟩ }
    Ended {} {} one first ∧ Ended {} {} two second ∧
      (one.connect endpoint 10).answer = .ok () ∧
      ∀ later : List (Engine.Move Request),
        one.trace Session.protocol (.start endpoint 10 :: later) =
          two.trace Session.protocol (.start endpoint 10 :: later) := by
  intro login endpoint history one two first second
  have fresh : Ended {} {} one first := ⟨⟨0, [], rfl⟩, rfl, rfl⟩
  have used : Ended {} {} two second := ⟨⟨9, history, rfl⟩, by decide, by decide⟩
  have answer : (one.connect endpoint 10).answer = .ok () := by decide
  obtain ⟨-, same⟩ := connection_inherits_counters fresh used rfl rfl endpoint 10
  exact ⟨fresh, used, answer, fun later => (same answer later).1⟩

end Client

end Blackjack
