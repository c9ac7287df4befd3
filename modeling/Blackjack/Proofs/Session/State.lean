import Blackjack.Proofs.Session.History
import Mathlib.Data.List.Induction

/-!
# The state is a function of the history

Nothing but the history decides the state: whether a connection is open, whether a request waits
for its answer, and whether one was accepted on this connection. `Tracks` is the invariant that
relates the three to the state, and each operation falls into one of four groups that keep it. The
published state follows the state, and is written on its changes alone.
-/

namespace Blackjack.Session

/-- A connection attempt has begun since creation, or since the last connection ended. -/
def Connected (history : List Operation) : Prop :=
  Operation.Since (fun _ operation => operation.IsConnecting) Operation.IsStopped history

/-- A request that must be answered was accepted since the last connection attempt began. -/
def AcceptedOne (start : Session) (history : List Operation) : Prop :=
  Operation.Since
    (fun before operation => ∃ request now, (start.run before).Accepts operation request now)
    Operation.IsConnecting history

/-- What the state says about the history. -/
structure Tracks (start : Session) (history : List Operation) (session : Session) : Prop where
  connected : session.state ≠ .disconnected ↔ Connected history
  waiting : session.state = .awaitingAck ↔ session.pending.isSome
  accepted : session.state = .idle ∨ session.state = .awaitingAck → AcceptedOne start history
  fresh : session.state = .awaitingNickname → ¬AcceptedOne start history

theorem not_accepts_of_not_hands {session : Session} {operation : Operation}
    (other : ∀ request now, ¬operation.Hands request now) :
    ¬∃ request now, session.Accepts operation request now := by
  rintro ⟨request, now, hands, -⟩
  exact other request now hands

namespace Tracks

variable {start session next : Session} {history : List Operation} {operation : Operation}

theorem of_new (policy : SessionPolicy) (created : Instant) :
    Tracks (new policy created) [] (new policy created) := by
  refine ⟨?_, by simp [new], by simp [new], by simp [new]⟩
  simpa [new, Connected] using Operation.not_since_nil

/-- An operation that leaves the state and the pending request as they are. -/
theorem keep (tracks : Tracks start history session) (here : start.run history = session)
    (inside : ¬operation.IsConnecting ∧ ¬operation.IsStopped)
    (unaccepted : ¬∃ request now, session.Accepts operation request now)
    (state : next.state = session.state) (pending : next.pending.isSome = session.pending.isSome) :
    Tracks start (history ++ [operation]) next := by
  have connected : Connected (history ++ [operation]) ↔ Connected history := by
    simp [Connected, Operation.since_concat, inside]
  have accepted : AcceptedOne start (history ++ [operation]) ↔ AcceptedOne start history := by
    simp only [AcceptedOne, Operation.since_concat, here, inside, unaccepted]
    simp
  constructor
  · rw [state, connected, tracks.connected]
  · rw [state, pending, tracks.waiting]
  · rw [state, accepted]
    exact tracks.accepted
  · rw [state, accepted]
    exact tracks.fresh

/-- An operation that ends the wait of the pending request. -/
theorem release (tracks : Tracks start history session)
    (inside : ¬operation.IsConnecting ∧ ¬operation.IsStopped)
    (waiting : session.pending.isSome) (state : next.state = .idle) (pending : next.pending = none) :
    Tracks start (history ++ [operation]) next := by
  have before : session.state = .awaitingAck := tracks.waiting.mpr waiting
  have connected : Connected history := tracks.connected.mp (by simp [before])
  have accepted : AcceptedOne start history := tracks.accepted (.inr before)
  constructor
  · have still : Connected (history ++ [operation]) :=
      Operation.since_concat.mpr (.inr ⟨inside.2, connected⟩)
    simp [state, still]
  · simp [state, pending]
  · intro _
    exact Operation.since_concat.mpr (.inr ⟨inside.1, accepted⟩)
  · simp [state]

/-- An operation that makes a request the pending one. -/
theorem accept (tracks : Tracks start history session) (here : start.run history = session)
    {request : Request} {now : Instant} (accepts : session.Accepts operation request now)
    (state : next.state = .awaitingAck) (pending : next.pending.isSome) :
    Tracks start (history ++ [operation]) next := by
  obtain ⟨hands, -, connected, -⟩ := accepts_iff.mp accepts
  have inside : ¬operation.IsStopped := by
    rcases hands with rfl | rfl <;> simp [Operation.IsStopped]
  constructor
  · have still : Connected (history ++ [operation]) :=
      Operation.since_concat.mpr (.inr ⟨inside, tracks.connected.mp connected⟩)
    simp [state, still]
  · simp [state, pending]
  · intro _
    exact Operation.since_concat.mpr (.inl ⟨request, now, here ▸ accepts⟩)
  · simp [state]

theorem connect (state : next.state = .awaitingNickname) (pending : next.pending = none)
    (now : Instant) : Tracks start (history ++ [.connecting now]) next := by
  constructor
  · simp [state, Connected, Operation.since_concat, Operation.IsConnecting]
  · simp [state, pending]
  · simp [state]
  · intro _ accepted
    rcases Operation.since_concat.mp accepted with ⟨request, now, hands, -⟩ | ⟨fresh, -⟩
    · rcases hands with same | same <;> cases same
    · exact fresh trivial

theorem disconnect (state : next.state = .disconnected) (pending : next.pending = none)
    (cause : StopCause) : Tracks start (history ++ [.stopped cause]) next := by
  refine ⟨?_, by simp [state, pending], by simp [state], by simp [state]⟩
  simp [state, Connected, Operation.since_concat, Operation.IsConnecting, Operation.IsStopped]

/-- Every operation is in one of the four groups, or opens or ends a connection. -/
theorem transition {reaction : Reaction SessionEvent} (tracks : Tracks start history session)
    (here : start.run history = session)
    (transition : Transition session operation next reaction) :
    Tracks start (history ++ [operation]) next := by
  cases transition with
  | connected now => exact connect (by simp [connecting]) (by simp [connecting]) now
  | lost => exact disconnect (by simp) (by simp) _
  | closed => exact disconnect (by simp) (by simp) _
  | accepted hands connected tracked vacant =>
    exact tracks.accept here (accepts_iff.mpr ⟨hands, tracked, connected, vacant⟩) (by simp) (by simp)
  | resolved valid answer waiting =>
    exact tracks.release ⟨id, id⟩ waiting (by simp) (by simp)
  | expired healthy waiting =>
    exact tracks.release ⟨id, id⟩ (by simp [waiting]) (by simp) (by simp)
  | resent healthy waiting =>
    exact tracks.keep here ⟨id, id⟩ (not_accepts_of_not_hands (by simp [Operation.Hands])) rfl
      (by simp [waiting])
  | fired hands connected free =>
    refine tracks.keep here ?_ ?_ rfl rfl
    · rcases hands with rfl | rfl <;> exact ⟨id, id⟩
    · rintro ⟨request, now, again, tracked, -⟩
      rcases hands with rfl | rfl <;> rcases again with same | same <;> cases same <;>
        simp [free] at tracked
  | refused refuses | rejected refuses =>
    refine tracks.keep here ⟨id, id⟩ ?_ rfl rfl
    rintro ⟨request, now, again, -, result, accepted⟩
    rcases again with same | same <;> cases same
    simp [refuses] at accepted
  | _ =>
    exact tracks.keep here ⟨id, id⟩ (not_accepts_of_not_hands (by simp [Operation.Hands])) rfl rfl

theorem awaitingAck_iff (tracks : Tracks start history session) :
    session.state = .awaitingAck ↔ Connected history ∧ session.pending.isSome := by
  refine ⟨fun state => ⟨tracks.connected.mp (by simp [state]), tracks.waiting.mp state⟩, ?_⟩
  rintro ⟨-, waiting⟩
  exact tracks.waiting.mpr waiting

theorem idle_iff (tracks : Tracks start history session) :
    session.state = .idle ↔ Connected history ∧ session.pending = none ∧
      AcceptedOne start history := by
  have waiting := tracks.waiting
  constructor
  · intro state
    refine ⟨tracks.connected.mp (by simp [state]), ?_, tracks.accepted (.inl state)⟩
    simpa [state] using waiting
  · rintro ⟨connected, vacant, accepted⟩
    have online := tracks.connected.mpr connected
    have named := mt tracks.fresh (not_not.mpr accepted)
    cases state : session.state <;> simp_all

theorem awaitingNickname_iff (tracks : Tracks start history session) :
    session.state = .awaitingNickname ↔ Connected history ∧ session.pending = none ∧
      ¬AcceptedOne start history := by
  have waiting := tracks.waiting
  constructor
  · intro state
    refine ⟨tracks.connected.mp (by simp [state]), ?_, tracks.fresh state⟩
    simpa [state] using waiting
  · rintro ⟨connected, vacant, unaccepted⟩
    have online := tracks.connected.mpr connected
    have idle := mt tracks.accepted unaccepted
    cases state : session.state <;> simp_all

end Tracks

theorem run_tracks (policy : SessionPolicy) (created : Instant) (history : List Operation) :
    Tracks (new policy created) history ((new policy created).run history) := by
  induction history using List.reverseRecOn with
  | nil => exact .of_new policy created
  | append_singleton history operation ih =>
    rw [run_concat]
    exact ih.transition rfl (step_transition _ operation)

/-- The watch follows the state, and is written when the state changes. -/
theorem Transition.watch_eq {session next : Session} {operation : Operation}
    {reaction : Reaction SessionEvent} (transition : Transition session operation next reaction) :
    next.watch =
      if next.state = session.state then session.watch else session.watch.set next.state := by
  cases transition <;> simp [connecting, discredited, refreshed, enter_watch, eq_comm]

theorem run_watch_current (policy : SessionPolicy) (created : Instant) (history : List Operation) :
    ((new policy created).run history).watch.current = ((new policy created).run history).state := by
  induction history using List.reverseRecOn with
  | nil => rfl
  | append_singleton history operation ih =>
    rw [run_concat, (step_transition _ operation).watch_eq]
    split
    · next same => rw [ih, same]
    · rfl

/-- A request is sent again only while retries are left. -/
theorem Transition.retries_le {session next : Session} {operation : Operation}
    {reaction : Reaction SessionEvent} (transition : Transition session operation next reaction)
    (bounded : ∀ pending ∈ session.pending, pending.retries ≤ session.policy.maxRetries) :
    ∀ pending ∈ next.pending, pending.retries ≤ session.policy.maxRetries := by
  intro pending member
  cases transition with
  | connected | lost | closed | resolved | expired => simp [connecting] at member
  | accepted =>
    obtain rfl : _ = pending := by simpa using member
    exact Nat.zero_le _
  | resent healthy waiting late left =>
    obtain rfl : _ = pending := by simpa using member
    exact left
  | _ => exact bounded pending member

theorem run_retries_le (policy : SessionPolicy) (created : Instant) (history : List Operation) :
    ∀ pending ∈ ((new policy created).run history).pending, pending.retries ≤ policy.maxRetries := by
  induction history using List.reverseRecOn with
  | nil => simp [new]
  | append_singleton history operation ih =>
    have same : ((new policy created).run history).policy = policy := run_policy _ history
    rw [run_concat]
    intro pending member
    have bounded := (step_transition _ operation).retries_le (by rwa [same]) pending member
    rwa [same] at bounded

/-- The state after any history: disconnected unless a connection attempt began after creation and
after the last end of a connection; otherwise awaiting an answer exactly if a request is pending,
idle if one was accepted on this connection, and awaiting the nickname if none was. The published
state and what every subscriber sees are that state, and the watch is written once by each
operation that changes the state and by no other. -/
theorem state_of_history (policy : SessionPolicy) (created : Instant) (history : List Operation) :
    let session := (new policy created).run history
    (session.state = .disconnected ↔ ¬Connected history) ∧
    (session.state = .awaitingAck ↔ Connected history ∧ session.pending.isSome) ∧
    (session.state = .idle ↔ Connected history ∧ session.pending = none ∧
      AcceptedOne (new policy created) history) ∧
    (session.state = .awaitingNickname ↔ Connected history ∧ session.pending = none ∧
      ¬AcceptedOne (new policy created) history) ∧
    (session.pendingCommand.isSome ↔ session.state = .awaitingAck) ∧
    (∀ pending ∈ session.pending, pending.retries ≤ policy.maxRetries) ∧
    session.watch.current = session.state ∧
    (∀ subscriber : StateWatch.Subscriber, subscriber.value session.watch = session.state) ∧
    ∀ operation, let next := (session.step operation).1
      next.watch.writes = session.watch.writes + (if next.state = session.state then 0 else 1) ∧
      ∀ subscriber : StateWatch.Subscriber, subscriber.known = session.watch.writes →
        (subscriber.hasNews next.watch ↔ next.state ≠ session.state) := by
  intro session
  have tracks : Tracks (new policy created) history session := run_tracks policy created history
  have current : session.watch.current = session.state := run_watch_current policy created history
  have written (operation : Operation) : (session.step operation).1.watch.writes =
      session.watch.writes + (if (session.step operation).1.state = session.state then 0 else 1) := by
    rw [(step_transition session operation).watch_eq]
    split <;> simp [StateWatch.set]
  refine ⟨?_, tracks.awaitingAck_iff, tracks.idle_iff, tracks.awaitingNickname_iff, ?_,
    run_retries_le policy created history, current, ?_, ?_⟩
  · rw [← tracks.connected, not_not]
  · rw [tracks.waiting, pendingCommand, Option.isSome_map]
  · intro subscriber
    exact current
  · intro operation next
    refine ⟨written operation, ?_⟩
    intro subscriber known
    simp only [StateWatch.Subscriber.hasNews, known, next, written operation]
    split <;> simp_all

theorem state_of_history_resent :
    let history : List Operation :=
      [.connecting 0, .submit ⟨"LOGIN___", "BJ:LOGIN___:bob\n", true⟩ 0, .tick 5000000001]
    let session := (new {} 0).run history
    session.pending = some ⟨"LOGIN___", "BJ:LOGIN___:bob\n", 5000000001, 1⟩ ∧ 1 ≤ 3 ∧
      Connected history ∧ session.watch.writes = 2 ∧
      (StateWatch.Subscriber.hasNews ⟨2⟩ (session.step (.tick 10000000002)).1.watch ↔
        (session.step (.tick 10000000002)).1.state ≠ session.state) := by
  intro history session
  have pending : session.pending = some ⟨"LOGIN___", "BJ:LOGIN___:bob\n", 5000000001, 1⟩ := rfl
  have writes : session.watch.writes = 2 := rfl
  obtain ⟨-, awaiting, -, -, -, bounded, -, -, written⟩ := state_of_history {} 0 history
  exact ⟨pending, bounded _ pending, (awaiting.mp rfl).1, writes, (written _).2 ⟨2⟩ rfl⟩

end Blackjack.Session
