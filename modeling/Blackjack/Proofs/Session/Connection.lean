import Blackjack.Proofs.Session.History
import Mathlib.Data.List.Induction

/-!
# What the consumer learns of one connection

A session is driven through connections, each of which ends at once when the session asks for that.
Until then a connection is `Calm`: its timer of silence runs from the last contact with the peer,
and nothing that the consumer is told ends the connection. Hence the consumer is told of the end at
most once, and last. A loss is reported by the tick that finds the peer silent or by the end of the
connection, never by both, and the lost cycles count exactly these reports.
-/

namespace Blackjack

namespace SessionEvent

/-- An event after which the consumer is told no more of a connection. -/
def isFinal : SessionEvent → Bool
  | offline _ | fatal _ => true
  | message _ | requestExpired _ | rejected _ _ => false

def isOffline : SessionEvent → Bool
  | offline _ => true
  | _ => false

end SessionEvent

namespace Session

namespace Operation

/-- When a connection began, or a line with the prefix arrived. -/
def contact? : Operation → Option Instant
  | connecting now => some now
  | line text now => if linePrefix.toList.isPrefixOf text.toList then some now else none
  | _ => none

/-- The line asks for a sign of life. -/
def isHeartbeat : Operation → Bool
  | line text _ =>
    match Frame.decode text with
    | .ok frame => frame.classify = .heartbeat
    | .error _ => false
  | _ => false

theorem contact?_of_valid {text : String} {frame : Frame} (valid : Frame.decode text = .ok frame)
    (now : Instant) : contact? (.line text now) = some now := by
  unfold Frame.decode Frame.content? at valid
  split at valid
  · next has => simp_all [contact?]
  · cases valid

theorem contact?_of_invalid {text : String} {failure : FrameError}
    (invalid : Frame.decode text = .error failure) (now : Instant) :
    contact? (.line text now) = none := by
  unfold Frame.decode Frame.content? at invalid
  split at invalid
  · cases invalid
  · next lacks => simp_all [contact?]

end Operation

/-- The moment of the last contact with the peer. -/
def lastContact (history : List Operation) : Option Instant :=
  (history.filterMap Operation.contact?).getLast?

theorem lastContact_concat (history : List Operation) (last : Operation) :
    lastContact (history ++ [last]) = last.contact?.or (lastContact history) := by
  unfold lastContact
  rw [List.filterMap_append, List.getLast?_append]
  cases contact : last.contact? <;> simp [contact]

/-- The link of a connection after what happened on it. -/
def link (session : Session) (history : List Operation) : Link :=
  (session.reactions history).foldl Link.absorb Link.fresh

theorem stop_foldl_absorb (link : Link) (reactions : List (Reaction SessionEvent)) :
    (reactions.foldl Link.absorb link).stop = link.stop.or (reactions.findSome? Reaction.stop) := by
  induction reactions generalizing link with
  | nil => simp
  | cons reaction later ih =>
    rw [List.foldl_cons, ih, List.findSome?_cons, Link.absorb]
    cases link.stop <;> cases reaction.stop <;> simp

/-- The first reason to stop wins. -/
theorem link_stop_append (session : Session) (before after : List Operation) :
    (session.link (before ++ after)).stop =
      (session.link before).stop.or ((session.run before).link after).stop := by
  simp [link, stop_foldl_absorb, reactions_append, Link.fresh]

theorem link_stop_singleton (session : Session) (operation : Operation) :
    (session.link [operation]).stop = (session.step operation).2.stop := by
  simp [link, reactions, Link.absorb, Link.fresh]

/-- What is told during a history is told by one of its operations. -/
theorem mem_events_iff {session : Session} {history : List Operation} {event : SessionEvent} :
    event ∈ session.events history ↔ ∃ before operation after,
      history = before ++ operation :: after ∧
        event ∈ ((session.run before).step operation).2.outputs := by
  constructor
  · intro told
    induction history generalizing session with
    | nil => simp at told
    | cons operation later ih =>
      rw [events_cons, List.mem_append] at told
      rcases told with now | later
      · exact ⟨[], operation, _, rfl, now⟩
      · obtain ⟨before, teller, after, rfl, tells⟩ := ih later
        exact ⟨operation :: before, teller, after, rfl, tells⟩
  · rintro ⟨before, operation, after, rfl, tells⟩
    rw [events_append, events_cons, List.mem_append, List.mem_append]
    exact .inr (.inl tells)

section Step

variable {session next : Session} {operation : Operation} {reaction : Reaction SessionEvent}

/-- An operation that asks for no stop tells nothing final, and only contact moves the timer. -/
theorem Transition.calm (transition : Transition session operation next reaction)
    (traffic : operation.isTraffic) (unasked : reaction.stop = none) :
    next.stopping = session.stopping ∧
      next.health.lastMessageAt = operation.contact?.getD session.health.lastMessageAt ∧
      ∀ event ∈ reaction.outputs, event.isFinal = false := by
  cases transition with
  | connected | lost | closed => simp [Operation.isTraffic] at traffic
  | condemned | exhausted | timedOut => simp at unasked
  | tolerated invalid =>
    simp [Operation.contact?_of_invalid invalid, discredited]
  | heartbeat valid => simp [Operation.contact?_of_valid valid]
  | resolved valid | forwarded valid =>
    simp [Operation.contact?_of_valid valid, refreshed, SessionEvent.isFinal]
  | fired hands | accepted hands =>
    rcases hands with rfl | rfl <;> simp [Operation.contact?]
  | _ =>
    simp [Operation.contact?, SessionEvent.isFinal]

/-- An operation that asks for the stop tells one final thing, if anything. -/
theorem Transition.outputs_of_asked (transition : Transition session operation next reaction)
    (asked : reaction.stop.isSome) :
    ∃ final : Option SessionEvent, reaction.outputs = final.toList ∧
      ∀ event ∈ final, event.isFinal = true := by
  cases transition with
  | condemned => exact ⟨some _, rfl, by simp [SessionEvent.isFinal]⟩
  | timedOut => exact ⟨some _, rfl, by simp [SessionEvent.isFinal]⟩
  | exhausted =>
    split
    · exact ⟨none, rfl, by simp⟩
    · exact ⟨some _, rfl, by simp [SessionEvent.isFinal]⟩
  | _ => simp at asked

/-- Between its ends, a connection is reported lost by the tick that finds the peer silent too long,
and by nothing else. -/
theorem Transition.offline_mem_iff (transition : Transition session operation next reaction)
    (traffic : operation.isTraffic) {reason : String} :
    .offline reason ∈ reaction.outputs ↔ reason = "connection timed out" ∧
      ∃ now, operation = .tick now ∧
        session.health.reconnectAttempts ≤ session.policy.maxReconnectAttempts ∧
        session.policy.livenessWindow < Instant.elapsed session.health.lastMessageAt now := by
  cases transition with
  | connected | lost | closed => simp [Operation.isTraffic] at traffic
  | timedOut unspent silent => simp [unspent, silent]
  | exhausted spent =>
    have overspent := Nat.not_le.mpr spent
    split <;> simp [overspent]
  | waited healthy | resent healthy | expired healthy =>
    have alive := Nat.not_lt.mpr healthy.2
    simp [alive]
  | fired hands | accepted hands => rcases hands with rfl | rfl <;> simp
  | _ => simp

/-- Reporting a loss between the ends of a connection asks for its end. -/
theorem Transition.stop_of_offline (transition : Transition session operation next reaction)
    (traffic : operation.isTraffic) {reason : String}
    (told : .offline reason ∈ reaction.outputs) : reaction.stop = some "liveness timeout" := by
  cases transition with
  | connected | lost | closed => simp [Operation.isTraffic] at traffic
  | timedOut => rfl
  | _ => simp at told

/-- The end of a connection reports a loss exactly if it is one that the session did not ask for. -/
theorem Transition.outputs_of_stopped {cause : StopCause}
    (transition : Transition session (.stopped cause) next reaction) :
    reaction.outputs =
      if cause.isFault ∧ session.stopping = false then [.offline cause.reason] else [] := by
  cases transition with
  | lost fault unasked => simp [fault, unasked]
  | closed asked => rcases asked with asked | asked <;> simp [asked]
  | fired hands | accepted hands => rcases hands with same | same <;> cases same

/-- A heartbeat clears the count of lost cycles, and only reported losses add to it. -/
theorem Transition.reconnectAttempts_eq (transition : Transition session operation next reaction) :
    next.health.reconnectAttempts =
      if operation.isHeartbeat then 0
      else session.health.reconnectAttempts + reaction.outputs.countP SessionEvent.isOffline := by
  cases transition with
  | heartbeat valid probe => simp [Operation.isHeartbeat, valid, probe]
  | tolerated invalid | condemned invalid =>
    simp [Operation.isHeartbeat, invalid, discredited, SessionEvent.isOffline]
  | resolved valid answer =>
    rcases answer with same | same <;>
      simp [Operation.isHeartbeat, valid, same, refreshed, SessionEvent.isOffline]
  | forwarded valid silent =>
    simp [Operation.isHeartbeat, valid, silent, refreshed, SessionEvent.isOffline]
  | fired hands | accepted hands =>
    rcases hands with rfl | rfl <;> simp [Operation.isHeartbeat]
  | exhausted =>
    cases reported : session.exhaustionReported <;>
      simp [Operation.isHeartbeat, SessionEvent.isOffline]
  | _ =>
    simp [Operation.isHeartbeat, connecting, SessionEvent.isOffline]

end Step

/-- What holds while nothing has asked for the end of a connection. -/
structure Calm (start : Session) (history : List Operation) : Prop where
  unasked : (start.link history).stop = none
  stopping : (start.run history).stopping = false
  contact : lastContact history = some (start.run history).health.lastMessageAt
  events : ∀ event ∈ start.events history, event.isFinal = false

namespace Calm

theorem of_connecting (start : Session) (began : Instant) : Calm start [.connecting began] := by
  constructor
  · simp [link_stop_singleton, step]
  · simp [step, connecting]
  · simp [step, connecting, lastContact, Operation.contact?]
  · simp [events_singleton, step]

theorem concat {start : Session} {history : List Operation} (calm : Calm start history)
    {operation : Operation} (traffic : operation.isTraffic)
    (unasked : ((start.run history).step operation).2.stop = none) :
    Calm start (history ++ [operation]) := by
  obtain ⟨stopping, contact, quiet⟩ := (step_transition _ operation).calm traffic unasked
  constructor
  · rw [link_stop_append, calm.unasked, link_stop_singleton, unasked, Option.or_none]
  · rw [run_concat, stopping, calm.stopping]
  · rw [run_concat, contact, lastContact_concat, calm.contact]
    cases operation.contact? <;> rfl
  · intro event told
    rw [events_append, events_singleton, List.mem_append] at told
    rcases told with before | last
    · exact calm.events event before
    · exact quiet event last

/-- A connection is calm for as long as it goes on. -/
theorem of_unasked {start : Session} {began : Instant} {traffic : List Operation}
    (inside : ∀ operation ∈ traffic, operation.isTraffic)
    (unasked : (start.link (.connecting began :: traffic)).stop = none) :
    Calm start (.connecting began :: traffic) := by
  induction traffic using List.reverseRecOn with
  | nil => exact of_connecting start began
  | append_singleton traffic operation ih =>
    rw [← List.cons_append] at unasked ⊢
    rw [link_stop_append, Option.or_eq_none_iff, link_stop_singleton] at unasked
    have before := ih (fun operation member => inside operation (by simp [member])) unasked.1
    exact before.concat (inside operation (by simp)) unasked.2

end Calm

/-- One connection: when it began, what happened on it, and why it ended. -/
structure Connection where
  began : Instant
  traffic : List Operation
  cause : StopCause
  deriving DecidableEq, Repr

namespace Connection

/-- The operations of a connection before it ends. -/
def active (connection : Connection) : List Operation :=
  .connecting connection.began :: connection.traffic

def operations (connection : Connection) : List Operation :=
  connection.active ++ [.stopped connection.cause]

/-- The session is driven through the connection as the loop does it: nothing happens after the
session has asked for the end, and the cause says whether it has. -/
structure Drives (start : Session) (connection : Connection) : Prop where
  traffic : ∀ operation ∈ connection.traffic, operation.isTraffic
  prompt : (start.link (.connecting connection.began :: connection.traffic.dropLast)).stop = none
  cause : (start.link connection.active).stop.isSome ↔
    ∃ reason, connection.cause = .protocol reason

/-- A tick finds attempts left, and the last contact with the peer longer ago than is tolerated. -/
def TimesOut (start : Session) (connection : Connection) : Prop :=
  ∃ before now after contact, connection.traffic = before ++ .tick now :: after ∧
    let history := .connecting connection.began :: before
    (start.run history).health.reconnectAttempts ≤ start.policy.maxReconnectAttempts ∧
      lastContact history = some contact ∧
      start.policy.livenessWindow < Instant.elapsed contact now

variable {start : Session} {connection : Connection}

namespace Drives

/-- The connection is calm before each of its operations. -/
theorem calm_before (drives : Drives start connection) {before after : List Operation}
    {operation : Operation} (split : connection.traffic = before ++ operation :: after) :
    Calm start (.connecting connection.began :: before) := by
  have prompt := drives.prompt
  rw [split, List.dropLast_append_cons, ← List.cons_append, link_stop_append,
    Option.or_eq_none_iff] at prompt
  refine .of_unasked (fun operation member => drives.traffic operation ?_) prompt.1
  simp [split, member]

/-- A connection that was lost is calm to its end. -/
theorem calm_of_fault (drives : Drives start connection) (fault : connection.cause.isFault) :
    Calm start connection.active := by
  refine .of_unasked drives.traffic ?_
  rw [← Option.not_isSome_iff_eq_none]
  intro asked
  obtain ⟨reason, same⟩ := drives.cause.mp asked
  simp [same, StopCause.isFault] at fault

theorem outputs_stopped (drives : Drives start connection) :
    ((start.run connection.active).step (.stopped connection.cause)).2.outputs =
      if connection.cause.isFault then [.offline connection.cause.reason] else [] := by
  rw [(step_transition _ _).outputs_of_stopped]
  cases fault : connection.cause.isFault with
  | false => simp
  | true => simp [(drives.calm_of_fault fault).stopping]

theorem events_operations (drives : Drives start connection) :
    start.events connection.operations = start.events connection.active ++
      if connection.cause.isFault then [.offline connection.cause.reason] else [] := by
  rw [operations, events_append, events_singleton, drives.outputs_stopped]

/-- What is told before the connection ends is told by its traffic. -/
theorem mem_events_active_iff {event : SessionEvent} :
    event ∈ start.events connection.active ↔ ∃ before operation after,
      connection.traffic = before ++ operation :: after ∧
        event ∈ ((start.run (.connecting connection.began :: before)).step operation).2.outputs := by
  have opening : start.events connection.active =
      (start.run [.connecting connection.began]).events connection.traffic := by
    simp [active, events_cons, step]
  rw [opening, mem_events_iff]
  rfl

/-- Until the connection ends, it is reported lost exactly if it times out. -/
theorem offline_mem_active_iff (drives : Drives start connection) {reason : String} :
    .offline reason ∈ start.events connection.active ↔
      reason = "connection timed out" ∧ TimesOut start connection := by
  rw [mem_events_active_iff]
  constructor
  · rintro ⟨before, operation, after, split, tells⟩
    have inside : operation.isTraffic := drives.traffic operation (by simp [split])
    have calm := drives.calm_before split
    obtain ⟨rfl, now, rfl, unspent, silent⟩ :=
      ((step_transition _ operation).offline_mem_iff inside).mp tells
    rw [run_policy] at unspent silent
    exact ⟨rfl, before, now, after, _, split, unspent, calm.contact, silent⟩
  · rintro ⟨rfl, before, now, after, contact, split, unspent, last, silent⟩
    have calm := drives.calm_before split
    refine ⟨before, .tick now, after, split, ?_⟩
    refine ((step_transition _ _).offline_mem_iff rfl).mpr ⟨rfl, now, rfl, ?_, ?_⟩
    · rwa [run_policy]
    · rw [run_policy]
      obtain rfl := Option.some.inj (last.symm.trans calm.contact)
      exact silent

theorem stop_of_offline (drives : Drives start connection) {reason : String}
    (told : .offline reason ∈ start.events connection.active) :
    (start.link connection.active).stop = some "liveness timeout" := by
  obtain ⟨before, operation, after, split, tells⟩ := mem_events_active_iff.mp told
  have inside : operation.isTraffic := drives.traffic operation (by simp [split])
  have whole : connection.active =
      (.connecting connection.began :: before) ++ ([operation] ++ after) := by
    simp [active, split]
  rw [whole, link_stop_append, (drives.calm_before split).unasked, Option.none_or, link_stop_append,
    link_stop_singleton, (step_transition _ operation).stop_of_offline inside tells, Option.some_or]

theorem offline_mem_iff (drives : Drives start connection) {reason : String} :
    .offline reason ∈ start.events connection.operations ↔
      (connection.cause.isFault ∧ reason = connection.cause.reason) ∨
        (TimesOut start connection ∧ reason = "connection timed out") := by
  rw [drives.events_operations, List.mem_append, drives.offline_mem_active_iff]
  cases connection.cause.isFault <;> simp [and_comm, or_comm]

/-- The consumer is told one final thing at most, and nothing after it. -/
theorem exists_routine_final (drives : Drives start connection) :
    ∃ (routine : List SessionEvent) (final : Option SessionEvent),
      start.events connection.operations = routine ++ final.toList ∧
      (∀ event ∈ routine, event.isFinal = false) ∧ ∀ event ∈ final, event.isFinal = true := by
  rw [drives.events_operations]
  cases asked : (start.link connection.active).stop with
  | none =>
    have calm : Calm start connection.active := .of_unasked drives.traffic asked
    refine ⟨_, if connection.cause.isFault then some (.offline connection.cause.reason) else none,
      ?_, calm.events, ?_⟩
    · split <;> rfl
    · split <;> simp [SessionEvent.isFinal]
  | some reason =>
    -- The session asked for the end with its last operation, so the end itself tells nothing.
    obtain ⟨given, same⟩ := drives.cause.mp (by simp [asked])
    rcases List.eq_nil_or_concat connection.traffic with quiet | ⟨before, last, split⟩
    · simp [active, quiet, link_stop_singleton, step] at asked
    · rw [List.concat_eq_append] at split
      have calm := drives.calm_before split
      have whole : connection.active = (.connecting connection.began :: before) ++ [last] := by
        simp [active, split]
      rw [whole, link_stop_append, calm.unasked, Option.none_or, link_stop_singleton] at asked
      obtain ⟨final, outputs, closes⟩ :=
        (step_transition _ last).outputs_of_asked (by rw [asked]; rfl)
      refine ⟨_, final, ?_, calm.events, closes⟩
      rw [whole, events_append, events_singleton, outputs]
      simp [same, StopCause.isFault]

/-- The loss of a connection is the last thing that the consumer is told of it. -/
theorem getLast?_eq_offline_iff (drives : Drives start connection) {reason : String} :
    (start.events connection.operations).getLast? = some (.offline reason) ↔
      .offline reason ∈ start.events connection.operations := by
  constructor
  · exact List.mem_of_getLast?
  · obtain ⟨routine, final, split, quiet, -⟩ := drives.exists_routine_final
    intro told
    rw [split, List.mem_append] at told
    rcases told with early | last
    · cases quiet _ early
    · obtain rfl : final = some (.offline reason) := by simpa using last
      rw [split, Option.toList_some, List.getLast?_concat]

/-- If it was not lost at its end, a connection that is reported lost timed out. -/
theorem stop_of_offline_of_kept (drives : Drives start connection)
    (kept : connection.cause.isFault = false) {reason : String}
    (told : .offline reason ∈ start.events connection.operations) :
    (start.link connection.active).stop = some "liveness timeout" := by
  rw [drives.events_operations, kept, if_neg Bool.false_ne_true, List.append_nil] at told
  exact drives.stop_of_offline told

theorem not_offline_of_requested (drives : Drives start connection) {given reason : String}
    (requested : connection.cause = .requested given) :
    .offline reason ∉ start.events connection.operations := by
  intro told
  have stop := drives.stop_of_offline_of_kept (by rw [requested]; rfl) told
  obtain ⟨other, same⟩ := drives.cause.mp (by rw [stop]; rfl)
  cases requested.symm.trans same

theorem not_offline_of_stop (drives : Drives start connection) {asked reason : String}
    (stop : (start.link connection.active).stop = some asked) (other : asked ≠ "liveness timeout") :
    .offline reason ∉ start.events connection.operations := by
  obtain ⟨given, same⟩ := drives.cause.mp (by rw [stop]; rfl)
  intro told
  have silent := drives.stop_of_offline_of_kept (by rw [same]; rfl) told
  rw [stop] at silent
  exact other (Option.some.inj silent)

end Drives

end Connection

/-- The session is driven through one connection after another. -/
def EngineDriven (session : Session) : List Connection → Prop
  | [] => True
  | connection :: later =>
    connection.Drives session ∧ EngineDriven (session.run connection.operations) later

theorem engineDriven_append {session : Session} {earlier later : List Connection} :
    session.EngineDriven (earlier ++ later) ↔ session.EngineDriven earlier ∧
      (session.run (earlier.flatMap Connection.operations)).EngineDriven later := by
  induction earlier generalizing session with
  | nil => simp [EngineDriven]
  | cons connection rest ih =>
    rw [List.cons_append, EngineDriven, EngineDriven, ih, and_assoc, List.flatMap_cons, run_append]

/-- Without a heartbeat, every reported loss adds to the lost cycles. -/
theorem run_reconnectAttempts {session : Session} {later : List Operation}
    (silent : ∀ operation ∈ later, operation.isHeartbeat = false) :
    (session.run later).health.reconnectAttempts = session.health.reconnectAttempts +
      (session.events later).countP SessionEvent.isOffline := by
  induction later generalizing session with
  | nil => rfl
  | cons operation later ih =>
    have here : operation.isHeartbeat = false := silent operation (by simp)
    rw [run_cons, ih fun operation member => silent operation (by simp [member]),
      (step_transition session operation).reconnectAttempts_eq, here, events_cons,
      List.countP_append]
    simp [Nat.add_assoc]

/-- What the consumer is told of each connection of a run: routine events, and after them at most
one final event. The last event is the loss of the connection exactly if the peer or the socket
ended it, with that reason, or if a tick found the peer silent for too long with attempts left. A
stop on request, after too many invalid lines or after the last attempt reports no loss. In every
history at all, the lost cycles are the losses reported since the last heartbeat. -/
theorem events_of_connection (policy : SessionPolicy) (created : Instant)
    {earlier later : List Connection} {connection : Connection}
    (driven : (new policy created).EngineDriven (earlier ++ connection :: later)) :
    let start := (new policy created).run (earlier.flatMap Connection.operations)
    let told := start.events connection.operations
    let stop := (start.link connection.active).stop
    (∃ (routine : List SessionEvent) (final : Option SessionEvent),
      told = routine ++ final.toList ∧
      (∀ event ∈ routine, event.isFinal = false) ∧ ∀ event ∈ final, event.isFinal = true) ∧
    (∀ reason, told.getLast? = some (.offline reason) ↔
      (connection.cause.isFault ∧ reason = connection.cause.reason) ∨
        (connection.TimesOut start ∧ reason = "connection timed out")) ∧
    ((∃ given, connection.cause = .requested given) ∨ stop = some "too many invalid messages" ∨
        stop = some "reconnection attempts exhausted" →
      ∀ reason, .offline reason ∉ told) ∧
    ∀ history since : List Operation,
      history = [] ∨ (∃ before beat, history = before ++ [beat] ∧ beat.isHeartbeat) →
      (∀ operation ∈ since, operation.isHeartbeat = false) →
      ((new policy created).run (history ++ since)).health.reconnectAttempts =
        (((new policy created).run history).events since).countP SessionEvent.isOffline := by
  intro start told stop
  have drives : connection.Drives start := (engineDriven_append.mp driven).2.1
  refine ⟨drives.exists_routine_final, ?_, ?_, ?_⟩
  · intro reason
    rw [drives.getLast?_eq_offline_iff, drives.offline_mem_iff]
  · intro kept reason
    rcases kept with ⟨given, same⟩ | invalid | spent
    · exact drives.not_offline_of_requested same
    · exact drives.not_offline_of_stop invalid (by decide)
    · exact drives.not_offline_of_stop spent (by decide)
  · intro history since cleared silent
    have zero : ((new policy created).run history).health.reconnectAttempts = 0 := by
      rcases cleared with rfl | ⟨before, beat, rfl, probe⟩
      · rfl
      · rw [run_concat, (step_transition _ beat).reconnectAttempts_eq, if_pos probe]
    rw [run_append, run_reconnectAttempts silent, zero, Nat.zero_add]

theorem events_of_connection_silent :
    let lost : Connection := ⟨0, [.tick 1, .line "BJ:WELCOME_" 2], .peerClosed⟩
    let silent : Connection := ⟨5, [.line "PING" 6, .tick 10000000006], .protocol "liveness timeout"⟩
    (new {} 0).EngineDriven [lost, silent] ∧
    (((new {} 0).run lost.operations).events silent.operations).getLast? =
      some (.offline "connection timed out") ∧
    ((new {} 0).run (lost.operations ++ silent.operations)).health.reconnectAttempts = 2 := by
  intro lost silent
  have driven : (new {} 0).EngineDriven ([lost] ++ silent :: []) := by
    refine ⟨⟨by decide, by decide, ?_⟩, ⟨by decide, by decide, ?_⟩, trivial⟩
    · refine ⟨fun asked => absurd asked (by decide), ?_⟩
      rintro ⟨reason, same⟩
      cases same
    · exact ⟨fun _ => ⟨_, rfl⟩, fun _ => by decide⟩
  obtain ⟨-, last, -, count⟩ := events_of_connection {} 0 driven
  have timed_out : silent.TimesOut ((new {} 0).run ([lost].flatMap Connection.operations)) :=
    ⟨[.line "PING" 6], 10000000006, [], 5, rfl, by decide, by decide, by decide⟩
  have reported := (last "connection timed out").mpr (.inr ⟨timed_out, rfl⟩)
  have counted := count [] (lost.operations ++ silent.operations) (.inl rfl) (by decide)
  rw [List.flatMap_singleton] at reported
  rw [List.nil_append] at counted
  refine ⟨driven, reported, ?_⟩
  rw [counted]
  decide

end Session

end Blackjack
