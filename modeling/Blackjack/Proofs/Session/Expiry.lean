import Blackjack.Proofs.Session.Exhaustion
import Blackjack.Proofs.Session.Fate

/-!
# No request expires in silence

While a request waits, two timers run: one since it was last sent, the other since the last contact
with the peer. A tick looks at the second one first. If all the timeouts of a request together are
no shorter than the silence that is tolerated, a tick that gives the request up has found the peer
less silent than that, and so has been in contact with it since the request was accepted.
-/

namespace Blackjack.Session

/-- No operation is earlier than one before it. -/
def Ordered (history : List Operation) : Prop :=
  (history.filterMap Operation.now?).IsChain (· ≤ ·)

instance (history : List Operation) : Decidable (Ordered history) :=
  inferInstanceAs (Decidable (List.IsChain _ _))

section Times

variable {operation : Operation} {request : Request} {sent : Instant}

theorem Operation.contact?_eq_some_iff {heard : Instant} : operation.contact? = some heard ↔
    operation = .connecting heard ∨
      ∃ text, operation = .line text heard ∧ linePrefix.toList.isPrefixOf text.toList := by
  cases operation <;> simp [contact?, and_comm]

theorem Operation.now?_of_contact {heard : Instant} (contact : operation.contact? = some heard) :
    operation.now? = some heard := by
  rcases contact?_eq_some_iff.mp contact with rfl | ⟨text, rfl, -⟩ <;> rfl

theorem Operation.Hands.now?_eq (hands : operation.Hands request sent) :
    operation.now? = some sent := by
  rcases hands with rfl | rfl <;> rfl

theorem Operation.Hands.contact?_eq (hands : operation.Hands request sent) :
    operation.contact? = none := by
  rcases hands with rfl | rfl <;> rfl

theorem Ordered.le {before after : List Operation} {earlier : Operation} {first second : Instant}
    (ordered : Ordered (before ++ operation :: after)) (member : earlier ∈ before)
    (early : earlier.now? = some first) (late : operation.now? = some second) : first ≤ second := by
  rw [Ordered, List.isChain_iff_pairwise, List.filterMap_append, List.pairwise_append] at ordered
  refine ordered.2.2 first (List.mem_filterMap.mpr ⟨earlier, member, early⟩) second ?_
  exact List.mem_filterMap.mpr ⟨operation, List.mem_cons_self, late⟩

theorem Ordered.of_append_left {before after : List Operation}
    (ordered : Ordered (before ++ after)) : Ordered before := by
  rw [Ordered, List.filterMap_append] at ordered
  exact ordered.left_of_append

end Times

section Step

variable {session next : Session} {operation : Operation} {reaction : Reaction SessionEvent}

/-- The tick that gives a request up has found the connection healthy. -/
theorem Transition.healthy_of_expired (transition : Transition session operation next reaction)
    {command : String} (reported : .requestExpired command ∈ reaction.outputs) :
    ∃ now, operation = .tick now ∧ session.Healthy now := by
  cases transition with
  | expired healthy => exact ⟨_, rfl, healthy⟩
  | _ => simp at reported

/-- A request waits on while the connection lasts, nothing is heard and nothing expires. -/
theorem Transition.waiting_of_silent (transition : Transition session operation next reaction)
    (traffic : operation.isTraffic) (silent : operation.contact? = none)
    (unexpired : ∀ command, .requestExpired command ∉ reaction.outputs)
    (waiting : session.pending.isSome) : next.pending.isSome := by
  cases transition with
  | connected | lost | closed => cases traffic
  | heartbeat valid | resolved valid | forwarded valid =>
    rw [Operation.contact?_of_valid valid] at silent
    cases silent
  | expired => exact absurd (List.mem_singleton_self _) (unexpired _)
  | accepted hands connected tracked vacant => simp
  | resent => rfl
  | _ => exact waiting

/-- A tick that comes after too long a silence ends the connection. -/
theorem Transition.of_overdue {now : Instant}
    (transition : Transition session (.tick now) next reaction)
    (silent : session.policy.livenessWindow < Instant.elapsed session.health.lastMessageAt now) :
    session.Spent ∧ reaction.stop = some exhaustionStop ∨
      ¬session.Spent ∧ reaction.stop = some "liveness timeout" ∧
        reaction.outputs = [.offline "connection timed out"] := by
  cases transition with
  | exhausted spent => exact .inl ⟨spent, rfl⟩
  | timedOut unspent => exact .inr ⟨Nat.not_lt.mpr unspent, rfl, rfl⟩
  | waited healthy | resent healthy | expired healthy =>
    exact absurd silent (Nat.not_lt.mpr healthy.2)
  | fired hands | accepted hands => rcases hands with same | same <;> cases same

end Step

/-- Nothing happens on a connection after the session has asked for its end. -/
theorem Connection.Drives.last_of_asked {start : Session} {connection : Connection}
    (drives : connection.Drives start) {before after : List Operation} {operation : Operation}
    (split : connection.traffic = before ++ operation :: after)
    (asked : ((start.run (.connecting connection.began :: before)).step operation).2.stop.isSome) :
    after = [] := by
  cases after with
  | nil => rfl
  | cons next later =>
    rw [List.append_cons] at split
    have unasked := (drives.calm_before split).unasked
    rw [← List.cons_append, link_stop_append, Option.or_eq_none_iff, link_stop_singleton] at unasked
    rw [unasked.2] at asked
    cases asked

namespace Wait

variable {start : Session} {wait : Wait}

/-- If all the timeouts together are no shorter than the tolerated silence, the tick that gives a
request up has heard of the peer after the request was accepted. -/
theorem Lasts.sent_lt_of_expired (lasts : wait.Lasts start)
    (patient : start.policy.livenessWindow ≤
      (start.policy.maxRetries + 1) * start.policy.ackTimeout)
    {last : Operation} {command : String}
    (reported : .requestExpired command ∈ ((start.run wait.history).step last).2.outputs) :
    command = wait.request.command ∧
      wait.sent < (start.run wait.history).health.lastMessageAt := by
  have transition := step_transition (start.run wait.history) last
  obtain ⟨now, given, rfl, found, late, spent, reaction, -⟩ := transition.of_expired reported
  obtain ⟨_, same, healthy⟩ := transition.healthy_of_expired reported
  obtain rfl := Operation.tick.inj same
  obtain ⟨pending, resends, waiting, waits⟩ := lasts.exists_waits
  obtain rfl : given = pending := Option.some.inj (found.symm.trans waiting)
  rw [run_policy] at late spent
  obtain ⟨-, overdue⟩ := waits.give_up late spent
  have heard := healthy.2
  rw [run_policy, Instant.elapsed] at heard
  constructor
  · rw [reaction, waits.command] at reported
    simpa using reported
  · dsimp only [Instant, Duration] at *
    omega

/-- On a connection in the order of time, contact after a request was accepted has been made
since. -/
theorem exists_contact_since {began heard : Instant}
    (hands : wait.acceptance.Hands wait.request wait.sent)
    (ordered : Ordered (.connecting began :: wait.history))
    (last : lastContact (.connecting began :: wait.history) = some heard)
    (later : wait.sent < heard) : ∃ operation ∈ wait.since, operation.contact? = some heard := by
  obtain ⟨operation, member, contact⟩ := List.mem_filterMap.mp (List.mem_of_getLast? last)
  rw [history, ← List.cons_append] at ordered member
  rcases List.mem_append.mp member with before | after
  · have early := ordered.le before (Operation.now?_of_contact contact) hands.now?_eq
    exact absurd later (Nat.not_lt.mpr early)
  rcases List.mem_cons.mp after with rfl | since
  · rw [hands.contact?_eq] at contact
    cases contact
  · exact ⟨operation, since, contact⟩

end Wait

namespace Connection.Drives

variable {start : Session} {connection : Connection} {wait : Wait} {after : List Operation}

section

variable (drives : connection.Drives start) (ordered : Ordered connection.active)
  (patient : start.policy.livenessWindow ≤ (start.policy.maxRetries + 1) * start.policy.ackTimeout)
include drives ordered patient

theorem exists_line_of_expired (lasts : wait.Lasts (start.run [.connecting connection.began]))
    {last : Operation} (split : connection.traffic = wait.history ++ last :: after)
    {command : String}
    (reported : .requestExpired command ∈
      (((start.run [.connecting connection.began]).run wait.history).step last).2.outputs) :
    command = wait.request.command ∧ ∃ text heard, .line text heard ∈ wait.since ∧
      linePrefix.toList.isPrefixOf text.toList ∧ wait.sent < heard := by
  have calm := drives.calm_before split
  obtain ⟨named, later⟩ := lasts.sent_lt_of_expired (by rwa [run_policy]) reported
  rw [active, split, ← List.cons_append] at ordered
  obtain ⟨operation, since, contact⟩ :=
    Wait.exists_contact_since lasts.accepts.1 ordered.of_append_left calm.contact later
  have traffic := drives.traffic operation (by simp [split, Wait.history, since])
  rcases Operation.contact?_eq_some_iff.mp contact with rfl | ⟨text, rfl, has⟩
  · cases traffic
  · exact ⟨named, text, _, since, has, later⟩

/-- The request to a peer that is silent from then on waits until the connection ends. -/
theorem lasts_of_silent
    (accepts : ((start.run [.connecting connection.began]).run wait.before).Accepts
      wait.acceptance wait.request wait.sent)
    (split : connection.traffic = wait.history ++ after)
    (silent : ∀ operation ∈ wait.since, operation.contact? = none) :
    wait.Lasts (start.run [.connecting connection.began]) := by
  obtain ⟨before, acceptance, request, sent, since⟩ := wait
  induction since using List.reverseRecOn generalizing after with
  | nil => exact .of_accepts accepts
  | append_singleton since operation ih =>
    let sofar : Wait := ⟨before, acceptance, request, sent, since⟩
    have here : connection.traffic = sofar.history ++ operation :: after := by
      simpa [Wait.history, sofar] using split
    have lasts : sofar.Lasts (start.run [.connecting connection.began]) :=
      ih accepts here fun operation member => silent operation (by simp [member])
    refine lasts.concat ?_
    rw [run_concat]
    refine (step_transition _ operation).waiting_of_silent ?_ (silent operation (by simp)) ?_ ?_
    · exact drives.traffic operation (by simp [here])
    · intro command reported
      obtain ⟨-, text, heard, member, has, -⟩ :=
        drives.exists_line_of_expired ordered patient lasts here reported
      have contact : Operation.contact? (.line text heard) = some heard :=
        Operation.contact?_eq_some_iff.mpr (.inr ⟨text, rfl, has⟩)
      rw [silent _ (List.mem_append_left _ member)] at contact
      cases contact
    · exact lasts.waiting since List.prefix_rfl

end

/-- While the peer is silent after a request, a tick that comes too late for that is the last thing
to happen on the connection. -/
theorem closed_of_overdue (drives : connection.Drives start) (ordered : Ordered connection.active)
    (hands : wait.acceptance.Hands wait.request wait.sent)
    (silent : ∀ operation ∈ wait.since, operation.contact? = none) {now : Instant}
    (split : connection.traffic = wait.history ++ .tick now :: after)
    (late : wait.sent + start.policy.livenessWindow < now) :
    let session := (start.run [.connecting connection.began]).run wait.history
    let reaction := (session.step (.tick now)).2
    after = [] ∧ (session.Spent ∧ reaction.stop = some exhaustionStop ∨
      ¬session.Spent ∧ reaction.stop = some "liveness timeout" ∧
        reaction.outputs = [.offline "connection timed out"]) := by
  intro session reaction
  have calm := drives.calm_before split
  rw [active, split, ← List.cons_append] at ordered
  have heard : session.health.lastMessageAt ≤ wait.sent := by
    by_contra later
    obtain ⟨operation, member, contact⟩ := Wait.exists_contact_since hands ordered.of_append_left
      calm.contact (Nat.not_le.mp later)
    rw [silent operation member] at contact
    cases contact
  have overdue : session.policy.livenessWindow <
      Instant.elapsed session.health.lastMessageAt now := by
    rw [Instant.lt_elapsed_iff, run_policy, run_policy]
    exact Nat.lt_of_le_of_lt (Nat.add_le_add_right heard _) late
  have ends := (step_transition session (.tick now)).of_overdue overdue
  have asked : reaction.stop.isSome := by
    rcases ends with ⟨-, stop⟩ | ⟨-, stop, -⟩ <;> rw [stop] <;> rfl
  exact ⟨drives.last_of_asked split asked, ends⟩

end Connection.Drives

/-- Let all the timeouts of a request together be no shorter than the silence that is tolerated, and
let the times of a connection not decrease. If a request expires on it, a line with the prefix has
arrived later than that request was accepted. If the peer is silent after a request, the request
waits and does not expire for as long as the connection lasts, and the first tick at which the
silence has lasted too long since the request is the last operation of the connection: it reports
the loss of the connection, or finds that the attempts have run out. -/
theorem contact_before_expiry (policy : SessionPolicy) (created : Instant)
    (patient : policy.livenessWindow ≤ (policy.maxRetries + 1) * policy.ackTimeout)
    {earlier later : List Connection} {connection : Connection}
    (driven : (new policy created).EngineDriven (earlier ++ connection :: later))
    (ordered : Ordered connection.active) :
    let opened := ((new policy created).run (earlier.flatMap Connection.operations)).run
      [.connecting connection.began]
    (∀ before last after command, connection.traffic = before ++ last :: after →
      .requestExpired command ∈ ((opened.run before).step last).2.outputs →
        ∃ wait : Wait, wait.history = before ∧ wait.Lasts opened ∧
          (∀ other : Wait, other.history = before → other.Lasts opened → other = wait) ∧
          command = wait.request.command ∧ ∃ text heard, .line text heard ∈ wait.since ∧
            linePrefix.toList.isPrefixOf text.toList ∧ wait.sent < heard) ∧
    ∀ (wait : Wait) after, connection.traffic = wait.history ++ after →
      (opened.run wait.before).Accepts wait.acceptance wait.request wait.sent →
      (∀ operation ∈ wait.since, operation.contact? = none) →
        wait.Lasts opened ∧
        (∀ command, .requestExpired command ∉
          ((opened.run wait.before).step wait.acceptance).1.events wait.since) ∧
        ∀ now rest, after = .tick now :: rest → wait.sent + policy.livenessWindow < now →
          let session := opened.run wait.history
          let reaction := (session.step (.tick now)).2
          rest = [] ∧ (session.Spent ∧ reaction.stop = some exhaustionStop ∨
            ¬session.Spent ∧ reaction.stop = some "liveness timeout" ∧
              reaction.outputs = [.offline "connection timed out"]) := by
  intro opened
  have drives := (engineDriven_append.mp driven).2.1
  have same : ((new policy created).run (earlier.flatMap Connection.operations)).policy = policy :=
    run_policy _ _
  refine ⟨?_, ?_⟩
  · intro before last after command split reported
    have fresh : opened.pending = none := enter_pending _ _
    obtain ⟨_, _, -, found, -⟩ := (step_transition _ last).of_expired reported
    have waiting : (opened.run before).pending.isSome := by rw [found, Option.isSome_some]
    obtain ⟨wait, rfl, lasts⟩ := Wait.exists_lasts fresh waiting
    obtain ⟨named, line⟩ :=
      drives.exists_line_of_expired ordered (by rwa [same]) lasts split reported
    exact ⟨wait, rfl, lasts, fun other reached again => again.unique lasts reached, named, line⟩
  · intro wait after split accepts silent
    have lasts := drives.lasts_of_silent ordered (by rwa [same]) accepts split silent
    refine ⟨lasts, not_expired_of_waiting fun _ => lasts.pending_isSome, ?_⟩
    rintro now rest rfl late
    exact drives.closed_of_overdue ordered accepts.1 silent split (by rwa [same])

/-- On the first connection the login expires, since the peer greeted meanwhile. On the second one
it does not: there the silence ends the connection. -/
theorem contact_before_expiry_login :
    let policy : SessionPolicy := { ackTimeout := Duration.ofSecs 10, maxRetries := 0 }
    let login : Request := ⟨"LOGIN___", "BJ:LOGIN___:bob\n", true⟩
    let before : List Operation := [.request login 1000000000, .line "BJ:WELCOME_" 5000000000]
    let greeted : Connection := ⟨0, before ++ [.tick 11000000001], .peerClosed⟩
    let wait : Wait := ⟨[], .request login 13000000000, login, 13000000000, []⟩
    let silent : Connection :=
      ⟨12000000000, wait.history ++ [.tick 23000000001], .protocol "liveness timeout"⟩
    let opened := ((new policy 0).run greeted.operations).run [.connecting silent.began]
    policy.livenessWindow ≤ (policy.maxRetries + 1) * policy.ackTimeout ∧
    (new policy 0).EngineDriven [greeted, silent] ∧
    Ordered greeted.active ∧ Ordered silent.active ∧
    .requestExpired "LOGIN___" ∈
      (((new policy 0).run (.connecting 0 :: before)).step (.tick 11000000001)).2.outputs ∧
    (∃ expired : Wait, expired.history = before ∧
      ∃ text heard, .line text heard ∈ expired.since ∧ expired.sent < heard) ∧
    wait.Lasts opened ∧ ((opened.run wait.history).step (.tick 23000000001)).2.stop =
      some "liveness timeout" := by
  intro policy login before greeted wait silent opened
  have patient : policy.livenessWindow ≤ (policy.maxRetries + 1) * policy.ackTimeout := by decide
  have driven : (new policy 0).EngineDriven [greeted, silent] := by
    refine ⟨⟨by decide, by decide, fun asked => absurd asked (by decide), ?_⟩,
      ⟨by decide, by decide, fun _ => ⟨_, rfl⟩, fun _ => by decide⟩, trivial⟩
    rintro ⟨reason, same⟩
    cases same
  have first : Ordered greeted.active := by decide
  have second : Ordered silent.active := by decide
  have reported : .requestExpired "LOGIN___" ∈
      (((new policy 0).run (.connecting 0 :: before)).step (.tick 11000000001)).2.outputs := by
    decide
  have accepts : (opened.run wait.before).Accepts wait.acceptance wait.request wait.sent :=
    ⟨.inr rfl, rfl, _, rfl⟩
  have opening : (new policy 0).EngineDriven ([] ++ greeted :: [silent]) := driven
  have closing : (new policy 0).EngineDriven ([greeted] ++ silent :: []) := driven
  have begun : ((new policy 0).run ([greeted].flatMap Connection.operations)).run
      [.connecting silent.began] = opened := by
    rw [List.flatMap_singleton]
  obtain ⟨expiry, -⟩ := contact_before_expiry policy 0 patient opening first
  obtain ⟨-, silence⟩ := contact_before_expiry policy 0 patient closing second
  rw [begun] at silence
  obtain ⟨expired, reached, -, -, -, text, heard, since, -, later⟩ :=
    expiry before (.tick 11000000001) [] _ rfl reported
  obtain ⟨lasts, -, overdue⟩ := silence wait [.tick 23000000001] rfl accepts (by simp [wait])
  obtain ⟨-, ⟨spent, -⟩ | ⟨-, stop, -⟩⟩ := overdue _ _ rfl (by decide)
  · exact absurd spent (by decide)
  · exact ⟨patient, driven, first, second, reported,
      ⟨expired, reached, text, heard, since, later⟩, lasts, stop⟩

end Blackjack.Session
