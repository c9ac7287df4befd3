import Blackjack.Proofs.Session.Omission
import Blackjack.Proofs.Session.Recount
import Mathlib.Data.List.DropRight

/-!
# Lines without the prefix

A line without the prefix counts against the peer until the next contact with it. The line that
makes the count exceed what is tolerated is reported, once per connection, and asks for its end.
Apart from that nobody but the count notices such lines: a history in which none is reported goes
the same way without them.
-/

namespace Blackjack

/-- What the consumer is told when too many lines in a row lacked the prefix. -/
def SessionEvent.condemnation : SessionEvent := .fatal "Detected invalid messages from server"

namespace Session

namespace Operation

/-- A line arrived that lacks the prefix. -/
def isInvalidLine : Operation → Bool
  | line text _ => !linePrefix.toList.isPrefixOf text.toList
  | _ => false

theorem isInvalidLine_of_valid {text : String} {frame : Frame}
    (valid : Frame.decode text = .ok frame) (now : Instant) :
    (line text now).isInvalidLine = false := by
  have contact := contact?_of_valid valid now
  simp_all [contact?, isInvalidLine]

theorem isInvalidLine_of_invalid {text : String} {failure : FrameError}
    (invalid : Frame.decode text = .error failure) (now : Instant) :
    (line text now).isInvalidLine = true := by
  have contact := contact?_of_invalid invalid now
  cases judged : linePrefix.toList.isPrefixOf text.toList <;> simp_all [contact?, isInvalidLine]

theorem contact?_of_isInvalidLine {operation : Operation} (invalid : operation.isInvalidLine) :
    operation.contact? = none := by
  cases operation with
  | line text now => simp_all [isInvalidLine, contact?]
  | connecting | submit | request | tick | stopped => cases invalid

end Operation

/-- The lines without the prefix since the last contact with the peer. -/
def invalidStreak (history : List Operation) : Nat :=
  (history.rtakeWhile fun operation => operation.contact?.isNone).countP Operation.isInvalidLine

/-- Too many lines without the prefix were reported since the last connection attempt began. -/
def Condemned (start : Session) (history : List Operation) : Prop :=
  Operation.Since
    (fun before operation =>
      SessionEvent.condemnation ∈ ((start.run before).step operation).2.outputs)
    Operation.IsConnecting history

theorem Condemned.told {start : Session} {history : List Operation}
    (condemned : Condemned start history) : .condemnation ∈ start.events history := by
  obtain ⟨before, operation, after, split, tells, -⟩ := condemned
  exact mem_events_iff.mpr ⟨before, operation, after, split, tells⟩

/-- The last operation is a line to report: it lacks the prefix, as have more lines in a row than
are tolerated, and none was reported on this connection. -/
def Condemns (start : Session) (history : List Operation) (last : Operation) : Prop :=
  last.isInvalidLine ∧ start.policy.maxInvalidLines < invalidStreak (history ++ [last]) ∧
    ¬Condemned start history

theorem invalidStreak_concat (history : List Operation) (last : Operation) :
    invalidStreak (history ++ [last]) =
      if last.contact?.isSome then 0
      else invalidStreak history + if last.isInvalidLine then 1 else 0 := by
  unfold invalidStreak
  rw [List.rtakeWhile_concat]
  cases last.contact? with
  | some contact => rfl
  | none => simp [List.countP_append, List.countP_singleton]

/-! ## The count and the report -/

section Step

variable {session next : Session} {operation : Operation} {reaction : Reaction SessionEvent}

/-- Contact with the peer clears the count, and a line without the prefix adds to it. -/
theorem Transition.invalidLines_eq (transition : Transition session operation next reaction) :
    next.health.invalidLines =
      if operation.contact?.isSome then 0
      else session.health.invalidLines + if operation.isInvalidLine then 1 else 0 := by
  cases transition with
  | connected => simp [connecting, Operation.contact?]
  | tolerated invalid | condemned invalid =>
    simp [Operation.contact?_of_invalid invalid, Operation.isInvalidLine_of_invalid invalid,
      discredited]
  | heartbeat valid | resolved valid | forwarded valid =>
    simp [Operation.contact?_of_valid valid, refreshed]
  | fired hands | accepted hands =>
    rcases hands with rfl | rfl <;> simp [Operation.contact?, Operation.isInvalidLine]
  | _ => simp [Operation.contact?, Operation.isInvalidLine]

/-- Too many lines without the prefix are reported by the line that is one too many, unless they
have been reported before. -/
theorem Transition.condemnation_mem_iff (transition : Transition session operation next reaction) :
    SessionEvent.condemnation ∈ reaction.outputs ↔ operation.isInvalidLine ∧
      session.policy.maxInvalidLines < session.health.invalidLines + 1 ∧
      session.invalidReported = false := by
  cases transition with
  | tolerated invalid tolerable =>
    simpa [Operation.isInvalidLine_of_invalid invalid] using tolerable
  | condemned invalid exceeded first =>
    simp [Operation.isInvalidLine_of_invalid invalid, exceeded, first, SessionEvent.condemnation]
  | heartbeat valid | resolved valid | forwarded valid =>
    simp [Operation.isInvalidLine_of_valid valid, SessionEvent.condemnation]
  | fired hands | accepted hands => rcases hands with rfl | rfl <;> simp [Operation.isInvalidLine]
  | _ => simp [Operation.isInvalidLine, SessionEvent.condemnation]

/-- The report and the wish to stop for that reason come together. -/
theorem Transition.stop_eq_condemned_iff (transition : Transition session operation next reaction) :
    reaction.stop = some "too many invalid messages" ↔
      SessionEvent.condemnation ∈ reaction.outputs := by
  cases transition with
  | condemned => simp [SessionEvent.condemnation]
  | _ => simp [SessionEvent.condemnation]

/-- The report is remembered until the next connection attempt begins. -/
theorem Transition.invalidReported_iff (transition : Transition session operation next reaction) :
    next.invalidReported = true ↔ SessionEvent.condemnation ∈ reaction.outputs ∨
      ¬operation.IsConnecting ∧ session.invalidReported = true := by
  cases transition with
  | connected => simp [connecting, Operation.IsConnecting]
  | condemned => simp [SessionEvent.condemnation]
  | fired hands | accepted hands => rcases hands with rfl | rfl <;> simp [Operation.IsConnecting]
  | _ => simp [Operation.IsConnecting, discredited, refreshed, SessionEvent.condemnation]

/-- A line without the prefix that is not reported is counted, and that is all. -/
theorem Transition.of_tolerated (transition : Transition session operation next reaction)
    (invalid : operation.isInvalidLine)
    (untold : SessionEvent.condemnation ∉ reaction.outputs) :
    next = session.discredited ∧ reaction = .none := by
  cases transition with
  | tolerated => exact ⟨rfl, rfl⟩
  | condemned => simp [SessionEvent.condemnation] at untold
  | heartbeat valid | resolved valid | forwarded valid =>
    simp [Operation.isInvalidLine_of_valid valid] at invalid
  | fired hands | accepted hands => rcases hands with rfl | rfl <;> cases invalid
  | _ => cases invalid

end Step

section Run

variable (policy : SessionPolicy) (created : Instant) (history : List Operation)

theorem run_invalidLines :
    ((new policy created).run history).health.invalidLines = invalidStreak history := by
  induction history using List.reverseRecOn with
  | nil => rfl
  | append_singleton history last ih =>
    rw [run_concat, (step_transition _ last).invalidLines_eq, invalidStreak_concat, ih]

theorem run_invalidReported : ((new policy created).run history).invalidReported = true ↔
    Condemned (new policy created) history := by
  induction history using List.reverseRecOn with
  | nil => exact iff_of_false Bool.false_ne_true Operation.not_since_nil
  | append_singleton history last ih =>
    rw [run_concat, (step_transition _ last).invalidReported_iff, ih,
      Condemned, Condemned, Operation.since_concat]

theorem condemnation_mem_iff (last : Operation) :
    SessionEvent.condemnation ∈ (((new policy created).run history).step last).2.outputs ↔
      Condemns (new policy created) history last := by
  rw [(step_transition _ last).condemnation_mem_iff, run_policy, run_invalidLines,
    ← Bool.not_eq_true, run_invalidReported, Condemns]
  refine and_congr_right fun invalid => ?_
  rw [invalidStreak_concat, Operation.contact?_of_isInvalidLine invalid, invalid]
  rfl

end Run

/-! ## Histories without these lines -/

/-- Nothing is held against the peer, and the watch is as it was. -/
def Recount.trusting : Recount where
  lines := fun _ => 0
  writes := id
  lines_zero := rfl
  writes_succ := fun _ => rfl

/-- The session with no line held against the peer. -/
def trusted (session : Session) : Session :=
  { session with health := { session.health with invalidLines := 0 } }

/-- An operation that is not a line without the prefix does not look at the count. -/
theorem step_trusted (session : Session) {operation : Operation}
    (other : operation.isInvalidLine = false) :
    session.trusted.step operation = (session.step operation).map trusted id := by
  cases operation with
  | connecting now => exact Prod.ext (recounted_connecting .trusting session now) rfl
  | request request now => exact recounted_request .trusting session request now
  | tick now => exact recounted_tick .trusting session now
  | submit request now =>
    have same : session.trusted.submit request now =
        (session.submit request now).map (Prod.map trusted id) :=
      recounted_submit .trusting session request now
    simp only [step, same]
    cases session.submit request now <;> rfl
  | stopped cause =>
    have same : session.trusted.stopped cause = (session.stopped cause).map trusted id :=
      recounted_stopped .trusting session cause
    simp only [step, same]
    rfl
  | line text now =>
    simp only [step, line]
    cases decoded : Frame.decode text with
    | ok frame => exact recounted_validLine .trusting session frame now
    | error failure =>
      rw [Operation.isInvalidLine_of_invalid decoded now] at other
      cases other

/-- Where none is reported, a line without the prefix is counted, and that is all. -/
theorem step_of_untold {start : Session} {history before after : List Operation}
    {operation : Operation} (untold : .condemnation ∉ start.events history)
    (split : history = before ++ operation :: after) (invalid : operation.isInvalidLine) :
    (start.run before).step operation = ((start.run before).discredited, .none) := by
  have silent : .condemnation ∉ ((start.run before).step operation).2.outputs := fun tells =>
    untold (mem_events_iff.mpr ⟨before, operation, after, split, tells⟩)
  obtain ⟨counted, idle⟩ := (step_transition _ operation).of_tolerated invalid silent
  exact Prod.ext counted idle

/-- Nobody who does not look at the count notices that lines without the prefix are missing, unless
they were reported. -/
theorem unnoticed_invalidLines {start : Session} {history : List Operation}
    (untold : .condemnation ∉ start.events history) :
    Unnoticed trusted (fun _ => Operation.isInvalidLine) start history where
  omitted := by
    rintro before operation ⟨after, split⟩ invalid
    rw [List.append_assoc, List.singleton_append] at split
    rw [step_of_untold untold split.symm invalid]
    exact ⟨rfl, rfl⟩
  kept := by
    intro session other operation stays same
    have left := step_trusted other stays
    rw [same, step_trusted session stays] at left
    obtain ⟨next, reaction⟩ := Prod.ext_iff.mp left
    exact ⟨next.symm, reaction.symm⟩

/-- Too many lines without the prefix are reported, and end the connection for that reason, exactly
at a line that lacks it, if with this line more lines in a row lack it than are tolerated, and if
they have not been reported since the last connection attempt began. The lines in a row are those
since the last contact with the peer, be it a line with the prefix or the beginning of a connection,
whatever else came between them.

In a history without such a report, the lines without the prefix do nothing, and without them every
other operation does the same: it asks for the same and tells the same, and leaves the same session
but for the count of these lines. -/
theorem invalid_line_policy (policy : SessionPolicy) (created : Instant)
    (history : List Operation) :
    let start := new policy created
    (start.run history).health.invalidLines = invalidStreak history ∧
    (∀ last, let reaction := ((start.run history).step last).2
      (.condemnation ∈ reaction.outputs ↔ Condemns start history last) ∧
      (reaction.stop = some "too many invalid messages" ↔ Condemns start history last)) ∧
    (.condemnation ∉ start.events history →
      let thinned := List.filter fun operation => !operation.isInvalidLine
      ∀ before operation after, history = before ++ operation :: after →
        let here := start.run before
        let there := start.run (thinned before)
        there.trusted = here.trusted ∧
        (operation.isInvalidLine = true → thinned history = thinned before ++ thinned after ∧
          here.step operation = (here.discredited, .none)) ∧
        (operation.isInvalidLine = false →
          thinned history = thinned before ++ operation :: thinned after ∧
          (there.step operation).2 = (here.step operation).2 ∧
          (there.step operation).1.trusted = (here.step operation).1.trusted)) := by
  intro start
  have told := condemnation_mem_iff policy created history
  refine ⟨run_invalidLines policy created history, fun last => ⟨told last, ?_⟩, ?_⟩
  · rw [(step_transition _ last).stop_eq_condemned_iff]
    exact told last
  intro untold thinned before operation after split here there
  have unnoticed := unnoticed_invalidLines untold
  have part : before <+: history := ⟨_, split.symm⟩
  have left : start.omitting (fun _ => Operation.isInvalidLine) before = thinned before :=
    omitting_eq_filter _ start before
  refine ⟨?_, fun invalid => ⟨?_, ?_⟩, fun stays => ⟨?_, ?_⟩⟩
  · have same := (unnoticed.of_prefix part).view_run
    rwa [left] at same
  · simp [thinned, split, invalid]
  · exact step_of_untold untold split invalid
  · simp [thinned, split, stays]
  · have same := unnoticed.step split stays
    rw [left] at same
    exact same.symm

/-- Three stray lines do not keep the login from being sent again. A fourth one is reported,
although there was a tick between them. -/
theorem invalid_line_policy_stray :
    let login : Request := ⟨"LOGIN___", "BJ:LOGIN___:bob\n", true⟩
    let before : List Operation := [.connecting 0, .request login 0, .line "GET / HTTP/1.1" 1,
      .line "Host: bj" 2, .line "" 3]
    let resend : Operation := .tick 5000000001
    .condemnation ∉ (new {} 0).events (before ++ [resend]) ∧
    (((new {} 0).run [.connecting 0, .request login 0]).step resend).2 =
      (((new {} 0).run before).step resend).2 ∧
    (((new {} 0).run (before ++ [resend])).step (.line "?" 5000000002)).2.stop =
      some "too many invalid messages" := by
  intro login before resend
  have untold : .condemnation ∉ (new {} 0).events (before ++ [resend]) := by decide
  have condemns : Condemns (new {} 0) (before ++ [resend]) (.line "?" 5000000002) :=
    ⟨rfl, by decide, fun condemned => untold condemned.told⟩
  have thinned : before.filter (fun operation => !operation.isInvalidLine) =
      [.connecting 0, .request login 0] := by
    decide
  obtain ⟨-, reported, thin⟩ := invalid_line_policy {} 0 (before ++ [resend])
  obtain ⟨-, -, stays⟩ := thin untold before resend [] rfl
  obtain ⟨-, same, -⟩ := stays rfl
  rw [thinned] at same
  exact ⟨untold, same, (reported _).2.mpr condemns⟩

end Session

end Blackjack
