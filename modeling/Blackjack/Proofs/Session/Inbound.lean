import Blackjack.Proofs.Session.Exchange
import Blackjack.Proofs.Session.Retry
import Blackjack.Proofs.Wire.Frame

/-!
# What becomes of the peer's lines

A line with the prefix is a heartbeat, which is answered, or it is passed on to the consumer, just
once and with nothing queued. No other operation passes anything on, so the messages that the
consumer gets are the frames of these lines in the order in which they arrived. Passing a line on
and ending a wait are two things: an answer does both where a request waits, and only the first
where none does.
-/

namespace Blackjack

/-- The frame of a message. -/
def SessionEvent.message? : SessionEvent → Option Frame
  | message frame => some frame
  | offline _ | fatal _ | requestExpired _ | rejected _ _ => none

namespace Frame

/-- The command says that a request succeeded or failed: `ACK` or `NACK`, alone or before an
underscore. -/
def IsAnswer (frame : Frame) : Prop :=
  (frame.command = "ACK" ∨ "ACK_".toList <+: frame.command.toList) ∨
    (frame.command = "NACK" ∨ "NACK_".toList <+: frame.command.toList)

/-- A word is all that stands before the first underscore if nothing or an underscore follows it. -/
theorem takeWhile_eq_iff {word text : List Char} (plain : '_' ∉ word) :
    text.takeWhile (· ≠ '_') = word ↔ text = word ∨ word ++ ['_'] <+: text := by
  constructor
  · rintro rfl
    have whole : text.takeWhile (· ≠ '_') ++ text.dropWhile (· ≠ '_') = text :=
      List.takeWhile_append_dropWhile
    cases rest : text.dropWhile (· ≠ '_') with
    | nil => exact .inl (by rw [rest, List.append_nil] at whole; exact whole.symm)
    | cons c later =>
      have stopped := List.head?_dropWhile_not (· ≠ '_') text
      rw [rest] at stopped whole
      obtain rfl : c = '_' := by simpa using stopped
      exact .inr ⟨later, by simpa using whole⟩
  · have inside : ∀ c ∈ word, decide (c ≠ '_') = true := fun c member =>
      decide_eq_true fun same => plain (same ▸ member)
    rintro (rfl | ⟨later, rfl⟩)
    · exact List.takeWhile_eq_self_iff.mpr inside
    · rw [List.append_assoc, List.takeWhile_append_of_pos inside]
      simp

/-- The lines that hold a frame are those with the prefix. -/
theorem exists_decode_iff {text : String} :
    (∃ frame, decode text = .ok frame) ↔ linePrefix.toList <+: text.toList := by
  simp only [decode_eq_ok_iff]
  constructor
  · rintro ⟨frame, content, same, -⟩
    exact ⟨content, same.symm⟩
  · rintro ⟨content, same⟩
    exact ⟨_, content, same.symm, splits_ofContent _⟩

variable {frame : Frame}

theorem classify_heartbeat_iff : frame.classify = .heartbeat ↔ frame.command = ping := by
  unfold classify
  split
  · next same => simp [same]
  · next other => split <;> simp [other]

theorem isAnswer_iff :
    frame.IsAnswer ↔ String.ofList (frame.command.toList.takeWhile (· ≠ '_')) = "ACK" ∨
      String.ofList (frame.command.toList.takeWhile (· ≠ '_')) = "NACK" := by
  have word (token : String) (plain : '_' ∉ token.toList) :
      String.ofList (frame.command.toList.takeWhile (· ≠ '_')) = token ↔
        frame.command = token ∨ token.toList ++ ['_'] <+: frame.command.toList := by
    rw [← String.toList_inj, String.toList_ofList, takeWhile_eq_iff plain, String.toList_inj]
  rw [word "ACK" (by decide), word "NACK" (by decide)]
  rfl

theorem classify_answer_iff : frame.classify = .ack ∨ frame.classify = .nack ↔ frame.IsAnswer := by
  rw [isAnswer_iff]
  unfold classify
  split
  · next same => simp [same, ping]
  · split <;> simp_all

end Frame

namespace Session

/-- The frame of an inbound line, if the line has the prefix. -/
def Operation.inbound? : Operation → Option Frame
  | line text _ => (Frame.decode text).toOption
  | _ => none

/-- The operation is a line, with the prefix or without it. -/
def Operation.isLine : Operation → Bool
  | line _ _ => true
  | _ => false

/-- The frames that the lines of a history queue, oldest first. -/
def replies (session : Session) : List Operation → List (List UInt8)
  | [] => []
  | operation :: later =>
    (if operation.isLine then queuedFrames (session.step operation).2 else []) ++
      (session.step operation).1.replies later

theorem filterMap_inbound?_cons (operation : Operation) (later : List Operation) :
    (operation :: later).filterMap Operation.inbound? =
      operation.inbound?.toList ++ later.filterMap Operation.inbound? := by
  cases arrived : operation.inbound? <;> simp [arrived]

section Step

variable {session next : Session} {operation : Operation} {reaction : Reaction SessionEvent}

/-- The frame of a line is passed on, unless the line is a heartbeat, and nothing else is. -/
theorem Transition.messages_eq (transition : Transition session operation next reaction) :
    reaction.outputs.filterMap SessionEvent.message? =
      operation.inbound?.toList.filter fun frame => frame.command ≠ Frame.ping := by
  cases transition with
  | tolerated invalid | condemned invalid =>
    simp [Operation.inbound?, invalid, Except.toOption, SessionEvent.message?]
  | heartbeat valid probe =>
    simp [Operation.inbound?, valid, Except.toOption, Frame.classify_heartbeat_iff.mp probe]
  | @resolved text now frame valid answer =>
    have other : frame.command ≠ Frame.ping := fun same => by
      simp [Frame.classify_heartbeat_iff.mpr same] at answer
    simp [Operation.inbound?, valid, Except.toOption, SessionEvent.message?, other]
  | forwarded valid silent =>
    have other := Frame.classify_heartbeat_iff.not.mp silent
    simp [Operation.inbound?, valid, Except.toOption, SessionEvent.message?, other]
  | fired hands | accepted hands =>
    rcases hands with rfl | rfl <;> simp [Operation.inbound?]
  | _ => simp [Operation.inbound?, SessionEvent.message?]

variable {text : String} {now : Instant}

/-- A heartbeat is answered, and no other line queues anything. -/
theorem Transition.queuedFrames_line (transition : Transition session (.line text now) next reaction) :
    queuedFrames reaction =
      ((Operation.line text now).inbound?.toList.filter fun frame => frame.command = Frame.ping).map
        fun _ => Text.encode "BJ:PONG____\n".toList := by
  cases transition with
  | tolerated invalid | condemned invalid =>
    simp [Operation.inbound?, invalid, Except.toOption, queuedFrames]
  | heartbeat valid probe =>
    have answered : Link.wireBytes (linePrefix ++ Frame.pong) =
        Text.encode "BJ:PONG____\n".toList := by decide
    simp [Operation.inbound?, valid, Except.toOption, Frame.classify_heartbeat_iff.mp probe,
      queuedFrames, answered]
  | @resolved _ _ frame valid answer =>
    have other : frame.command ≠ Frame.ping := fun same => by
      simp [Frame.classify_heartbeat_iff.mpr same] at answer
    simp [Operation.inbound?, valid, Except.toOption, other, queuedFrames]
  | forwarded valid silent =>
    have other := Frame.classify_heartbeat_iff.not.mp silent
    simp [Operation.inbound?, valid, Except.toOption, other, queuedFrames]
  | fired hands | accepted hands => rcases hands with same | same <;> cases same

/-- A heartbeat tells the consumer nothing, and clears the count of lost cycles. -/
theorem Transition.of_heartbeat (transition : Transition session (.line text now) next reaction)
    {frame : Frame} (valid : Frame.decode text = .ok frame) (probe : frame.command = Frame.ping) :
    reaction.outputs = [] ∧ next.health.reconnectAttempts = 0 := by
  cases transition with
  | tolerated invalid | condemned invalid => simp [invalid] at valid
  | heartbeat => exact ⟨rfl, rfl⟩
  | resolved other answer =>
    obtain rfl := Except.ok.inj (other.symm.trans valid)
    simp [Frame.classify_heartbeat_iff.mpr probe] at answer
  | forwarded other silent =>
    obtain rfl := Except.ok.inj (other.symm.trans valid)
    exact absurd (Frame.classify_heartbeat_iff.mpr probe) silent
  | fired hands | accepted hands => rcases hands with same | same <;> cases same

/-- No request waits after an answer, and every other line leaves the pending request as it is. -/
theorem Transition.pending_line (transition : Transition session (.line text now) next reaction) :
    ((∃ frame, Frame.decode text = .ok frame ∧ frame.IsAnswer) → next.pending = none) ∧
      (¬(∃ frame, Frame.decode text = .ok frame ∧ frame.IsAnswer) →
        next.pending = session.pending) := by
  simp only [← Frame.classify_answer_iff]
  cases transition with
  | tolerated invalid | condemned invalid => simp [invalid, discredited]
  | heartbeat valid probe => simp [valid, probe]
  | resolved valid answer => simp [valid, answer]
  | forwarded valid silent unrelated => simpa [valid, refreshed] using unrelated
  | fired hands | accepted hands => rcases hands with same | same <;> cases same

/-- Where no request waits, a line changes no state. -/
theorem Transition.state_line (transition : Transition session (.line text now) next reaction)
    (vacant : session.pending = none) :
    next.state = session.state ∧ next.watch = session.watch := by
  cases transition with
  | resolved _ _ waiting => simp [vacant] at waiting
  | fired hands | accepted hands => rcases hands with same | same <;> cases same
  | _ => exact ⟨rfl, rfl⟩

end Step

section Run

variable (start : Session) (history : List Operation)

theorem filterMap_message?_events :
    (start.events history).filterMap SessionEvent.message? =
      (history.filterMap Operation.inbound?).filter fun frame => frame.command ≠ Frame.ping := by
  induction history generalizing start with
  | nil => rfl
  | cons operation later ih =>
    rw [events_cons, List.filterMap_append, ih, (step_transition start operation).messages_eq,
      filterMap_inbound?_cons, List.filter_append]

theorem replies_eq :
    start.replies history =
      ((history.filterMap Operation.inbound?).filter fun frame => frame.command = Frame.ping).map
        fun _ => Text.encode "BJ:PONG____\n".toList := by
  induction history generalizing start with
  | nil => rfl
  | cons operation later ih =>
    rw [replies, ih, filterMap_inbound?_cons, List.filter_append, List.map_append]
    refine congrArg (· ++ _) ?_
    cases operation with
    | line text now => exact (step_transition start (.line text now)).queuedFrames_line
    | connecting | submit | request | tick | stopped => rfl

end Run

/-- In every history of every session, the messages that the consumer gets are the frames of the
lines with the prefix that are no heartbeats, each once and in the order of the lines, and all that
lines queue is one `PONG` for each heartbeat. A heartbeat tells the consumer nothing and clears the
count of lost cycles. A request that waits is resolved by the lines that hold an answer and by no
other, and where none waits a line changes no state. -/
theorem lines_forwarded (start : Session) (history : List Operation) :
    (start.events history).filterMap SessionEvent.message? =
      (history.filterMap Operation.inbound?).filter (fun frame => frame.command ≠ Frame.ping) ∧
    start.replies history =
      ((history.filterMap Operation.inbound?).filter fun frame => frame.command = Frame.ping).map
        (fun _ => Text.encode "BJ:PONG____\n".toList) ∧
    (∀ text, (∃ frame, Frame.decode text = .ok frame) ↔ linePrefix.toList <+: text.toList) ∧
    ∀ before text now after, history = before ++ .line text now :: after →
      let session := start.run before
      let next := (session.step (.line text now)).1
      let reaction := (session.step (.line text now)).2
      (∀ frame, Frame.decode text = .ok frame → frame.command = Frame.ping →
        reaction.outputs = [] ∧ next.health.reconnectAttempts = 0) ∧
      (session.pending.isSome → (next.pending = none ↔
        ∃ frame, Frame.decode text = .ok frame ∧ frame.IsAnswer)) ∧
      (session.pending = none → next.state = session.state ∧ next.watch = session.watch) := by
  refine ⟨filterMap_message?_events start history, replies_eq start history,
    fun text => Frame.exists_decode_iff, ?_⟩
  intro before text now after _ session next reaction
  have transition : Transition session (.line text now) next reaction :=
    step_transition session (.line text now)
  refine ⟨fun frame valid probe => transition.of_heartbeat valid probe, fun waiting => ?_,
    transition.state_line⟩
  obtain ⟨resolved, kept⟩ := transition.pending_line
  refine ⟨fun vacant => ?_, resolved⟩
  by_contra other
  rw [← kept other, vacant] at waiting
  cases waiting

/-- While the login waits, a heartbeat with arguments, a word that only begins like an answer, a line
in lower case and the answer arrive, and a late answer after that. -/
theorem lines_forwarded_login :
    let login : Request := ⟨"LOGIN___", "BJ:LOGIN___:bob\n", true⟩
    let before : List Operation := [.connecting 0, .request login 0, .line "BJ: PING____:7" 1,
      .line "BJ:ACKS" 2, .line "bj:ACK" 3]
    let answer : Operation := .line "BJ:ACK__NIC:bob;100\r" 4
    let late : Operation := .line "BJ:NACK" 5
    ((new {} 0).events (before ++ [answer, late])).filterMap SessionEvent.message? =
      [⟨"ACKS", none⟩, ⟨"ACK__NIC", some "bob;100"⟩, ⟨"NACK", none⟩] ∧
    (new {} 0).replies (before ++ [answer, late]) = [Text.encode "BJ:PONG____\n".toList] ∧
    ((new {} 0).run before).pendingCommand = some "LOGIN___" ∧
    (((new {} 0).run before).step answer).1.pending = none ∧
    (((new {} 0).run (before ++ [answer])).step late).1.state = .idle := by
  intro login before answer late
  obtain ⟨messages, replies, -, lines⟩ := lines_forwarded (new {} 0) (before ++ [answer, late])
  obtain ⟨-, resolves, -⟩ := lines before _ _ [late] rfl
  obtain ⟨-, -, unchanged⟩ := lines (before ++ [answer]) "BJ:NACK" 5 [] rfl
  have waits : ((new {} 0).run before).pendingCommand = some "LOGIN___" := by decide
  have resolved : (((new {} 0).run before).step answer).1.pending = none := by
    refine (resolves (by decide)).mpr ⟨⟨"ACK__NIC", some "bob;100"⟩, by decide, ?_⟩
    exact .inl (.inr (by decide))
  refine ⟨?_, ?_, waits, resolved, ?_⟩
  · rw [messages]
    decide
  · rw [replies]
    decide
  · rw [(unchanged (by decide)).1]
    decide

end Session

end Blackjack
