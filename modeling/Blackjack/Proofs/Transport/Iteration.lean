import Blackjack.Transport.Engine

/-!
# What one iteration of the loop brings

The trace of an iteration is a tick and what the wait after it brought, with the end of the
connection behind it if the loop ended. `Worker.Brings` says how a part of an iteration leaves the
loop: it goes on exactly if no callback asked for a stop and nothing else ended it, and a stop that
was asked for becomes the cause of the end. `iterate_brings` is the one statement about iterations
that everything later rests on, with `Protocol.Replays`: the trace alone determines what becomes of
the protocol's state.
-/

namespace Blackjack

/-- Why a loop ends by itself: for the reason that its protocol gave, or else by a fault. -/
def StopCause.Follows (cause : StopCause) : Option String → Prop
  | some reason => cause = .protocol reason
  | none => cause.isFault

namespace Occurrence

variable {Request Output : Type}

/-- The reason to stop that a callback gave. -/
def stop? : Occurrence Request Output → Option String
  | tick _ reaction | line _ _ reaction | request _ _ reaction => reaction.stop
  | connecting _ | dialed _ | established | received _ | forwarded _ | wrote _ | stopped _ _ => none

/-- The protocol was given a line. -/
def isLine : Occurrence Request Output → Bool
  | line _ _ _ => true
  | _ => false

/-- Work of a caller was taken up. -/
def isIngress : Occurrence Request Output → Bool
  | request _ _ _ | forwarded _ => true
  | _ => false

/-- The connection was dialled, established or written to. -/
def isSocket : Occurrence Request Output → Bool
  | dialed _ | established | wrote _ => true
  | _ => false

end Occurrence

namespace Trace

variable {Request Output : Type}

/-- The first reason to stop that a callback gave. -/
def asked (trace : Trace Request Output) : Option String := trace.findSome? Occurrence.stop?

@[simp] theorem asked_nil : asked ([] : Trace Request Output) = none := rfl

@[simp] theorem asked_cons (occurrence : Occurrence Request Output) (later : Trace Request Output) :
    asked (occurrence :: later) = occurrence.stop?.or (asked later) := by
  unfold asked
  rw [List.findSome?_cons]
  cases occurrence.stop? <;> rfl

@[simp] theorem asked_append (before after : Trace Request Output) :
    asked (before ++ after) = before.asked.or after.asked :=
  List.findSome?_append

/-- What one wait brings, but for the end of the connection: something about the socket, one read
with lines that it completed, or one batch of work. -/
inductive IsWait : Trace Request Output → Prop
  | socket {trace} (only : ∀ occurrence ∈ trace, occurrence.isSocket) : IsWait trace
  | read (bytes : List UInt8) {lines} (only : ∀ occurrence ∈ lines, occurrence.isLine) :
      IsWait (.received bytes :: lines)
  | batch {work} (only : ∀ occurrence ∈ work, occurrence.isIngress) : IsWait work

/-- After a callback has asked for a stop, nothing follows but the rest of its batch of work. -/
def Heeds (trace : Trace Request Output) : Prop :=
  ∀ before occurrence after, trace = before ++ occurrence :: after → occurrence.stop?.isSome →
    after = [] ∨ occurrence.isIngress ∧ ∀ later ∈ after, later.isIngress

namespace Heeds

theorem singleton (occurrence : Occurrence Request Output) : Heeds [occurrence] := by
  intro before asking after split _
  rw [eq_comm, List.append_eq_singleton_iff] at split
  rcases split with ⟨-, split⟩ | ⟨-, split⟩
  · exact .inl (List.cons.inj split).2
  · cases split

theorem cons {occurrence : Occurrence Request Output} {later : Trace Request Output}
    (unasked : occurrence.stop? = none) (heeds : Heeds later) : Heeds (occurrence :: later) := by
  intro before asking after split asks
  rcases List.cons_eq_append_iff.mp split with ⟨-, same⟩ | ⟨rest, -, same⟩
  · obtain ⟨rfl, -⟩ := List.cons.inj same
    simp [unasked] at asks
  · exact heeds rest asking after same asks

theorem append {before after : Trace Request Output} (unasked : before.asked = none)
    (heeds : after.Heeds) : Heeds (before ++ after) := by
  induction before with
  | nil => exact heeds
  | cons occurrence later ih =>
    rw [asked_cons, Option.or_eq_none_iff] at unasked
    exact (ih unasked.2).cons unasked.1

theorem of_ingress {work : Trace Request Output}
    (only : ∀ occurrence ∈ work, occurrence.isIngress) : Heeds work := by
  rintro before occurrence after rfl -
  refine .inr ⟨only occurrence (by simp), ?_⟩
  intro later member
  exact only later (by simp [member])

theorem of_unasked {trace : Trace Request Output} (unasked : trace.asked = none) :
    Heeds trace := by
  have none_left : Heeds ([] : Trace Request Output) := by simp [Heeds]
  have all := append unasked none_left
  rwa [List.append_nil] at all

end Heeds

end Trace

/-- One iteration of the loop: a tick, and what the wait after it brought. -/
structure Iteration (Request Output : Type) where
  now : Instant
  reaction : Reaction Output
  wait : Trace Request Output

namespace Iteration

variable {Request Output : Type}

def trace (iteration : Iteration Request Output) : Trace Request Output :=
  .tick iteration.now iteration.reaction :: iteration.wait

/-- The wait brings one thing, and what comes after a wish to stop is not delivered. -/
structure Orderly (iteration : Iteration Request Output) : Prop where
  wait : iteration.wait.IsWait
  heeds : iteration.trace.Heeds

end Iteration

namespace Protocol

variable {State Request Output : Type}

/-- The state after an occurrence. -/
def after (protocol : Protocol State Request Output) (state : State) :
    Occurrence Request Output → State
  | .connecting now => protocol.connecting state now
  | .tick now _ => (protocol.tick state now).1
  | .line text now _ => (protocol.line state text now).1
  | .request request now _ => (protocol.request state request now).1
  | .stopped cause _ => (protocol.stopped state cause).1
  | .dialed _ | .established | .received _ | .forwarded _ | .wrote _ => state

/-- What an occurrence records of a callback is what the callback gives. -/
def Answers (protocol : Protocol State Request Output) (state : State) :
    Occurrence Request Output → Prop
  | .tick now reaction => reaction = (protocol.tick state now).2
  | .line text now reaction => reaction = (protocol.line state text now).2
  | .request request now reaction => reaction = (protocol.request state request now).2
  | .stopped cause outputs => outputs = (protocol.stopped state cause).2
  | .connecting _ | .dialed _ | .established | .received _ | .forwarded _ | .wrote _ => True

/-- A trace leads the protocol from one state to another, and records what its callbacks give. -/
inductive Replays (protocol : Protocol State Request Output) :
    State → Trace Request Output → State → Prop
  | nil (state : State) : Replays protocol state [] state
  | cons {state final : State} {occurrence : Occurrence Request Output}
      {later : Trace Request Output} (answers : protocol.Answers state occurrence)
      (rest : Replays protocol (protocol.after state occurrence) later final) :
      Replays protocol state (occurrence :: later) final

theorem Replays.append {protocol : Protocol State Request Output} {start middle final : State}
    {before after : Trace Request Output} (first : protocol.Replays start before middle)
    (second : protocol.Replays middle after final) :
    protocol.Replays start (before ++ after) final := by
  induction first with
  | nil => exact second
  | cons answers _ ih => exact .cons answers (ih second)

/-- No callback fails. -/
structure Reliable (protocol : Protocol State Request Output) : Prop where
  tick : ∀ state now, (protocol.tick state now).2.crashed = false
  line : ∀ state text now, (protocol.line state text now).2.crashed = false
  request : ∀ state request now, (protocol.request state request now).2.crashed = false

end Protocol

namespace Worker

variable {State Request Output : Type} {protocol : Protocol State Request Output}
  {worker next : Worker State Request} {occurrence : Occurrence Request Output}
  {body : Trace Request Output} {result : Worker State Request × Trace Request Output}

theorem isLive_of_outcome (live : worker.outcome = none) : worker.isLive = true := by
  rw [isLive, live]
  rfl

/-- The loop after one occurrence, before it heeds a wish to stop. -/
structure Meets (protocol : Protocol State Request Output) (worker : Worker State Request)
    (occurrence : Occurrence Request Output) (next : Worker State Request) : Prop where
  answers : protocol.Answers worker.state occurrence
  state : next.state = protocol.after worker.state occurrence
  stop : next.link.stop = worker.link.stop.or occurrence.stop?
  outcome : next.outcome = none
  phase : next.phase = .opened ↔ worker.phase = .opened ∨ occurrence = .established

/-- A part of an iteration brought `body`. The loop goes on, and nobody has asked for a stop, or it
has ended, with the reason of the stop as its cause if one was asked for. -/
structure Brings (protocol : Protocol State Request Output) (worker : Worker State Request)
    (body : Trace Request Output) (result : Worker State Request × Trace Request Output) :
    Prop where
  leaves : (result.2 = body ∧ result.1.outcome = none ∧ result.1.link.stop = none ∧
      worker.link.stop.or body.asked = none) ∨
    ∃ cause outputs, result.2 = body ++ [.stopped cause outputs] ∧
      result.1.outcome = some (.ended cause) ∧ cause.Follows (worker.link.stop.or body.asked)
  replays : protocol.Replays worker.state result.2 result.1.state
  phase : result.1.phase = .opened ↔ worker.phase = .opened ∨ .established ∈ body

namespace Brings

/-- Nothing happens, and nobody has asked for a stop. -/
theorem idle (live : worker.outcome = none) (unasked : worker.link.stop = none) :
    Brings protocol worker [] (worker, []) where
  leaves := .inl ⟨rfl, live, unasked, by simp [unasked]⟩
  replays := .nil _
  phase := by simp

theorem close {cause : StopCause} (follows : cause.Follows worker.link.stop) :
    Brings protocol worker [] (worker.close protocol cause) where
  leaves := .inr ⟨cause, _, rfl, rfl, by simpa using follows⟩
  replays := .cons rfl (.nil _)
  phase := by simp [Worker.close]

/-- The connection is lost, and nobody has asked for a stop. -/
theorem lose {cause : StopCause} (unasked : worker.link.stop = none) (fault : cause.isFault) :
    Brings protocol worker [] (worker.close protocol cause) := by
  apply close
  rw [unasked]
  exact fault

theorem heed (live : worker.outcome = none) :
    Brings protocol worker [] (worker.heed protocol) := by
  unfold Worker.heed
  rw [if_pos (isLive_of_outcome live)]
  cases asked : worker.link.stop with
  | none => exact idle live asked
  | some reason =>
    apply close
    rw [asked]
    rfl

theorem cons (meets : Meets protocol worker occurrence next)
    (rest : Brings protocol next body result) :
    Brings protocol worker (occurrence :: body) (result.1, occurrence :: result.2) where
  leaves := by
    have same : worker.link.stop.or (Trace.asked (occurrence :: body)) =
        next.link.stop.or body.asked := by
      rw [meets.stop, Trace.asked_cons, Option.or_assoc]
    rw [same]
    rcases rest.leaves with ⟨trace, live, unasked, nobody⟩ | ⟨cause, outputs, trace, ended⟩
    · exact .inl ⟨by rw [trace], live, unasked, nobody⟩
    · exact .inr ⟨cause, outputs, by rw [trace]; rfl, ended⟩
  replays := .cons meets.answers (meets.state ▸ rest.replays)
  phase := by
    rw [rest.phase, meets.phase, List.mem_cons, or_assoc, eq_comm (a := occurrence)]

/-- One part of an iteration after another, if the loop still goes on. -/
theorem append {first second : Trace Request Output}
    {middle : Worker State Request × Trace Request Output}
    (before : Brings protocol worker first middle) (live : middle.1.outcome = none)
    (after : Brings protocol middle.1 second result) :
    Brings protocol worker (first ++ second) (result.1, middle.2 ++ result.2) := by
  have replays := before.replays.append after.replays
  rcases before.leaves with ⟨trace, -, unasked, nobody⟩ | ⟨cause, outputs, -, ended, -⟩
  · rw [trace] at replays ⊢
    have same : worker.link.stop.or (first ++ second).asked =
        middle.1.link.stop.or second.asked := by
      rw [Trace.asked_append, ← Option.or_assoc, nobody, unasked]
    refine ⟨?_, replays, ?_⟩
    · rw [same]
      rcases after.leaves with ⟨trace, leaves⟩ | ⟨cause, outputs, trace, ended⟩
      · exact .inl ⟨by rw [trace], leaves⟩
      · exact .inr ⟨cause, outputs, by rw [trace, List.append_assoc], ended⟩
    · rw [after.phase, before.phase, List.mem_append, or_assoc]
  · rw [live] at ended
    cases ended

end Brings

section Parts

/-- A callback answers, and its reaction is taken over. -/
theorem Meets.absorb {state : State} {reaction : Reaction Output} (live : worker.outcome = none)
    (answers : protocol.Answers worker.state occurrence)
    (state_eq : state = protocol.after worker.state occurrence)
    (stop : occurrence.stop? = reaction.stop) (sane : reaction.crashed = false)
    (other : occurrence ≠ .established) :
    Meets protocol worker occurrence (worker.absorb state reaction) where
  answers := answers
  state := state_eq
  stop := by
    rw [stop]
    simp only [Worker.absorb, Link.absorb]
    cases worker.link.stop <;> rfl
  outcome := by simp [Worker.absorb, sane, live]
  phase := by simp [Worker.absorb, other]

theorem heed_of_unasked (unasked : worker.link.stop = none) :
    worker.heed protocol = (worker, []) := by
  unfold heed
  split
  · rw [unasked]
  · rfl

theorem isLive_heed_of_asked {reason : String} (live : worker.outcome = none)
    (asked : worker.link.stop = some reason) : (worker.heed protocol).1.isLive = false := by
  unfold heed
  rw [if_pos (isLive_of_outcome live), asked]
  rfl

variable (reliable : protocol.Reliable)
include reliable

theorem tick_brings (live : worker.outcome = none) (now : Instant) :
    ∃ reaction, Brings protocol worker [.tick now reaction] (worker.tick protocol now) := by
  have meets : Meets protocol worker (.tick now (protocol.tick worker.state now).2)
      (worker.absorb (protocol.tick worker.state now).1 (protocol.tick worker.state now).2) :=
    .absorb live rfl rfl rfl (reliable.tick _ _) (by simp)
  exact ⟨_, .cons meets (.heed meets.outcome)⟩

/-- The lines of a read are delivered until one of them makes the protocol ask for a stop. -/
theorem deliver_brings (live : worker.outcome = none) (unasked : worker.link.stop = none)
    (clock : Nat → Instant) (texts : List String) :
    ∃ lines : Trace Request Output, (∀ occurrence ∈ lines, occurrence.isLine) ∧ lines.Heeds ∧
      Brings protocol worker lines (worker.deliver protocol clock texts) := by
  induction texts generalizing worker clock with
  | nil => exact ⟨[], by simp, .of_unasked rfl, .idle live unasked⟩
  | cons text later ih =>
    let reaction := (protocol.line worker.state text (clock 0)).2
    have meets : Meets protocol worker (.line text (clock 0) reaction)
        (worker.absorb (protocol.line worker.state text (clock 0)).1 reaction) :=
      .absorb live rfl rfl rfl (reliable.line _ _ _) (by simp)
    simp only [deliver]
    cases asked : reaction.stop with
    | none =>
      have quiet : (worker.absorb (protocol.line worker.state text (clock 0)).1
          reaction).link.stop = none := by
        rw [meets.stop, unasked]
        exact asked
      obtain ⟨lines, only, heeds, brings⟩ := ih meets.outcome quiet fun n => clock (n + 1)
      refine ⟨.line text (clock 0) reaction :: lines, ?_, heeds.cons asked, ?_⟩
      · simpa [Occurrence.isLine] using only
      · rw [heed_of_unasked quiet, if_pos (isLive_of_outcome meets.outcome)]
        exact .cons meets brings
    | some reason =>
      have wish : (worker.absorb (protocol.line worker.state text (clock 0)).1
          reaction).link.stop = some reason := by
        rw [meets.stop, unasked]
        exact asked
      refine ⟨[.line text (clock 0) reaction], by simp [Occurrence.isLine], .singleton _, ?_⟩
      rw [if_neg (Bool.eq_false_iff.mp (isLive_heed_of_asked meets.outcome wish))]
      exact .cons meets (.heed meets.outcome)

/-- A batch of work is taken up as a whole, and only then a wish to stop is heeded. -/
theorem collect_brings (live : worker.outcome = none) (clock : Nat → Instant)
    (items : List (Ingress Request)) :
    ∃ work : Trace Request Output, (∀ occurrence ∈ work, occurrence.isIngress) ∧
      Brings protocol worker work (worker.collect protocol clock items) := by
  induction items generalizing worker clock with
  | nil => exact ⟨[], by simp, .heed live⟩
  | cons item later ih =>
    cases item with
    | message text =>
      have meets : Meets protocol worker (.forwarded text)
          { worker with link := worker.link.send text } :=
        ⟨trivial, rfl, by simp [Link.send, Occurrence.stop?], live, by simp⟩
      obtain ⟨work, only, brings⟩ := ih meets.outcome clock
      exact ⟨.forwarded text :: work, by simpa [Occurrence.isIngress] using only,
        .cons meets brings⟩
    | request request =>
      let reaction := (protocol.request worker.state request (clock 0)).2
      have meets : Meets protocol worker (.request request (clock 0) reaction)
          (worker.absorb (protocol.request worker.state request (clock 0)).1 reaction) :=
        .absorb live rfl rfl rfl (reliable.request _ _ _) (by simp)
      obtain ⟨work, only, brings⟩ := ih meets.outcome fun n => clock (n + 1)
      refine ⟨.request request (clock 0) reaction :: work,
        by simpa [Occurrence.isIngress] using only, ?_⟩
      have goes_on := isLive_of_outcome meets.outcome
      simp only [collect]
      rw [if_pos goes_on]
      exact .cons meets brings

theorem receive_brings (live : worker.outcome = none) (unasked : worker.link.stop = none)
    (bytes : List UInt8) (clock : Nat → Instant) :
    ∃ body : Trace Request Output, body.IsWait ∧ body.Heeds ∧
      Brings protocol worker body (worker.receive protocol bytes clock) := by
  unfold receive
  split
  · exact ⟨[], .socket (by simp), .of_unasked rfl, .lose unasked rfl⟩
  · have meets (inbound : LineBuffer) :
        Meets protocol worker (.received bytes) { worker with inbound } :=
      ⟨trivial, rfl, by simp [Occurrence.stop?], live, by simp⟩
    rcases worker.inbound.push bytes with ⟨inbound, overlong | texts⟩
    · have alone : Trace.IsWait [(.received bytes : Occurrence Request Output)] :=
        .read bytes (by simp)
      exact ⟨_, alone, .singleton _, .cons (meets inbound) (.lose unasked rfl)⟩
    · obtain ⟨lines, only, heeds, brings⟩ :=
        deliver_brings reliable (meets inbound).outcome unasked clock texts
      exact ⟨.received bytes :: lines, .read bytes only, heeds.cons rfl,
        .cons (meets inbound) brings⟩

omit reliable in
theorem flush_brings (live : worker.outcome = none) (unasked : worker.link.stop = none)
    (answers : List Outbound.WriteAnswer) :
    ∃ bytes, Brings protocol worker [.wrote bytes] (worker.flush protocol answers) := by
  let result := Outbound.flush worker.link.outbound answers
  have meets : Meets protocol worker (.wrote result.written)
      { worker with link := { worker.link with outbound := result.waiting } } :=
    ⟨trivial, rfl, by simp [Occurrence.stop?], live, by simp⟩
  refine ⟨result.written, ?_⟩
  simp only [flush]
  split
  · exact .cons meets (.idle live unasked)
  · exact .cons meets (.lose unasked rfl)

/-- The wait of an iteration while the connection is open. -/
theorem serve_brings (live : worker.outcome = none) (unasked : worker.link.stop = none)
    (wakeup : Wakeup) :
    ∃ body : Trace Request Output, body.IsWait ∧ body.Heeds ∧
      Brings protocol worker body (worker.serve protocol wakeup) := by
  have idle : ∃ body : Trace Request Output, body.IsWait ∧ body.Heeds ∧
      Brings protocol worker body (worker, []) :=
    ⟨[], .socket (by simp), .of_unasked rfl, .idle live unasked⟩
  cases wakeup with
  | connected | unreachable | timer => exact idle
  | received bytes clock => exact receive_brings reliable live unasked bytes clock
  | unreadable reason =>
    exact ⟨[], .socket (by simp), .of_unasked rfl, .lose unasked rfl⟩
  | handedOver clock =>
    simp only [serve]
    split
    · exact idle
    · have taken : ({ worker with ingress := [] } : Worker State Request).outcome = none := live
      obtain ⟨work, only, brings⟩ := collect_brings reliable taken clock worker.ingress
      exact ⟨work, .batch only, .of_ingress only, ⟨brings.leaves, brings.replays, brings.phase⟩⟩
  | writable answers =>
    simp only [serve]
    split
    · exact idle
    · obtain ⟨bytes, brings⟩ :
          ∃ bytes, Brings protocol worker [.wrote bytes] (worker.flush protocol answers) :=
        flush_brings live unasked answers
      exact ⟨[.wrote bytes], .socket (by simp [Occurrence.isSocket]), .of_unasked rfl, brings⟩

omit reliable in
theorem dial_endpoint (wakeup : Wakeup) :
    (worker.dial protocol wakeup).1.endpoint = worker.endpoint := by
  cases wakeup <;> rfl

omit reliable in
/-- The wait of an iteration before the connection is open. -/
theorem dial_brings (live : worker.outcome = none) (unasked : worker.link.stop = none)
    (wakeup : Wakeup) :
    ∃ body : Trace Request Output, (∀ occurrence ∈ body, occurrence.isSocket) ∧
      body.asked = none ∧ Brings protocol worker body (worker.dial protocol wakeup) := by
  cases wakeup with
  | connected =>
    have meets : Meets protocol worker .established { worker with phase := .opened } :=
      ⟨trivial, rfl, by simp [Occurrence.stop?], live, by simp⟩
    exact ⟨[.established], by simp [Occurrence.isSocket], rfl, .cons meets (.idle live unasked)⟩
  | unreachable reason => exact ⟨[], by simp, rfl, .lose unasked rfl⟩
  | _ => exact ⟨[], by simp, rfl, .idle live unasked⟩

/-- The wait of an iteration. Lines and work come only while the connection is open. -/
theorem wait_brings (live : worker.outcome = none) (unasked : worker.link.stop = none)
    (wakeup : Wakeup) :
    ∃ body : Trace Request Output, body.IsWait ∧ body.Heeds ∧
      (worker.phase ≠ .opened → ∀ occurrence ∈ body, occurrence.isSocket) ∧
      Brings protocol worker body (worker.wait protocol wakeup) := by
  simp only [wait]
  cases phase : worker.phase with
  | opened =>
    obtain ⟨body, isWait, heeds, brings⟩ := serve_brings reliable live unasked wakeup
    exact ⟨body, isWait, heeds, by simp, brings⟩
  | dialing =>
    obtain ⟨body, only, nobody, brings⟩ := dial_brings live unasked wakeup
    exact ⟨body, .socket only, .of_unasked nobody, fun _ => only, brings⟩
  | undialed =>
    have meets : Meets protocol worker (.dialed worker.endpoint)
        { worker with phase := .dialing } :=
      ⟨trivial, rfl, by simp [Occurrence.stop?], live, by simp [phase]⟩
    have dialed : ∃ body : Trace Request Output, (∀ occurrence ∈ body, occurrence.isSocket) ∧
        body.asked = none ∧ Brings protocol { worker with phase := .dialing } body
          (dial protocol { worker with phase := .dialing } wakeup) :=
      dial_brings meets.outcome unasked wakeup
    obtain ⟨body, only, nobody, brings⟩ := dialed
    have all : ∀ occurrence ∈ .dialed worker.endpoint :: body, occurrence.isSocket := by
      simpa [Occurrence.isSocket] using only
    have unasked_all : (Trace.asked (.dialed worker.endpoint :: body)) = none := by
      simpa [Occurrence.stop?] using nobody
    refine ⟨_, .socket all, .of_unasked unasked_all, fun _ => all, ?_⟩
    simp only [dial_endpoint]
    exact .cons meets brings

/-- One iteration: a tick, and unless the protocol asked for a stop then, one wait. -/
theorem iterate_brings (live : worker.outcome = none) (now : Instant) (wakeup : Wakeup) :
    ∃ iteration : Iteration Request Output, iteration.now = now ∧ iteration.Orderly ∧
      (worker.phase ≠ .opened → ∀ occurrence ∈ iteration.wait, occurrence.isSocket) ∧
      Brings protocol worker iteration.trace (worker.iterate protocol now wakeup) := by
  obtain ⟨reaction, ticked⟩ := tick_brings reliable live now
  simp only [iterate]
  rw [if_pos (isLive_of_outcome live)]
  have kept : (worker.tick protocol now).1.phase = .opened ↔ worker.phase = .opened := by
    simpa using ticked.phase
  rcases ticked.leaves with ⟨-, goes_on, quiet, nobody⟩ | ⟨cause, outputs, -, ended, -⟩
  · obtain ⟨wait, isWait, heeds, closed, brings⟩ := wait_brings reliable goes_on quiet wakeup
    have unasked : reaction.stop = none := by
      simpa [Occurrence.stop?] using (Option.or_eq_none_iff.mp nobody).2
    refine ⟨⟨now, reaction, wait⟩, rfl, ⟨isWait, heeds.cons unasked⟩, ?_, ?_⟩
    · rwa [Ne, kept] at closed
    · rw [if_pos (isLive_of_outcome goes_on)]
      exact ticked.append goes_on brings
  · refine ⟨⟨now, reaction, []⟩, rfl, ⟨.socket (by simp), .singleton _⟩, by simp, ?_⟩
    rw [if_neg (by simp [isLive, ended])]
    exact ticked

end Parts

end Worker

end Blackjack
