import Blackjack.Proofs.Transport.Iteration

/-!
# What a loop can do, one occurrence at a time

`Motion` lists everything that the loop of a connection can do, with what it leaves in the trace and
what it makes of the worker: of its queue, of the bytes that it has read, and of the work that waits.
In the middle of an iteration the loop also holds lines that it has read and not delivered yet; a
`Moment` is a worker with these. An iteration is a course of such motions (`motions_iterate`), so
what each of them keeps is kept by everything that a loop does.
-/

namespace Blackjack.Worker

variable {State Request Output : Type}

/-- A worker in the middle of an iteration, with the lines that it has read and not delivered
yet. -/
structure Moment (State Request : Type) where
  worker : Worker State Request
  lines : List String

/-- The loop goes on, and nobody has asked it to stop. -/
structure Going (worker : Worker State Request) : Prop where
  live : worker.outcome = none
  unasked : worker.link.stop = none

/-- What goes wrong with a connection, but for a line that is too long. -/
inductive Mishap : StopCause → Prop
  | peerClosed : Mishap .peerClosed
  | unreachable (endpoint : Endpoint) (reason : String) :
      Mishap (.fault ("connect to " ++ endpoint.text ++ " failed: " ++ reason))
  | unreadable (reason : String) : Mishap (.fault ("read error: " ++ reason))
  | unwritable (reason : String) : Mishap (.fault ("write error: " ++ reason))

/-- What a loop can do, and what it leaves in the trace. -/
inductive Motion (protocol : Protocol State Request Output) :
    Moment State Request → Trace Request Output → Moment State Request → Prop
  | ticked {worker : Worker State Request} (going : worker.Going) (now : Instant) :
      Motion protocol ⟨worker, []⟩ [.tick now (protocol.tick worker.state now).2]
        ⟨worker.absorb (protocol.tick worker.state now).1 (protocol.tick worker.state now).2, []⟩
  | dialed {worker : Worker State Request} (going : worker.Going) :
      Motion protocol ⟨worker, []⟩ [.dialed worker.endpoint] ⟨{ worker with phase := .dialing }, []⟩
  | established {worker : Worker State Request} (going : worker.Going) :
      Motion protocol ⟨worker, []⟩ [.established] ⟨{ worker with phase := .opened }, []⟩
  /-- A read completes lines, which are held until they are delivered. -/
  | received {worker : Worker State Request} (going : worker.Going) {bytes : List UInt8}
      {inbound : LineBuffer} {texts : List String}
      (pushed : worker.inbound.push bytes = (inbound, .ok texts)) :
      Motion protocol ⟨worker, []⟩ [.received bytes] ⟨{ worker with inbound }, texts⟩
  /-- A read leaves too many bytes of an unterminated line, and the connection is lost. -/
  | overran {worker : Worker State Request} (going : worker.Going) {bytes : List UInt8}
      {inbound : LineBuffer} {failure : FrameError}
      (pushed : worker.inbound.push bytes = (inbound, .error failure)) :
      Motion protocol ⟨worker, []⟩
        (.received bytes :: (close protocol { worker with inbound } (.fault failure.message)).2)
        ⟨(close protocol { worker with inbound } (.fault failure.message)).1, []⟩
  | line {worker : Worker State Request} (going : worker.Going) (text : String)
      (later : List String) (now : Instant) :
      Motion protocol ⟨worker, text :: later⟩
        [.line text now (protocol.line worker.state text now).2]
        ⟨worker.absorb (protocol.line worker.state text now).1
          (protocol.line worker.state text now).2, later⟩
  /-- A message of a caller is taken up, even after a wish to stop. -/
  | forwarded {worker : Worker State Request} (live : worker.outcome = none) {text : String}
      {later : List (Ingress Request)} (first : worker.ingress = .message text :: later) :
      Motion protocol ⟨worker, []⟩ [.forwarded text]
        ⟨{ worker with link := worker.link.send text, ingress := later }, []⟩
  /-- A request of a caller is taken up, even after a wish to stop. -/
  | requested {worker : Worker State Request} (live : worker.outcome = none) {request : Request}
      {later : List (Ingress Request)} (first : worker.ingress = .request request :: later)
      (now : Instant) :
      Motion protocol ⟨worker, []⟩
        [.request request now (protocol.request worker.state request now).2]
        ⟨absorb { worker with ingress := later } (protocol.request worker.state request now).1
          (protocol.request worker.state request now).2, []⟩
  | wrote {worker : Worker State Request} (going : worker.Going)
      (answers : List Outbound.WriteAnswer) :
      Motion protocol ⟨worker, []⟩ [.wrote (Outbound.flush worker.link.outbound answers).written]
        ⟨{ worker with link := { worker.link with
          outbound := (Outbound.flush worker.link.outbound answers).waiting } }, []⟩
  /-- The protocol has asked for a stop, and what was not delivered never is. -/
  | obeyed {worker : Worker State Request} (live : worker.outcome = none) {reason : String}
      (asked : worker.link.stop = some reason) (lines : List String) :
      Motion protocol ⟨worker, lines⟩ (worker.close protocol (.protocol reason)).2
        ⟨(worker.close protocol (.protocol reason)).1, []⟩
  | lost {worker : Worker State Request} (going : worker.Going) {cause : StopCause}
      (mishap : Mishap cause) :
      Motion protocol ⟨worker, []⟩ (worker.close protocol cause).2
        ⟨(worker.close protocol cause).1, []⟩
  /-- A caller stops the loop between two iterations. -/
  | halted {worker : Worker State Request} (going : worker.Going) (reason : String) :
      Motion protocol ⟨worker, []⟩ (worker.close protocol (.requested reason)).2
        ⟨(worker.close protocol (.requested reason)).1, []⟩

/-- Motions one after another, with all that they leave in the trace. -/
inductive Motions (protocol : Protocol State Request Output) :
    Moment State Request → Trace Request Output → Moment State Request → Prop
  | nil (moment : Moment State Request) : Motions protocol moment [] moment
  | cons {moment next last : Moment State Request} {part later : Trace Request Output}
      (motion : Motion protocol moment part next) (rest : Motions protocol next later last) :
      Motions protocol moment (part ++ later) last

variable {protocol : Protocol State Request Output} {worker : Worker State Request}

namespace Motions

variable {moment next last : Moment State Request} {part later : Trace Request Output}

theorem single (motion : Motion protocol moment part next) : Motions protocol moment part next := by
  have motions := cons motion (.nil next)
  rwa [List.append_nil] at motions

theorem append (first : Motions protocol moment part next)
    (second : Motions protocol next later last) : Motions protocol moment (part ++ later) last := by
  induction first with
  | nil => exact second
  | cons motion _ ih =>
    rw [List.append_assoc]
    exact .cons motion (ih second)

end Motions

section Parts

/-- A worker that goes on has heeded nothing. -/
theorem heed_of_isLive (live : (worker.heed protocol).1.isLive) :
    worker.heed protocol = (worker, []) ∧ worker.Going := by
  have running : worker.outcome = none := by
    cases running : worker.outcome with
    | none => rfl
    | some outcome => simp [heed, isLive, running] at live
  cases asked : worker.link.stop with
  | none => exact ⟨heed_of_unasked asked, running, asked⟩
  | some reason => simp [isLive_heed_of_asked running asked] at live

/-- A wish to stop is heeded, and the loop holds nothing any more. -/
theorem motions_heed_of_ended {lines : List String} (live : worker.outcome = none)
    (ended : ¬(worker.heed protocol).1.isLive) :
    Motions protocol ⟨worker, lines⟩ (worker.heed protocol).2 ⟨(worker.heed protocol).1, []⟩ := by
  cases asked : worker.link.stop with
  | none =>
    rw [heed_of_unasked asked] at ended
    exact absurd (isLive_of_outcome live) ended
  | some reason =>
    have heeded : worker.heed protocol = worker.close protocol (.protocol reason) := by
      rw [heed, if_pos (isLive_of_outcome live), asked]
    rw [heeded]
    exact .single (.obeyed live asked lines)

theorem motions_heed (live : worker.outcome = none) :
    Motions protocol ⟨worker, []⟩ (worker.heed protocol).2 ⟨(worker.heed protocol).1, []⟩ := by
  by_cases goes_on : (worker.heed protocol).1.isLive
  · rw [(heed_of_isLive goes_on).1]
    exact .nil _
  · exact motions_heed_of_ended live goes_on

theorem outcome_absorb (live : worker.outcome = none) {state : State} {reaction : Reaction Output}
    (sane : reaction.crashed = false) : (worker.absorb state reaction).outcome = none := by
  simp [absorb, sane, live]

variable (reliable : protocol.Reliable)
include reliable

theorem motions_tick (going : worker.Going) (now : Instant) :
    Motions protocol ⟨worker, []⟩ (worker.tick protocol now).2 ⟨(worker.tick protocol now).1, []⟩ :=
  .cons (.ticked going now) (motions_heed (outcome_absorb going.live (reliable.tick _ _)))

/-- The lines of a read are delivered one by one. -/
theorem motions_deliver (going : worker.Going) (clock : Nat → Instant) (texts : List String) :
    Motions protocol ⟨worker, texts⟩ (worker.deliver protocol clock texts).2
      ⟨(worker.deliver protocol clock texts).1, []⟩ := by
  induction texts generalizing worker clock with
  | nil => exact .nil _
  | cons text later ih =>
    let absorbed := worker.absorb (protocol.line worker.state text (clock 0)).1
      (protocol.line worker.state text (clock 0)).2
    have live : absorbed.outcome = none := outcome_absorb going.live (reliable.line _ _ _)
    simp only [deliver]
    split
    · next goes_on =>
      obtain ⟨same, still⟩ := heed_of_isLive goes_on
      rw [same]
      exact .cons (.line going text later (clock 0)) (ih still _)
    · next ended =>
      exact .cons (.line going text later (clock 0)) (motions_heed_of_ended live ended)

theorem motions_receive (going : worker.Going) (bytes : List UInt8) (clock : Nat → Instant) :
    Motions protocol ⟨worker, []⟩ (worker.receive protocol bytes clock).2
      ⟨(worker.receive protocol bytes clock).1, []⟩ := by
  unfold receive
  split
  · exact .single (.lost going .peerClosed)
  · cases pushed : worker.inbound.push bytes with
    | mk inbound answer =>
      cases answer with
      | error failure => exact .single (.overran going pushed)
      | ok texts =>
        have still : ({ worker with inbound } : Worker State Request).Going :=
          ⟨going.live, going.unasked⟩
        exact .cons (.received going pushed) (motions_deliver reliable still clock texts)

/-- A batch of work is taken up as a whole, in order. -/
theorem motions_collect (live : worker.outcome = none) (clock : Nat → Instant)
    (items : List (Ingress Request)) :
    Motions protocol ⟨{ worker with ingress := items ++ worker.ingress }, []⟩
      (worker.collect protocol clock items).2 ⟨(worker.collect protocol clock items).1, []⟩ := by
  -- The loop takes a batch out of the queue at once; for a motion, what it has not come to waits.
  induction items generalizing worker clock with
  | nil => exact motions_heed live
  | cons item later ih =>
    cases item with
    | message text =>
      have still : ({ worker with link := worker.link.send text } :
        Worker State Request).outcome = none := live
      have here : ({ worker with ingress := .message text :: later ++ worker.ingress } :
        Worker State Request).outcome = none := live
      exact .cons (.forwarded here rfl) (ih still clock)
    | request request =>
      let absorbed := worker.absorb (protocol.request worker.state request (clock 0)).1
        (protocol.request worker.state request (clock 0)).2
      have still : absorbed.outcome = none := outcome_absorb live (reliable.request _ _ _)
      have here : ({ worker with ingress := .request request :: later ++ worker.ingress } :
        Worker State Request).outcome = none := live
      simp only [collect]
      rw [if_pos (isLive_of_outcome still)]
      exact .cons (.requested here rfl (clock 0)) (ih still _)

omit reliable in
theorem motions_flush (going : worker.Going) (answers : List Outbound.WriteAnswer) :
    Motions protocol ⟨worker, []⟩ (worker.flush protocol answers).2
      ⟨(worker.flush protocol answers).1, []⟩ := by
  have still : ({ worker with link := { worker.link with
      outbound := (Outbound.flush worker.link.outbound answers).waiting } } :
        Worker State Request).Going := ⟨going.live, going.unasked⟩
  simp only [flush]
  split
  · exact .single (.wrote going answers)
  · next reason _ => exact .cons (.wrote going answers) (.single (.lost still (.unwritable reason)))

theorem motions_serve (going : worker.Going) (wakeup : Wakeup) :
    Motions protocol ⟨worker, []⟩ (worker.serve protocol wakeup).2
      ⟨(worker.serve protocol wakeup).1, []⟩ := by
  cases wakeup with
  | connected | unreachable | timer => exact .nil _
  | received bytes clock => exact motions_receive reliable going bytes clock
  | unreadable reason => exact .single (.lost going (.unreadable reason))
  | handedOver clock =>
    simp only [serve]
    split
    · exact .nil _
    · have taken : ({ worker with ingress := [] } : Worker State Request).outcome = none :=
        going.live
      have motions := motions_collect reliable taken clock worker.ingress
      rwa [List.append_nil] at motions
  | writable answers =>
    simp only [serve]
    split
    · exact .nil _
    · exact motions_flush going answers

omit reliable in
theorem motions_dial (going : worker.Going) (wakeup : Wakeup) :
    Motions protocol ⟨worker, []⟩ (worker.dial protocol wakeup).2
      ⟨(worker.dial protocol wakeup).1, []⟩ := by
  cases wakeup with
  | connected => exact .single (.established going)
  | unreachable reason => exact .single (.lost going (.unreachable worker.endpoint reason))
  | _ => exact .nil _

theorem motions_wait (going : worker.Going) (wakeup : Wakeup) :
    Motions protocol ⟨worker, []⟩ (worker.wait protocol wakeup).2
      ⟨(worker.wait protocol wakeup).1, []⟩ := by
  simp only [wait]
  cases worker.phase with
  | opened => exact motions_serve reliable going wakeup
  | dialing => exact motions_dial going wakeup
  | undialed =>
    have still : ({ worker with phase := .dialing } : Worker State Request).Going :=
      ⟨going.live, going.unasked⟩
    simp only [dial_endpoint]
    exact .cons (.dialed going) (motions_dial still wakeup)

/-- An iteration is a course of motions. -/
theorem motions_iterate (going : worker.Going) (now : Instant) (wakeup : Wakeup) :
    Motions protocol ⟨worker, []⟩ (worker.iterate protocol now wakeup).2
      ⟨(worker.iterate protocol now wakeup).1, []⟩ := by
  have ticked := motions_tick reliable going now
  simp only [iterate]
  rw [if_pos (isLive_of_outcome going.live)]
  split
  · next goes_on =>
    obtain ⟨same, still⟩ := heed_of_isLive goes_on
    have after : (worker.tick protocol now).1.Going := by
      simp only [tick, same]
      exact still
    exact ticked.append (motions_wait reliable after wakeup)
  · exact ticked

end Parts

end Blackjack.Worker
