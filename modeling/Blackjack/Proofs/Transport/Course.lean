import Blackjack.Proofs.Transport.Path

/-!
# The course of a connection, one occurrence at a time

A `Stage` says how far a connection has come as far as its protocol can tell, and `Stage.Next` which
occurrences a stage admits. The trace of an engine is a `Course` of such steps (`course_of_path`), so
what each step keeps holds after every part of the trace, also in the middle of an iteration.
-/

namespace Blackjack

namespace Occurrence

variable {Request Output : Type}

/-- What one wait of the loop can bring. -/
def isInner : Occurrence Request Output → Bool
  | connecting _ | tick _ _ | stopped _ _ => false
  | dialed _ | established | received _ | line _ _ _ | request _ _ _ | forwarded _ | wrote _ => true

/-- What happens by itself once a caller has begun a connection. -/
def isOwn : Occurrence Request Output → Bool
  | connecting _ | stopped (.requested _) _ => false
  | _ => true

theorem isOwn_of_isInner {occurrence : Occurrence Request Output} (inner : occurrence.isInner) :
    occurrence.isOwn := by
  cases occurrence <;> first | rfl | cases inner

/-- A connection attempt. -/
def isConnecting : Occurrence Request Output → Bool
  | connecting _ => true
  | _ => false

theorem isConnecting_of_isOwn {occurrence : Occurrence Request Output} (own : occurrence.isOwn) :
    occurrence.isConnecting = false := by
  cases occurrence with
  | connecting => cases own
  | _ => rfl

end Occurrence

theorem StopCause.Follows.not_requested {cause : StopCause} {asked : Option String}
    (follows : cause.Follows asked) (reason : String) : cause ≠ .requested reason := by
  rintro rfl
  cases asked <;> cases follows

theorem Trace.IsWait.inner {Request Output : Type} {trace : Trace Request Output}
    (wait : trace.IsWait) : ∀ occurrence ∈ trace, occurrence.isInner := by
  have socket : ∀ occurrence : Occurrence Request Output, occurrence.isSocket → occurrence.isInner :=
    fun occurrence => by cases occurrence <;> simp [Occurrence.isSocket, Occurrence.isInner]
  have line : ∀ occurrence : Occurrence Request Output, occurrence.isLine → occurrence.isInner :=
    fun occurrence => by cases occurrence <;> simp [Occurrence.isLine, Occurrence.isInner]
  have work : ∀ occurrence : Occurrence Request Output, occurrence.isIngress → occurrence.isInner :=
    fun occurrence => by cases occurrence <;> simp [Occurrence.isIngress, Occurrence.isInner]
  cases wait with
  | socket only => exact fun occurrence member => socket occurrence (only occurrence member)
  | batch only => exact fun occurrence member => work occurrence (only occurrence member)
  | read bytes only =>
    intro occurrence member
    rcases List.mem_cons.mp member with rfl | member
    · rfl
    · exact line occurrence (only occurrence member)

/-- How far a connection has come, as its callbacks show. -/
inductive Stage where
  /-- No loop runs. -/
  | down
  /-- The loop runs, and has not ticked the protocol yet. -/
  | begun
  /-- The loop has ticked the protocol, and no callback has asked for a stop. -/
  | going
  /-- A callback has asked for a stop, and the rest of its batch of work may still come. -/
  | leaving (reason : String) (batch : Bool)
  deriving DecidableEq, Repr

namespace Stage

variable {Request Output : Type}

/-- The loop runs, and goes on. -/
def isUp : Stage → Bool
  | begun | going => true
  | down | leaving _ _ => false

/-- What a stage admits, and where it leads. -/
inductive Next : Stage → Occurrence Request Output → Stage → Prop
  | connecting (now : Instant) : Next .down (.connecting now) .begun
  | ticked {stage : Stage} {now : Instant} {reaction : Reaction Output} (up : stage.isUp)
      (unasked : reaction.stop = none) : Next stage (.tick now reaction) .going
  | tickAsked {stage : Stage} {now : Instant} {reaction : Reaction Output} {reason : String}
      (up : stage.isUp) (asked : reaction.stop = some reason) :
      Next stage (.tick now reaction) (.leaving reason false)
  | met {occurrence : Occurrence Request Output} (inner : occurrence.isInner)
      (unasked : occurrence.stop? = none) : Next .going occurrence .going
  | asked {occurrence : Occurrence Request Output} {reason : String} (inner : occurrence.isInner)
      (asked : occurrence.stop? = some reason) :
      Next .going occurrence (.leaving reason occurrence.isIngress)
  | worked {occurrence : Occurrence Request Output} (reason : String)
      (ingress : occurrence.isIngress) :
      Next (.leaving reason true) occurrence (.leaving reason true)
  | halted {stage : Stage} (up : stage.isUp) (reason : String) (outputs : List Output) :
      Next stage (.stopped (.requested reason) outputs) .down
  | obeyed (reason : String) (batch : Bool) (outputs : List Output) :
      Next (.leaving reason batch) (.stopped (.protocol reason) outputs) .down
  | lost {cause : StopCause} (fault : cause.isFault) (outputs : List Output) :
      Next .going (.stopped cause outputs) .down

theorem Next.of_connecting {stage next : Stage} {now : Instant}
    (step : stage.Next (.connecting now : Occurrence Request Output) next) :
    stage = .down ∧ next = .begun := by
  cases step with
  | connecting => exact ⟨rfl, rfl⟩
  | met inner | asked inner => cases inner
  | worked _ ingress => cases ingress

end Stage

namespace Protocol

variable {State Request Output : Type} {protocol : Protocol State Request Output}

/-- A trace leads through the stages of connections, and takes the state of the protocol along. -/
inductive Course (protocol : Protocol State Request Output) :
    Stage → State → Trace Request Output → Stage → State → Prop
  | nil (stage : Stage) (state : State) : Course protocol stage state [] stage state
  | cons {stage middle last : Stage} {state final : State}
      {occurrence : Occurrence Request Output} {later : Trace Request Output}
      (next : stage.Next occurrence middle) (answers : protocol.Answers state occurrence)
      (rest : Course protocol middle (protocol.after state occurrence) later last final) :
      Course protocol stage state (occurrence :: later) last final

theorem Replays.of_append {start final : State} {before after : Trace Request Output}
    (replays : protocol.Replays start (before ++ after) final) :
    ∃ middle, protocol.Replays start before middle ∧ protocol.Replays middle after final := by
  induction before generalizing start with
  | nil => exact ⟨start, .nil start, replays⟩
  | cons occurrence before ih =>
    cases replays with
    | cons answers rest =>
      obtain ⟨middle, first, second⟩ := ih rest
      exact ⟨middle, .cons answers first, second⟩

theorem Replays.answers {start final : State} {trace : Trace Request Output}
    (replays : protocol.Replays start trace final) :
    ∀ occurrence ∈ trace, ∃ state, protocol.Answers state occurrence := by
  induction replays with
  | nil => simp
  | @cons state _ occurrence later answers _ ih =>
    intro other member
    rcases List.mem_cons.mp member with rfl | member
    · exact ⟨state, answers⟩
    · exact ih other member

namespace Course

variable {stage middle last : Stage} {start state final : State}
  {before after trace wait : Trace Request Output} {reason : String}

theorem append (first : protocol.Course stage start before middle state)
    (second : protocol.Course middle state after last final) :
    protocol.Course stage start (before ++ after) last final := by
  induction first with
  | nil => exact second
  | cons next answers _ ih => exact .cons next answers (ih second)

theorem of_append (course : protocol.Course stage start (before ++ after) last final) :
    ∃ middle state, protocol.Course stage start before middle state ∧
      protocol.Course middle state after last final := by
  induction before generalizing stage start with
  | nil => exact ⟨stage, start, .nil stage start, course⟩
  | cons occurrence before ih =>
    cases course with
    | cons next answers rest =>
      obtain ⟨middle, state, first, second⟩ := ih rest
      exact ⟨middle, state, .cons next answers first, second⟩

theorem replays (course : protocol.Course stage start before last final) :
    protocol.Replays start before final := by
  induction course with
  | nil _ state => exact .nil state
  | cons _ answers _ ih => exact .cons answers ih

/-- After the end of a connection, the next thing to happen is a new one. -/
theorem head_of_down (course : protocol.Course .down start trace last final) :
    ∀ first ∈ trace.head?, ∃ now, first = .connecting now := by
  cases course with
  | nil => simp
  | cons next =>
    cases next with
    | connecting now => simp
    | ticked up | tickAsked up | halted up => cases up

/-- What every step keeps, a course keeps. -/
theorem invariant (Kept : Stage → State → Prop)
    (step : ∀ {stage next : Stage} {state : State} {occurrence : Occurrence Request Output},
      stage.Next occurrence next → protocol.Answers state occurrence → Kept stage state →
      Kept next (protocol.after state occurrence))
    (course : protocol.Course stage start before last final) (kept : Kept stage start) :
    Kept last final := by
  induction course with
  | nil => exact kept
  | cons next answers _ ih => exact ih (step next answers kept)

/-- The rest of a batch after a wish to stop. -/
theorem of_ingress (ingress : ∀ occurrence ∈ wait, occurrence.isIngress)
    (replays : protocol.Replays start wait final) :
    protocol.Course (.leaving reason true) start wait (.leaving reason true) final := by
  induction replays with
  | nil => exact .nil _ _
  | cons answers _ ih =>
    refine .cons (.worked reason (ingress _ (by simp))) answers (ih ?_)
    exact fun occurrence member => ingress occurrence (by simp [member])

/-- A wait in which no callback asks for a stop. -/
theorem of_unasked (inner : ∀ occurrence ∈ wait, occurrence.isInner) (unasked : wait.asked = none)
    (replays : protocol.Replays start wait final) :
    protocol.Course .going start wait .going final := by
  induction replays with
  | nil => exact .nil _ _
  | cons answers _ ih =>
    rw [Trace.asked_cons, Option.or_eq_none_iff] at unasked
    refine .cons (.met (inner _ (by simp)) unasked.1) answers (ih ?_ unasked.2)
    exact fun occurrence member => inner occurrence (by simp [member])

/-- A wait in which a callback asks for a stop. -/
theorem of_asked (inner : ∀ occurrence ∈ wait, occurrence.isInner) (heeds : wait.Heeds)
    (asked : wait.asked = some reason) (replays : protocol.Replays start wait final) :
    ∃ batch, protocol.Course .going start wait (.leaving reason batch) final := by
  induction replays with
  | nil => cases asked
  | @cons state final occurrence later answers rest ih =>
    have here := inner occurrence (by simp)
    rw [Trace.asked_cons] at asked
    cases wish : occurrence.stop? with
    | none =>
      rw [wish, Option.none_or] at asked
      have later_heeds : Trace.Heeds later := by
        rintro first asking after rfl
        exact heeds (occurrence :: first) asking after rfl
      obtain ⟨batch, course⟩ :=
        ih (fun other member => inner other (by simp [member])) later_heeds asked
      exact ⟨batch, .cons (.met here wish) answers course⟩
    | some given =>
      rw [wish, Option.some_or, Option.some.injEq] at asked
      subst asked
      refine ⟨occurrence.isIngress, .cons (.asked here wish) answers ?_⟩
      rcases heeds [] occurrence later rfl (by simp [wish]) with rfl | ⟨batch, ingress⟩
      · cases rest
        exact .nil _ _
      · rw [batch]
        exact .of_ingress ingress rest

section Iteration

variable {iteration : Iteration Request Output} (up : stage.isUp) (orderly : iteration.Orderly)
  (replays : protocol.Replays start iteration.trace final)
include up orderly replays

/-- An iteration after which the loop goes on. -/
theorem of_iterated (unasked : iteration.trace.asked = none) :
    protocol.Course stage start iteration.trace .going final := by
  rw [Iteration.trace, Trace.asked_cons, Option.or_eq_none_iff] at unasked
  cases replays with
  | cons answers rest =>
    exact .cons (.ticked up unasked.1) answers (.of_unasked orderly.wait.inner unasked.2 rest)

/-- An iteration that makes the protocol ask for a stop. -/
theorem of_iterated_asked (asked : iteration.trace.asked = some reason) :
    ∃ batch, protocol.Course stage start iteration.trace (.leaving reason batch) final := by
  obtain ⟨now, reaction, wait⟩ := iteration
  have heeds := orderly.heeds
  rw [Iteration.trace, Trace.asked_cons] at asked
  rw [Iteration.trace] at heeds
  cases replays with
  | cons answers rest =>
    cases wish : reaction.stop with
    | none =>
      have later : wait.asked = some reason := by simpa [Occurrence.stop?, wish] using asked
      have later_heeds : Trace.Heeds wait := by
        rintro first asking after rfl
        exact heeds (.tick now reaction :: first) asking after rfl
      obtain ⟨batch, course⟩ := of_asked orderly.wait.inner later_heeds later rest
      exact ⟨batch, .cons (.ticked up wish) answers course⟩
    | some given =>
      obtain rfl : given = reason := by simpa [Occurrence.stop?, wish] using asked
      refine ⟨false, .cons (.tickAsked up wish) answers ?_⟩
      rcases heeds [] _ _ rfl (by simp [Occurrence.stop?, wish]) with none | ⟨ingress, -⟩
      · rw [none] at rest ⊢
        cases rest
        exact .nil _ _
      · simp [Occurrence.isIngress] at ingress

end Iteration

end Course

end Protocol

namespace Engine

variable {State Request Output : Type} {protocol : Protocol State Request Output}
  {engine next : Engine State Request} {trace : Trace Request Output} {stage : Stage}
  {state : State}

/-- The engine has come to this stage, with this state of its protocol. -/
def Reaches (engine : Engine State Request) : Stage → State → Prop
  | .down, state => engine.Rests state
  | .begun, state | .going, state => ∃ worker, engine.Runs worker ∧ worker.state = state
  | .leaving _ _, _ => False

namespace Reaches

theorem kept (reaches : engine.Reaches stage state) : engine.Kept := by
  cases stage with
  | down => exact Rests.kept reaches
  | begun | going => exact reaches.elim fun worker runs => runs.1.kept
  | leaving => exact reaches.elim

theorem state? (reaches : engine.Reaches stage state) : engine.state? = some state := by
  cases stage with
  | down => exact Rests.state? reaches
  | begun | going =>
    obtain ⟨worker, runs, rfl⟩ := reaches
    exact runs.state?
  | leaving => exact reaches.elim

theorem isUp_eq (reaches : engine.Reaches stage state) : stage.isUp = engine.live?.isSome := by
  cases stage with
  | down =>
    rw [Rests.live? reaches]
    rfl
  | begun | going =>
    obtain ⟨worker, runs, -⟩ := reaches
    rw [runs.live?]
    rfl
  | leaving => exact reaches.elim

/-- What callers are told is whether a connection is under way. -/
theorem running_eq_false_iff (reaches : engine.Reaches stage state) :
    engine.running = false ↔ stage = .down := by
  cases stage with
  | down => simp [Rests.running reaches]
  | begun | going =>
    obtain ⟨worker, runs, -⟩ := reaches
    simp [runs.running]
  | leaving => exact reaches.elim

theorem not_leaving (reaches : engine.Reaches stage state) (reason : String) (batch : Bool) :
    stage ≠ .leaving reason batch := by
  rintro rfl
  exact reaches.elim

theorem rests {held : State} (reaches : engine.Reaches stage state) (rests : engine.Rests held) :
    stage = .down ∧ held = state := by
  have same := Option.some.inj (rests.state?.symm.trans reaches.state?)
  cases stage with
  | down => exact ⟨rfl, same⟩
  | begun | going =>
    obtain ⟨worker, runs, -⟩ := reaches
    cases runs.running.symm.trans rests.running
  | leaving => exact reaches.elim

theorem runs {worker : Worker State Request} (reaches : engine.Reaches stage state)
    (runs : engine.Runs worker) : stage.isUp ∧ worker.state = state := by
  have same := Option.some.inj (runs.state?.symm.trans reaches.state?)
  exact ⟨by rw [reaches.isUp_eq, runs.live?]; rfl, same⟩

end Reaches

/-- An act leads from stage to stage. -/
theorem course_of_act (act : Act protocol engine trace next) (reaches : engine.Reaches stage state) :
    ∃ last final, protocol.Course stage state trace last final ∧ next.Reaches last final := by
  cases act with
  | refused => exact ⟨stage, state, .nil _ _, reaches⟩
  | parked rests still =>
    obtain ⟨rfl, rfl⟩ := reaches.rests rests
    exact ⟨.down, _, .nil _ _, still⟩
  | handed runs still =>
    obtain ⟨up, rfl⟩ := reaches.runs runs
    refine ⟨stage, _, .nil _ _, ?_⟩
    cases stage with
    | begun | going => exact ⟨_, still, rfl⟩
    | down | leaving => simp [Stage.isUp] at up
  | connecting rests runs =>
    obtain ⟨rfl, rfl⟩ := reaches.rests rests
    exact ⟨.begun, _, .cons (.connecting _) trivial (.nil _ _), _, runs, rfl⟩
  | halted runs rests =>
    obtain ⟨up, rfl⟩ := reaches.runs runs
    exact ⟨.down, _, .cons (.halted up _ _) rfl (.nil _ _), rests⟩
  | iterated runs orderly _ unasked replays _ still =>
    obtain ⟨up, rfl⟩ := reaches.runs runs
    exact ⟨.going, _, .of_iterated up orderly replays unasked, _, still, rfl⟩
  | @ended _ _ _ iteration cause outputs runs orderly _ follows replays rests =>
    obtain ⟨up, rfl⟩ := reaches.runs runs
    obtain ⟨middle, first, second⟩ := replays.of_append
    cases second with
    | cons answers rest =>
      cases rest
      -- The loop was lost unless a callback asked for its end, and then it leaves by that reason.
      cases asked : iteration.trace.asked with
      | none =>
        rw [asked] at follows
        have ending : protocol.Course .going middle [.stopped cause outputs] .down _ :=
          .cons (.lost follows outputs) answers (.nil _ _)
        exact ⟨.down, _, (Protocol.Course.of_iterated up orderly first asked).append ending, rests⟩
      | some reason =>
        rw [asked] at follows
        obtain rfl : cause = .protocol reason := follows
        obtain ⟨batch, course⟩ := Protocol.Course.of_iterated_asked up orderly first asked
        have ending : protocol.Course (.leaving reason batch) middle
            [.stopped (.protocol reason) outputs] .down _ :=
          .cons (.obeyed reason batch outputs) answers (.nil _ _)
        exact ⟨.down, _, course.append ending, rests⟩

/-- A path leads from stage to stage. -/
theorem course_of_path (path : Path protocol engine trace next)
    (reaches : engine.Reaches stage state) :
    ∃ last final, protocol.Course stage state trace last final ∧ next.Reaches last final := by
  induction path with
  | nil => exact ⟨stage, state, .nil _ _, reaches⟩
  | snoc _ step ih =>
    obtain ⟨middle, between, before, there⟩ := ih
    obtain ⟨last, final, after, here⟩ := course_of_act step there
    exact ⟨last, final, before.append after, here⟩

/-- A loop neither begins a connection nor asks itself to stop. -/
theorem iterate_isOwn (reliable : protocol.Reliable) (kept : engine.Kept) (now : Instant)
    (wakeup : Wakeup) :
    ∀ occurrence ∈ (engine.iterate protocol now wakeup).trace, occurrence.isOwn := by
  unfold iterate
  rcases kept with ⟨state, rests⟩ | ⟨worker, runs⟩
  · simp [rests.live?]
  · rw [runs.live?]
    obtain ⟨iteration, -, orderly, -, brings⟩ :=
      Worker.iterate_brings reliable runs.live now wakeup
    have own : ∀ occurrence ∈ iteration.trace, occurrence.isOwn := by
      intro occurrence member
      rcases List.mem_cons.mp member with rfl | waited
      · rfl
      · exact Occurrence.isOwn_of_isInner (orderly.wait.inner occurrence waited)
    rcases brings.leaves with ⟨trace, -⟩ | ⟨cause, outputs, trace, -, follows⟩
    · simpa only [trace] using own
    · simp only [trace]
      intro occurrence member
      rcases List.mem_append.mp member with inside | ending
      · exact own occurrence inside
      · rw [List.mem_singleton.mp ending]
        cases cause with
        | requested reason => exact absurd rfl (follows.not_requested reason)
        | protocol | peerClosed | fault => rfl

/-- A tick that asks for a stop ends the connection before anything else happens on it. -/
theorem iterate_of_tick_asks {worker : Worker State Request} (runs : engine.Runs worker)
    (now : Instant) (wakeup : Wakeup) {after : State} {reaction : Reaction Output} {reason : String}
    (ticked : protocol.tick worker.state now = (after, reaction)) (sane : reaction.crashed = false)
    (asks : reaction.stop = some reason) :
    (engine.iterate protocol now wakeup).trace = [.tick now reaction,
      .stopped (.protocol reason) (protocol.stopped after (.protocol reason)).2] ∧
    (engine.iterate protocol now wakeup).engine.live? = none := by
  have goes_on : (worker.absorb after reaction).isLive := by
    simp [Worker.isLive, Worker.absorb, sane, runs.live]
  have wish : (worker.absorb after reaction).link.stop = some reason := by
    simp [Worker.absorb, Link.absorb, runs.unasked, asks]
  have heeded : (worker.absorb after reaction).heed protocol =
      (worker.absorb after reaction).close protocol (.protocol reason) := by
    rw [Worker.heed, if_pos goes_on, wish]
  have ended : (worker.tick protocol now).1.isLive = false := by
    simp [Worker.tick, ticked, heeded, Worker.close, Worker.isLive]
  have whole : worker.iterate protocol now wakeup = worker.tick protocol now := by
    simp only [Worker.iterate]
    rw [if_pos (Worker.isLive_of_outcome runs.live), if_neg (by simp [ended])]
  unfold iterate
  rw [runs.live?]
  simp only [whole]
  refine ⟨?_, by simp [live?, ended]⟩
  simp only [Worker.tick, ticked, heeded]
  rfl

end Engine

end Blackjack
