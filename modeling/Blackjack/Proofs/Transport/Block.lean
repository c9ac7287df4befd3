import Blackjack.Proofs.Transport.Path

/-!
# The callbacks of an engine come in blocks

A block is what a protocol is told of one connection: that it is about to begin, then one iteration
after another, then once that it has ended. `Block.Disciplined` is what a protocol may rely on
within a block. The blocks of an engine follow one another, and only the last one may still be open,
which it is exactly while a loop runs (`callbacks_in_blocks`).

A protocol is free in its state, so it may as well hold a list of answers given in advance: what
holds of every protocol here holds of one that acts at random, or by looking at its link.
-/

namespace Blackjack

/-- What the protocol is told of one connection, and how that connection ended, if it did. -/
structure Block (Request Output : Type) where
  began : Instant
  iterations : List (Iteration Request Output)
  ending : Option (StopCause × List Output)

namespace Block

variable {Request Output : Type}

/-- What happens between the beginning and the end. -/
def body (block : Block Request Output) : Trace Request Output :=
  block.iterations.flatMap Iteration.trace

def trace (block : Block Request Output) : Trace Request Output :=
  .connecting block.began :: block.body ++
    block.ending.toList.map fun (cause, outputs) => .stopped cause outputs

/-- What a protocol may rely on within a block. -/
structure Disciplined (block : Block Request Output) : Prop where
  /-- A tick comes first in each iteration, and at most one read or one batch of work after it. -/
  orderly : ∀ iteration ∈ block.iterations, iteration.Orderly
  /-- Lines and work come only after the connection was established. -/
  established : ∀ before occurrence after, block.body = before ++ occurrence :: after →
    occurrence.isLine ∨ occurrence.isIngress → .established ∈ before
  /-- After a wish to stop there is no further tick and no further line. -/
  heeds : block.body.Heeds
  /-- The first wish to stop becomes the cause of the end. -/
  cause : ∀ ending ∈ block.ending, ∀ reason,
    ending.1 = .protocol reason ↔ block.body.asked = some reason
  /-- Only a caller ends a connection before its first tick. -/
  ticked : block.iterations = [] → ∀ ending ∈ block.ending, ∃ reason, ending.1 = .requested reason
  /-- A loop goes on only while nobody has asked it to stop. -/
  unasked : block.ending = none → block.body.asked = none

/-- A connection is about to begin. -/
def opened (began : Instant) : Block Request Output := ⟨began, [], none⟩

/-- The block after one more iteration. -/
def extend (block : Block Request Output) (iteration : Iteration Request Output) :
    Block Request Output :=
  { block with iterations := block.iterations ++ [iteration] }

/-- The block after its end. -/
def finish (block : Block Request Output) (cause : StopCause) (outputs : List Output) :
    Block Request Output :=
  { block with ending := some (cause, outputs) }

variable {block : Block Request Output} {iteration : Iteration Request Output} {cause : StopCause}

@[simp] theorem body_extend : (block.extend iteration).body = block.body ++ iteration.trace := by
  simp [body, extend]

@[simp] theorem body_finish (outputs : List Output) :
    (block.finish cause outputs).body = block.body := rfl

theorem trace_extend (going : block.ending = none) :
    (block.extend iteration).trace = block.trace ++ iteration.trace := by
  have still : (block.extend iteration).ending = none := going
  rw [trace, trace, going, still, body_extend]
  simp [extend]

theorem trace_finish (going : block.ending = none) (outputs : List Output) :
    (block.finish cause outputs).trace = block.trace ++ [.stopped cause outputs] := by
  rw [trace, trace, going, body_finish]
  simp [finish]

theorem trace_extend_finish (going : block.ending = none) (outputs : List Output) :
    ((block.extend iteration).finish cause outputs).trace =
      block.trace ++ (iteration.trace ++ [.stopped cause outputs]) := by
  have still : (block.extend iteration).ending = none := going
  rw [trace_finish still, trace_extend going, List.append_assoc]

theorem disciplined_opened (began : Instant) :
    (opened began : Block Request Output).Disciplined where
  orderly := by simp [opened]
  established := by simp [opened, body]
  heeds := .of_unasked rfl
  cause := by simp [opened]
  ticked := by simp [opened]
  unasked := fun _ => rfl

namespace Disciplined

/-- A caller may end the connection between two iterations. -/
theorem halt (disciplined : block.Disciplined) (going : block.ending = none) (reason : String)
    (outputs : List Output) : (block.finish (.requested reason) outputs).Disciplined where
  orderly := disciplined.orderly
  established := disciplined.established
  heeds := disciplined.heeds
  cause := by
    intro ending member
    obtain rfl : (StopCause.requested reason, outputs) = ending := by simpa [finish] using member
    simp [disciplined.unasked going]
  ticked := by
    intro _ ending member
    obtain rfl : (StopCause.requested reason, outputs) = ending := by simpa [finish] using member
    exact ⟨reason, rfl⟩
  unasked := by simp [finish]

section Extend

variable (disciplined : block.Disciplined) (going : block.ending = none)
  (orderly : iteration.Orderly)
  (closed : .established ∉ block.body → ∀ occurrence ∈ iteration.wait, occurrence.isSocket)
include disciplined orderly

theorem orderly_extend : ∀ other ∈ (block.extend iteration).iterations, other.Orderly := by
  intro other member
  rcases List.mem_append.mp member with earlier | latest
  · exact disciplined.orderly other earlier
  · rwa [List.mem_singleton.mp latest]

omit orderly in
include closed in
theorem established_extend {before after : Trace Request Output}
    {occurrence : Occurrence Request Output}
    (split : (block.extend iteration).body = before ++ occurrence :: after)
    (work : occurrence.isLine ∨ occurrence.isIngress) : .established ∈ before := by
  rw [body_extend, List.append_eq_append_iff] at split
  rcases split with ⟨since, rfl, latest⟩ | ⟨rest, earlier, latest⟩
  · have waited : occurrence ∈ iteration.wait := by
      have member : occurrence ∈ iteration.trace := by simp [latest]
      rcases List.mem_cons.mp member with rfl | member
      · simp [Occurrence.isLine, Occurrence.isIngress] at work
      · exact member
    refine Classical.byContradiction fun missing => ?_
    have socket := closed (fun found => missing (List.mem_append_left _ found)) occurrence waited
    cases occurrence <;> simp_all [Occurrence.isLine, Occurrence.isIngress, Occurrence.isSocket]
  · cases rest with
    | nil =>
      -- The iteration begins here, so this occurrence is its tick.
      obtain ⟨rfl, -⟩ := List.cons.inj latest
      simp [Occurrence.isLine, Occurrence.isIngress] at work
    | cons head tail =>
      obtain ⟨rfl, -⟩ := List.cons.inj latest
      exact disciplined.established before _ tail earlier work

include going

/-- The loop goes through one more iteration. -/
theorem extend (unasked : iteration.trace.asked = none) :
    (.established ∉ block.body → ∀ occurrence ∈ iteration.wait, occurrence.isSocket) →
    (block.extend iteration).Disciplined := by
  intro closed
  have nobody : (block.extend iteration).body.asked = none := by
    rw [body_extend, Trace.asked_append, disciplined.unasked going, unasked, Option.or_none]
  exact {
    orderly := disciplined.orderly_extend orderly
    established := fun _ _ _ => disciplined.established_extend closed
    heeds := .of_unasked nobody
    cause := by simp [Block.extend, going]
    ticked := by simp [Block.extend]
    unasked := fun _ => nobody }

/-- The loop ends in the last iteration. -/
theorem finish (follows : cause.Follows iteration.trace.asked) (outputs : List Output) :
    (.established ∉ block.body → ∀ occurrence ∈ iteration.wait, occurrence.isSocket) →
    ((block.extend iteration).finish cause outputs).Disciplined := by
  intro closed
  have nobody := disciplined.unasked going
  exact {
    orderly := disciplined.orderly_extend orderly
    established := fun _ _ _ => disciplined.established_extend closed
    heeds := by
      rw [body_finish, body_extend]
      exact .append nobody orderly.heeds
    cause := by
      intro ending member reason
      obtain rfl : (cause, outputs) = ending := by simpa [Block.finish] using member
      rw [body_finish, body_extend, Trace.asked_append, nobody, Option.none_or]
      cases asked : iteration.trace.asked <;> rw [asked] at follows
      · cases cause <;> simp_all [StopCause.Follows, StopCause.isFault]
      · simp_all [StopCause.Follows]
    ticked := by simp [Block.extend, Block.finish]
    unasked := by simp [Block.finish] }

end Extend

end Disciplined

end Block

namespace Engine

variable {State Request Output : Type} {protocol : Protocol State Request Output}
  {engine next : Engine State Request} {trace part : Trace Request Output}

/-- The trace is made of blocks, and one of them is still open exactly while a loop runs. -/
inductive Accounts (engine : Engine State Request) : Trace Request Output → Prop
  | rests {ended : List (Block Request Output)} (idle : engine.live? = none)
      (closed : ∀ block ∈ ended, block.Disciplined ∧ block.ending.isSome) :
      Accounts engine (ended.flatMap Block.trace)
  | runs {ended : List (Block Request Output)} {block : Block Request Output}
      {worker : Worker State Request} (live : engine.live? = some worker)
      (closed : ∀ block ∈ ended, block.Disciplined ∧ block.ending.isSome)
      (disciplined : block.Disciplined) (going : block.ending = none)
      (phase : worker.phase = .opened ↔ .established ∈ block.body) :
      Accounts engine (ended.flatMap Block.trace ++ block.trace)

namespace Accounts

theorem of_live?_eq (accounts : engine.Accounts trace) (same : next.live? = engine.live?) :
    next.Accounts trace := by
  cases accounts with
  | rests idle closed => exact .rests (same.trans idle) closed
  | runs live closed disciplined going phase =>
    exact .runs (same.trans live) closed disciplined going phase

theorem exists_ended (accounts : engine.Accounts trace) (idle : engine.live? = none) :
    ∃ ended : List (Block Request Output), trace = ended.flatMap Block.trace ∧
      ∀ block ∈ ended, block.Disciplined ∧ block.ending.isSome := by
  cases accounts with
  | rests _ closed => exact ⟨_, rfl, closed⟩
  | runs live => simp [idle] at live

theorem exists_current (accounts : engine.Accounts trace) {worker : Worker State Request}
    (live : engine.live? = some worker) :
    ∃ (ended : List (Block Request Output)) (block : Block Request Output),
      trace = ended.flatMap Block.trace ++ block.trace ∧
      (∀ block ∈ ended, block.Disciplined ∧ block.ending.isSome) ∧
      block.Disciplined ∧ block.ending = none ∧
      (worker.phase = .opened ↔ .established ∈ block.body) := by
  cases accounts with
  | rests idle => simp [idle] at live
  | runs same closed disciplined going phase =>
    obtain rfl := Option.some.inj (same.symm.trans live)
    exact ⟨_, _, rfl, closed, disciplined, going, phase⟩

/-- The open block comes to its end. -/
theorem finished {ended : List (Block Request Output)} {block : Block Request Output}
    (closed : ∀ block ∈ ended, block.Disciplined ∧ block.ending.isSome)
    (disciplined : block.Disciplined) (ends : block.ending.isSome) (idle : next.live? = none) :
    next.Accounts (ended.flatMap Block.trace ++ block.trace) := by
  have all : ∀ other ∈ ended ++ [block], other.Disciplined ∧ other.ending.isSome := by
    intro other member
    rcases List.mem_append.mp member with earlier | last
    · exact closed other earlier
    · rw [List.mem_singleton.mp last]
      exact ⟨disciplined, ends⟩
  simpa using Accounts.rests idle all

theorem step (accounts : engine.Accounts trace) (act : Act protocol engine part next) :
    next.Accounts (trace ++ part) := by
  cases act with
  | refused => simpa using accounts
  | parked rests still =>
    rw [List.append_nil]
    exact accounts.of_live?_eq (still.live?.trans rests.live?.symm)
  | handed runs still =>
    obtain ⟨ended, block, rfl, closed, disciplined, going, phase⟩ :=
      accounts.exists_current runs.live?
    rw [List.append_nil]
    exact .runs still.live? closed disciplined going phase
  | connecting rests runs =>
    obtain ⟨ended, rfl, closed⟩ := accounts.exists_ended rests.live?
    exact .runs runs.live? closed (Block.disciplined_opened _) rfl
      (by simp [Worker.new, Block.opened, Block.body])
  | halted runs rests =>
    obtain ⟨ended, block, rfl, closed, disciplined, going, -⟩ := accounts.exists_current runs.live?
    rw [List.append_assoc, ← Block.trace_finish going]
    exact finished closed (disciplined.halt going _ _) rfl rests.live?
  | iterated runs orderly sockets unasked _ phase still =>
    obtain ⟨ended, block, rfl, closed, disciplined, going, before⟩ :=
      accounts.exists_current runs.live?
    rw [List.append_assoc, ← Block.trace_extend going]
    rw [Ne, before] at sockets
    refine .runs still.live? closed (disciplined.extend going orderly unasked sockets) going ?_
    rw [phase, before, Block.body_extend, List.mem_append]
  | ended runs orderly sockets follows _ rests =>
    obtain ⟨ended, block, rfl, closed, disciplined, going, before⟩ :=
      accounts.exists_current runs.live?
    rw [List.append_assoc, ← Block.trace_extend_finish going]
    rw [Ne, before] at sockets
    exact finished closed (disciplined.finish going orderly follows _ sockets) rfl rests.live?

end Accounts

/-- A protocol that keeps the lines it is given, and asks for a stop at one of them. -/
def listener : Protocol (List String) Unit Unit where
  connecting := fun lines _ => lines
  line := fun lines text _ =>
    (lines ++ [text], { stop := if text = "halt" then some "told to stop" else none })
  request := fun lines _ _ => (lines, .none)
  tick := fun lines _ => (lines, .none)
  stopped := fun lines _ => (lines, [])

theorem listener_reliable : listener.Reliable :=
  ⟨fun _ _ => rfl, fun _ _ _ => rfl, fun _ _ _ => rfl⟩

end Engine

end Blackjack
