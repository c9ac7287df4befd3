import Blackjack.Proofs.Session.Connection

/-!
# Ticks at one moment

The loop ticks the session before every wait, so how often it ticks at one moment is up to the
traffic. A tick does at most one thing, and disarms what made it do so: a timer runs out only when
strictly more than its span has elapsed, a request that is sent again is timed anew, and one that is
given up is no longer there. So a tick that asks for no stop leaves nothing for another tick at the
same moment (`tick_tick`), and a history may repeat such ticks as often as it likes (`Repeats`).
-/

namespace Blackjack.Session

variable {session next : Session} {now : Instant}

/-- A tick that finds everything healthy and no request late does nothing. -/
theorem tick_of_early (healthy : session.Healthy now)
    (early : ∀ pending ∈ session.pending,
      Instant.elapsed pending.sentAt now ≤ session.policy.ackTimeout) :
    session.tick now = (session, .none) := by
  obtain ⟨unspent, alive⟩ := healthy
  unfold tick
  rw [if_neg (Nat.not_lt.mpr unspent), if_neg (Nat.not_lt.mpr alive)]
  cases waiting : session.pending with
  | none => rfl
  | some pending =>
    have waits := early pending (by rw [waiting]; rfl)
    simp only [retry, if_pos waits]

/-- Whatever a tick does short of asking for a stop, nothing is left to do at that moment. -/
theorem Transition.tick_again {reaction : Reaction SessionEvent}
    (transition : Transition session (.tick now) next reaction) (unasked : reaction.stop = none) :
    next.tick now = (next, .none) := by
  cases transition with
  | exhausted | timedOut => cases unasked
  | waited healthy early => exact tick_of_early healthy early
  | resent healthy =>
    -- the request is timed from this very moment on, so nothing has elapsed yet
    refine tick_of_early healthy ?_
    rintro pending ⟨⟩
    simp [Instant.elapsed]
  | expired healthy =>
    have still : Healthy ({ session with pending := none }.enter .idle) now := by
      simpa [Healthy] using healthy
    exact tick_of_early still (by simp)
  | fired hands | accepted hands => rcases hands with same | same <;> cases same

/-- A tick that asks for no stop leaves nothing for another one at the same moment. -/
theorem tick_tick (unasked : (session.tick now).2.stop = none) :
    (session.tick now).1.tick now = ((session.tick now).1, .none) :=
  (step_transition session (.tick now)).tick_again unasked

section Idle

variable (idle : session.tick now = (session, .none)) (more : Nat)
include idle

/-- Where there is nothing to do, ticks leave the session as it is, however many they are. -/
theorem run_replicate_tick : session.run (List.replicate more (.tick now)) = session := by
  have stays : (session.step (.tick now)).1 = session := congrArg Prod.fst idle
  induction more with
  | zero => rfl
  | succ more ih => rw [List.replicate_succ, run_cons, stays, ih]

theorem reactions_replicate_tick :
    session.reactions (List.replicate more (.tick now)) = List.replicate more .none := by
  have stays : session.step (.tick now) = (session, .none) := idle
  induction more with
  | zero => rfl
  | succ more ih => rw [List.replicate_succ, reactions, stays, ih, List.replicate_succ]

end Idle

/-- Reactions that ask for nothing are passed over by whoever takes no note of them. -/
theorem foldl_replicate_none {Notes : Type} {note : Notes → Reaction SessionEvent → Notes}
    (blind : ∀ notes, note notes .none = notes) (more : Nat) (notes : Notes) :
    (List.replicate more .none).foldl note notes = notes := by
  induction more with
  | zero => rfl
  | succ more ih => rw [List.replicate_succ, List.foldl_cons, blind, ih]

/-! ## Histories that repeat ticks -/

/-- The longer history is the shorter one with ticks repeated: each tick that asks for no stop may
be followed by any number of ticks at its own moment. -/
inductive Repeats : Session → List Operation → List Operation → Prop
  | nil (session : Session) : Repeats session [] []
  | once {session : Session} (operation : Operation) {later longer : List Operation}
      (rest : Repeats (session.step operation).1 later longer) :
      Repeats session (operation :: later) (operation :: longer)
  | again {session : Session} {now : Instant} (unasked : (session.tick now).2.stop = none)
      (more : Nat) {later longer : List Operation}
      (rest : Repeats (session.tick now).1 later longer) :
      Repeats session (.tick now :: later)
        (.tick now :: (List.replicate more (.tick now) ++ longer))

namespace Repeats

variable {Notes : Type} {note : Notes → Reaction SessionEvent → Notes}
  {history longer : List Operation} (repeats : Repeats session history longer)
include repeats

/-- Repeated ticks leave the same session. -/
theorem run_eq : session.run longer = session.run history := by
  induction repeats with
  | nil => rfl
  | once operation _ ih => exact ih
  | again unasked more _ ih =>
    rw [run_cons, run_append, run_cons]
    have stays := run_replicate_tick (tick_tick unasked) more
    exact (congrArg (fun session => run session _) stays).trans ih

/-- Nobody who goes through the reactions and takes no note of the empty ones can tell that ticks
were repeated. -/
theorem foldl_reactions (blind : ∀ notes, note notes .none = notes) (notes : Notes) :
    (session.reactions longer).foldl note notes = (session.reactions history).foldl note notes := by
  induction repeats generalizing notes with
  | nil => rfl
  | once operation _ ih => exact ih _
  | @again session now unasked more later longer _ ih =>
    let next := (session.tick now).1
    have idle : next.tick now = (next, .none) := tick_tick unasked
    have told : next.reactions (List.replicate more (.tick now) ++ longer) =
        List.replicate more .none ++ next.reactions longer := by
      rw [reactions_append, reactions_replicate_tick idle, run_replicate_tick idle]
    calc (session.reactions (.tick now :: (List.replicate more (.tick now) ++ longer))).foldl note notes
        = (next.reactions (List.replicate more (.tick now) ++ longer)).foldl note
            (note notes (session.tick now).2) := rfl
      _ = (next.reactions longer).foldl note (note notes (session.tick now).2) := by
          rw [told, List.foldl_append, foldl_replicate_none blind]
      _ = (session.reactions (.tick now :: later)).foldl note notes := ih _

/-- Repeated ticks tell the consumer nothing. -/
theorem events_eq : session.events longer = session.events history := by
  simp only [events, List.flatMap_eq_foldl]
  exact repeats.foldl_reactions (fun told => List.append_nil told) []

/-- Repeated ticks queue no frame, and leave the wish to stop as it is. -/
theorem link_eq : session.link longer = session.link history :=
  repeats.foldl_reactions Link.absorb_none Link.fresh

end Repeats

end Blackjack.Session
