import Blackjack.Proofs.Session.History
import Mathlib.Data.List.Chain
import Mathlib.Data.List.Induction

/-!
# Requests and their answers on one connection

The peer answers every copy of a request that it receives, in the order in which the copies were
sent. An `Exchange` follows one connection and numbers the accepted requests, so that each copy and
each answer has a request that it belongs to. The session itself knows nothing of these numbers:
the first answer that arrives ends the wait. Hence the answer that ends it belongs to the pending
request exactly if no earlier copy was unanswered when that request was accepted.
-/

namespace Blackjack.Session

namespace Operation

/-- The line says that a request succeeded or failed. -/
def isAnswer : Operation → Bool
  | line text _ =>
    match Frame.decode text with
    | .ok frame => frame.classify = .ack || frame.classify = .nack
    | .error _ => false
  | _ => false

/-- When an operation happens, if it says so. -/
def now? : Operation → Option Instant
  | connecting now | line _ now | submit _ now | request _ now | tick now => some now
  | stopped _ => none

end Operation

/-- Whether the operation makes a request the pending one. -/
def accepts (session : Session) : Operation → Bool
  | .submit request now | .request request now =>
    request.requiresAck && (session.submit request now).toOption.isSome
  | _ => false

theorem accepts_eq_true_iff {session : Session} {operation : Operation} :
    session.accepts operation = true ↔ ∃ request now, session.Accepts operation request now := by
  constructor
  · intro accepted
    cases operation with
    | submit request now | request request now =>
      simp only [accepts, Bool.and_eq_true] at accepted
      cases answer : session.submit request now with
      | error refusal => simp [answer, Except.toOption] at accepted
      | ok result =>
        exact ⟨request, now, by simp [Operation.Hands], accepted.1, result, answer⟩
    | _ => simp [accepts] at accepted
  · rintro ⟨request, now, hands, tracked, result, answer⟩
    rcases hands with rfl | rfl <;> simp [accepts, tracked, answer, Except.toOption]

section Step

variable {session next : Session} {operation : Operation} {reaction : Reaction SessionEvent}

/-- Nothing is accepted while a request waits. -/
theorem accepts_eq_false_of_waiting (waiting : session.pending.isSome) :
    session.accepts operation = false := by
  rw [Bool.eq_false_iff, Ne, accepts_eq_true_iff]
  rintro ⟨request, now, accepts⟩
  simp [(accepts_iff.mp accepts).2.2.2] at waiting

/-- No request waits after an answer, whatever it answers. -/
theorem Transition.vacant_of_answer (transition : Transition session operation next reaction)
    (answer : operation.isAnswer) : next.pending = none := by
  cases transition with
  | resolved => simp
  | tolerated invalid | condemned invalid => simp [Operation.isAnswer, invalid] at answer
  | heartbeat valid probe => simp [Operation.isAnswer, valid, probe] at answer
  | forwarded valid silent unrelated =>
    simp only [Operation.isAnswer, valid, Bool.or_eq_true, decide_eq_true_eq] at answer
    exact unrelated answer
  | fired hands | accepted hands => rcases hands with rfl | rfl <;> simp [Operation.isAnswer] at answer
  | _ => simp [Operation.isAnswer] at answer

/-- A wait begins with the acceptance of a request. -/
theorem Transition.accepts_of_waiting (transition : Transition session operation next reaction)
    (vacant : session.pending = none) (waiting : next.pending.isSome) :
    session.accepts operation = true := by
  cases transition with
  | accepted hands connected tracked vacant =>
    exact accepts_eq_true_iff.mpr ⟨_, _, accepts_iff.mpr ⟨hands, tracked, connected, vacant⟩⟩
  | _ => simp_all [connecting, discredited, refreshed]

end Step

/-- One connection and its peer. Requests are numbered from one in the order of acceptance. -/
structure Exchange where
  session : Session
  /-- How many requests that must be answered were accepted. -/
  accepted : Nat
  /-- The copies of these requests that were sent, oldest first, each as its request's number. -/
  copies : List Nat
  /-- How many of the copies were answered. -/
  answered : Nat
  deriving DecidableEq, Repr

namespace Exchange

/-- A connection that has just begun. -/
def opened (session : Session) (began : Instant) : Exchange :=
  ⟨session.connecting began, 0, [], 0⟩

/-- An accepted request is sent as the next number, and a tick sends the latest number again. -/
def copied (exchange : Exchange) (operation : Operation) : List Nat :=
  if exchange.session.accepts operation then [exchange.accepted + 1]
  else
    match operation with
    | .tick _ => (exchange.session.step operation).2.messages.map fun _ => exchange.accepted
    | _ => []

def step (exchange : Exchange) (operation : Operation) : Exchange where
  session := (exchange.session.step operation).1
  accepted := exchange.accepted + (if exchange.session.accepts operation then 1 else 0)
  copies := exchange.copies ++ exchange.copied operation
  answered := exchange.answered + (if operation.isAnswer then 1 else 0)

def run (exchange : Exchange) (traffic : List Operation) : Exchange :=
  traffic.foldl step exchange

@[simp] theorem run_concat (exchange : Exchange) (traffic : List Operation) (last : Operation) :
    exchange.run (traffic ++ [last]) = (exchange.run traffic).step last := by
  simp [run]

/-- The peer answers no copy twice, and none before it was sent. -/
def Permits (exchange : Exchange) (operation : Operation) : Prop :=
  operation.isTraffic ∧ (operation.isAnswer → exchange.answered < exchange.copies.length)

instance (exchange : Exchange) (operation : Operation) : Decidable (exchange.Permits operation) :=
  inferInstanceAs (Decidable (_ ∧ _))

/-- The traffic of one connection with such a peer. -/
def Conducts (exchange : Exchange) : List Operation → Prop
  | [] => True
  | operation :: later => exchange.Permits operation ∧ (exchange.step operation).Conducts later

instance decidableConducts (exchange : Exchange) :
    (traffic : List Operation) → Decidable (exchange.Conducts traffic)
  | [] => inferInstanceAs (Decidable True)
  | operation :: later =>
    have := decidableConducts (exchange.step operation) later
    inferInstanceAs (Decidable (_ ∧ _))

theorem conducts_append {exchange : Exchange} {before after : List Operation} :
    exchange.Conducts (before ++ after) ↔
      exchange.Conducts before ∧ (exchange.run before).Conducts after := by
  induction before generalizing exchange with
  | nil => simp [Conducts, run]
  | cons operation later ih =>
    rw [List.cons_append, Conducts, Conducts, ih, and_assoc]
    rfl

/-- Who is owed an answer: no more answers than copies, and no copy of a request yet to come. -/
structure Sound (exchange : Exchange) : Prop where
  answered : exchange.answered ≤ exchange.copies.length
  numbered : ∀ copy ∈ exchange.copies, copy ≤ exchange.accepted

theorem Sound.step {exchange : Exchange} (sound : exchange.Sound) {operation : Operation}
    (permitted : exchange.Permits operation) : (exchange.step operation).Sound := by
  constructor
  · simp only [Exchange.step, List.length_append]
    have answered := sound.answered
    split
    · next answer =>
      have owed := permitted.2 answer
      omega
    · omega
  · intro copy member
    simp only [Exchange.step, List.mem_append] at member ⊢
    rcases member with earlier | latest
    · exact (sound.numbered copy earlier).trans (Nat.le_add_right _ _)
    · unfold copied at latest
      split at latest
      · next accepts =>
        rw [List.mem_singleton.mp latest, if_pos accepts]
      · split at latest
        · obtain ⟨-, -, rfl⟩ := List.mem_map.mp latest
          exact Nat.le_add_right _ _
        · simp at latest

/-- The exchange `later` has the request pending that was accepted next after `before`: nothing was
answered since, and nothing but copies of it was sent. -/
structure Holds (before later : Exchange) : Prop where
  accepted : later.accepted = before.accepted + 1
  answered : later.answered = before.answered
  copies : ∃ resent, later.copies = before.copies ++ List.replicate (resent + 1) later.accepted

/-- An operation that accepts nothing sends, if anything, more copies of the latest request. -/
theorem exists_copied_eq_replicate {exchange : Exchange} {operation : Operation}
    (unaccepted : exchange.session.accepts operation = false) :
    ∃ resent, exchange.copied operation = List.replicate resent exchange.accepted := by
  unfold copied
  rw [if_neg (by simp [unaccepted])]
  split
  · exact ⟨_, List.map_const' ..⟩
  · exact ⟨0, rfl⟩

theorem Holds.of_accepts {exchange : Exchange} {operation : Operation}
    (accepts : exchange.session.accepts operation = true) :
    Holds exchange (exchange.step operation) := by
  have silent : operation.isAnswer = false := by
    cases operation <;> simp_all [Session.accepts, Operation.isAnswer]
  constructor
  · simp [step, accepts]
  · simp [step, silent]
  · exact ⟨0, by simp [step, copied, accepts]⟩

/-- An operation after which the request still waits answers nothing. -/
theorem Holds.step {before later : Exchange} (holds : Holds before later) {operation : Operation}
    (waiting : later.session.pending.isSome)
    (still : (later.step operation).session.pending.isSome) :
    Holds before (later.step operation) := by
  have unaccepted : later.session.accepts operation = false := accepts_eq_false_of_waiting waiting
  have silent : operation.isAnswer = false := by
    rw [Bool.eq_false_iff]
    intro answer
    have vacant := (step_transition later.session operation).vacant_of_answer answer
    simp [Exchange.step, vacant] at still
  obtain ⟨resent, copies⟩ := holds.copies
  obtain ⟨again, copied⟩ := exists_copied_eq_replicate unaccepted
  have same : (later.step operation).accepted = later.accepted := by
    simp [Exchange.step, unaccepted]
  constructor
  · rw [same, holds.accepted]
  · simpa [Exchange.step, silent] using holds.answered
  · refine ⟨resent + again, ?_⟩
    rw [same]
    simp only [Exchange.step, copies, copied, List.append_assoc, List.replicate_append_replicate]
    rw [Nat.add_right_comm]

/-- The request that is pending was accepted at some operation of the connection, and has been held
ever since. -/
theorem exists_holds {opened : Exchange} (fresh : opened.session.pending = none)
    {traffic : List Operation} (waiting : (opened.run traffic).session.pending.isSome) :
    ∃ before acceptance since, traffic = before ++ acceptance :: since ∧
      (opened.run before).session.accepts acceptance = true ∧
      Holds (opened.run before) (opened.run traffic) := by
  induction traffic using List.reverseRecOn with
  | nil => simp [run, fresh] at waiting
  | append_singleton traffic operation ih =>
    rw [run_concat] at waiting ⊢
    cases earlier : (opened.run traffic).session.pending with
    | none =>
      have accepts := (step_transition (opened.run traffic).session operation).accepts_of_waiting
        earlier waiting
      exact ⟨traffic, operation, [], rfl, accepts, .of_accepts accepts⟩
    | some pending =>
      have held : (opened.run traffic).session.pending.isSome := by simp [earlier]
      obtain ⟨before, acceptance, since, rfl, accepts, holds⟩ := ih held
      exact ⟨before, acceptance, since ++ [operation], by simp, accepts, holds.step held waiting⟩

theorem run_sound {opened : Exchange} (sound : opened.Sound) {traffic : List Operation}
    (conducted : opened.Conducts traffic) : (opened.run traffic).Sound := by
  induction traffic generalizing opened with
  | nil => exact sound
  | cons operation later ih => exact ih (sound.step conducted.1) conducted.2

/-- The oldest unanswered copy is one of the pending request exactly if nothing was owed when that
request was accepted; what was owed first then is owed first still. -/
theorem Holds.oldest {before later : Exchange} (holds : Holds before later) (sound : before.Sound) :
    ∃ copy, later.copies[later.answered]? = some copy ∧ copy ≤ later.accepted ∧
      (copy = later.accepted ↔ before.answered = before.copies.length) ∧
      (before.answered < before.copies.length → before.copies[before.answered]? = some copy) := by
  obtain ⟨resent, copies⟩ := holds.copies
  rw [holds.answered, copies]
  rcases Nat.lt_or_eq_of_le sound.answered with owed | settled
  · have first := List.getElem?_eq_getElem owed
    have earlier := sound.numbered _ (List.getElem_mem owed)
    have accepted := holds.accepted
    rw [List.getElem?_append_left owed]
    exact ⟨_, first, by omega, by omega, fun _ => first⟩
  · refine ⟨later.accepted, ?_, le_rfl, by simp [settled], by omega⟩
    rw [settled, List.getElem?_append_right le_rfl]
    simp

theorem opened_sound (session : Session) (began : Instant) : (opened session began).Sound := by
  constructor <;> simp [opened]

/-- Even if a peer answers every copy once and in order, the line that ends the wait of a request
need not answer a copy of it: the login is sent twice, the first answer ends its wait, and the
second one ends the wait of the request that came after it. -/
theorem not_forall_answer_matches :
    ¬∀ (policy : SessionPolicy) (created : Instant) (history : List Operation) (began : Instant)
      (traffic : List Operation) (text : String) (now : Instant),
      let opened := opened ((new policy created).run history) began
      let last : Operation := .line text now
      opened.Conducts (traffic ++ [last]) →
      (began :: (traffic ++ [last]).filterMap Operation.now?).IsChain (· ≤ ·) →
      last.isAnswer → (opened.run traffic).session.pending.isSome →
      (opened.run traffic).copies[(opened.run traffic).answered]? =
        some (opened.run traffic).accepted := by
  intro claim
  have wrong := claim {} 0 [] 0
    [.submit ⟨"LOGIN___", "BJ:LOGIN___:bob\n", true⟩ 0, .tick 5001000000,
      .line "BJ:ACK__NIC:bob;100" 5100000000, .submit ⟨"JOIN____", "BJ:JOIN____:3\n", true⟩ 5200000000]
    "BJ:ACK__NIC:bob;100" 5300000000 (by decide) (by decide) (by decide)
    (by decide)
  exact absurd wrong (by decide)

/-- An answer that ends the wait of a request belongs to a copy of that very request exactly if
every copy sent before its acceptance had been answered by then. Otherwise it belongs to the oldest
copy that was unanswered at that moment, which is a copy of an earlier request. -/
theorem answer_matches_iff (session : Session) (began : Instant) {traffic : List Operation}
    {text : String} {now : Instant}
    (conducted : (opened session began).Conducts (traffic ++ [.line text now]))
    (answer : Operation.isAnswer (.line text now))
    (waiting : ((opened session began).run traffic).session.pending.isSome) :
    let exchange := (opened session began).run traffic
    (exchange.step (.line text now)).session.pending = none ∧
    ∃ before acceptance since, traffic = before ++ acceptance :: since ∧
      let earlier := (opened session began).run before
      earlier.session.accepts acceptance = true ∧ exchange.accepted = earlier.accepted + 1 ∧
      ∃ copy, exchange.copies[exchange.answered]? = some copy ∧ copy ≤ exchange.accepted ∧
        (copy = exchange.accepted ↔ earlier.answered = earlier.copies.length) ∧
        (earlier.answered < earlier.copies.length → earlier.copies[earlier.answered]? = some copy) := by
  intro exchange
  refine ⟨(step_transition exchange.session _).vacant_of_answer answer, ?_⟩
  have fresh : (opened session began).session.pending = none := by simp [opened, connecting]
  obtain ⟨before, acceptance, since, split, accepts, holds⟩ := exists_holds fresh waiting
  refine ⟨before, acceptance, since, split, accepts, holds.accepted, ?_⟩
  have conducted_before : (opened session began).Conducts before := by
    rw [split, List.append_assoc] at conducted
    exact (conducts_append.mp conducted).1
  exact holds.oldest (run_sound (opened_sound session began) conducted_before)

theorem answer_matches_iff_login :
    let session := new {} 0
    let traffic : List Operation :=
      [.submit ⟨"LOGIN___", "BJ:LOGIN___:bob\n", true⟩ 0, .tick 5001000000]
    (opened session 0).Conducts (traffic ++ [.line "BJ:ACK__NIC:bob;100" 5100000000]) ∧
    Operation.isAnswer (.line "BJ:ACK__NIC:bob;100" 5100000000) ∧
    ((opened session 0).run traffic).session.pending.isSome ∧
    (((opened session 0).run traffic).step
      (.line "BJ:ACK__NIC:bob;100" 5100000000)).session.pending = none := by
  intro session traffic
  have conducted : (opened session 0).Conducts
      (traffic ++ [.line "BJ:ACK__NIC:bob;100" 5100000000]) := by
    decide
  have answer : Operation.isAnswer (.line "BJ:ACK__NIC:bob;100" 5100000000) := by decide
  have waiting : ((opened session 0).run traffic).session.pending.isSome := by decide
  exact ⟨conducted, answer, waiting, (answer_matches_iff session 0 conducted answer waiting).1⟩

end Exchange

end Blackjack.Session
