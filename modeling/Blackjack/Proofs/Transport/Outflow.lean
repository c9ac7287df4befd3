import Blackjack.Proofs.Transport.Life
import Blackjack.Proofs.Wire.Reassembly

/-!
# The outbound stream of a connection

Frames join the queue of a connection at its end and leave it at its front, as far as the socket
takes them. `Trace.Passes` says what a trace does to a queue, and every worker's queue is what its
trace has made of an empty one (`Life.passes`): no byte is lost, repeated or put in another place,
and none comes from an earlier connection. The work of callers is taken up in the order in which it
was handed over (`Life.takes`).
-/

namespace Blackjack

namespace Link

/-- A message goes on the wire with its delimiter. -/
theorem wireBytes_ends (message : String) :
    ∃ content, wireBytes message = content ++ [delimiter] := by
  unfold wireBytes ensureDelimited
  split
  · next whole =>
    obtain ⟨text, same⟩ := List.getLast?_eq_some_iff.mp whole
    exact ⟨Text.encode text, by rw [same, encode_line]⟩
  · exact ⟨Text.encode message.toList, by rw [String.toList_append]; exact encode_line _⟩

end Link

namespace Outbound

variable {frames : List (List UInt8)} {answers : List WriteAnswer} {reason : String}

/-- A frame of which a part is written leaves a tail that is not empty. -/
theorem nil_not_mem_waiting (full : [] ∉ frames) (answers : List WriteAnswer) :
    [] ∉ (flush frames answers).waiting := by
  fun_induction flush frames answers with
  | case1 => simp
  | case2 | case3 | case4 | case5 => exact full
  | case6 frame later answers count some_taken partly =>
    have tail : frame.drop count ≠ [] := by
      simp only [Ne, List.drop_eq_nil_iff]
      omega
    simp only [List.mem_cons, not_or] at full ⊢
    exact ⟨tail.symm, full.2⟩
  | case7 frame later answers count some_taken whole rest ih =>
    exact ih fun member => full (List.mem_cons_of_mem _ member)

/-- The socket takes whole frames until it fails, or takes nothing of a frame that holds
something. -/
inductive Breaks : List (List UInt8) → List WriteAnswer → String → Prop
  | failed (frame : List UInt8) (later : List (List UInt8)) (reason : String)
      (answers : List WriteAnswer) : Breaks (frame :: later) (.failed reason :: answers) reason
  | zero {frame : List UInt8} (holds : frame ≠ []) (later : List (List UInt8))
      (answers : List WriteAnswer) : Breaks (frame :: later) (.accepted 0 :: answers) zeroWrite
  | later {frame : List UInt8} {later : List (List UInt8)} {count : Nat} {reason : String}
      {answers : List WriteAnswer} (whole : frame.length ≤ count)
      (rest : Breaks later answers reason) :
      Breaks (frame :: later) (.accepted count :: answers) reason

theorem failure_eq_some_iff (full : [] ∉ frames) :
    (flush frames answers).failure = some reason ↔ Breaks frames answers reason := by
  constructor
  · fun_induction flush frames answers with
    | case1 | case2 | case3 | case6 =>
      intro failed
      cases failed
    | case4 frame later answers why =>
      intro failed
      obtain rfl := Option.some.inj failed
      exact .failed frame later _ answers
    | case5 frame later answers count nothing =>
      rintro ⟨⟩
      have holds : frame ≠ [] := fun empty => full (by simp [empty])
      have positive := List.length_pos_iff.mpr holds
      obtain rfl : count = 0 := by omega
      exact .zero holds later answers
    | case7 frame later answers count some_taken whole rest ih =>
      intro failed
      refine .later (by omega) (ih ?_ failed)
      exact fun member => full (List.mem_cons_of_mem _ member)
  · intro breaks
    induction breaks with
    | failed => rfl
    | zero holds => simp [flush]
    | @later frame later count reason answers whole rest ih =>
      have holds : frame ≠ [] := fun empty => full (by simp [empty])
      have positive := List.length_pos_iff.mpr holds
      rw [flush]
      simp only
      rw [if_neg (by omega), if_neg (by omega)]
      exact ih fun member => full (List.mem_cons_of_mem _ member)

end Outbound

namespace Occurrence

variable {Request Output : Type}

/-- The work of a caller that was taken up. -/
def work? : Occurrence Request Output → Option (Ingress Request)
  | request given _ _ => some (.request given)
  | forwarded message => some (.message message)
  | connecting _ | tick _ _ | dialed _ | established | received _ | line _ _ _ | wrote _
  | stopped _ _ => none

/-- Every frame that joins the queue ends with the delimiter. -/
theorem frames_end (occurrence : Occurrence Request Output) :
    ∀ frame ∈ occurrence.frames, ∃ content, frame = content ++ [delimiter] := by
  intro frame member
  have wire : ∃ message, frame = Link.wireBytes message := by
    cases occurrence with
    | tick | line | request =>
      obtain ⟨message, -, rfl⟩ := List.mem_map.mp member
      exact ⟨message, rfl⟩
    | forwarded message => exact ⟨message, List.mem_singleton.mp member⟩
    | _ => cases member
  obtain ⟨message, rfl⟩ := wire
  exact Link.wireBytes_ends message

end Occurrence

namespace Trace

variable {Request Output : Type} {queue middle last : List (List UInt8)}
  {before after trace : Trace Request Output}

/-- The work of callers that was taken up, in order. -/
def taken (trace : Trace Request Output) : List (Ingress Request) :=
  trace.filterMap Occurrence.work?

@[simp] theorem taken_append (before after : Trace Request Output) :
    Trace.taken (before ++ after) = before.taken ++ after.taken :=
  List.filterMap_append

theorem frames_end (trace : Trace Request Output) :
    ∀ frame ∈ trace.frames, ∃ content, frame = content ++ [delimiter] := by
  intro frame member
  obtain ⟨occurrence, -, member⟩ := List.mem_flatMap.mp member
  exact occurrence.frames_end frame member

/-- What a trace makes of a queue: frames join it at its end, and what is written is what a flush
takes from its front. -/
inductive Passes : List (List UInt8) → Trace Request Output → List (List UInt8) → Prop
  | nil (queue : List (List UInt8)) : Passes queue [] queue
  | queues {queue last : List (List UInt8)} {occurrence : Occurrence Request Output}
      {later : Trace Request Output} (silent : occurrence.written = [])
      (rest : Passes (queue ++ occurrence.frames) later last) :
      Passes queue (occurrence :: later) last
  | writes {queue last : List (List UInt8)} (answers : List Outbound.WriteAnswer)
      {later : Trace Request Output}
      (rest : Passes (Outbound.flush queue answers).waiting later last) :
      Passes queue (.wrote (Outbound.flush queue answers).written :: later) last

namespace Passes

theorem append (first : Passes queue before middle) (second : Passes middle after last) :
    Passes queue (before ++ after) last := by
  induction first with
  | nil => exact second
  | queues silent _ ih => exact .queues silent (ih second)
  | writes answers _ ih => exact .writes answers (ih second)

theorem of_append (passes : Passes queue (before ++ after) last) :
    ∃ middle, Passes queue before middle ∧ Passes middle after last := by
  induction before generalizing queue with
  | nil => exact ⟨queue, .nil queue, passes⟩
  | cons occurrence before ih =>
    cases passes with
    | queues silent rest =>
      obtain ⟨middle, first, second⟩ := ih rest
      exact ⟨middle, .queues silent first, second⟩
    | writes answers rest =>
      obtain ⟨middle, first, second⟩ := ih rest
      exact ⟨middle, .writes answers first, second⟩

/-- No byte is lost, repeated or put in another place. -/
theorem conserves (passes : Passes queue trace last) :
    trace.written ++ last.flatten = queue.flatten ++ trace.frames.flatten := by
  induction passes with
  | nil queue => simp [written, frames]
  | @queues queue last occurrence later silent _ ih =>
    calc Trace.written (occurrence :: later) ++ last.flatten
        = later.written ++ last.flatten := by simp [written, silent]
      _ = queue.flatten ++ (occurrence.frames.flatten ++ later.frames.flatten) := by simp [ih]
      _ = queue.flatten ++ (Trace.frames (occurrence :: later)).flatten := by simp [frames]
  | @writes queue last answers later _ ih =>
    let flushed := Outbound.flush queue answers
    calc Trace.written (.wrote flushed.written :: later) ++ last.flatten
        = flushed.written ++ (Trace.written later ++ last.flatten) := by
          simp [written, Occurrence.written]
      _ = flushed.written ++ flushed.waiting.flatten ++ (Trace.frames later).flatten := by
          rw [ih, List.append_assoc]
      _ = queue.flatten ++ (Trace.frames (.wrote flushed.written :: later)).flatten := by
          rw [Outbound.written_append_waiting]
          rfl

/-- No frame of the queue is ever empty. -/
theorem nil_not_mem (passes : Passes queue trace last) (full : [] ∉ queue) : [] ∉ last := by
  induction passes with
  | nil => exact full
  | @queues queue last occurrence later _ _ ih =>
    refine ih fun member => ?_
    rcases List.mem_append.mp member with before | joins
    · exact full before
    · obtain ⟨content, ends⟩ := occurrence.frames_end [] joins
      simp at ends
  | writes answers _ ih => exact ih (Outbound.nil_not_mem_waiting full answers)

end Passes

end Trace

namespace Worker

variable {State Request Output : Type} {protocol : Protocol State Request Output}
  {config : TransportConfig} {items : List (Ingress Request)} {trace part : Trace Request Output}
  {moment next : Moment State Request}

/-- What a motion does with the frames that wait. -/
theorem Motion.passes (motion : Motion protocol moment part next) :
    Trace.Passes moment.worker.link.outbound part next.worker.link.outbound := by
  have aside {queue : List (List UInt8)} {occurrence : Occurrence Request Output}
      (silent : occurrence.written = []) (frames : occurrence.frames = []) :
      Trace.Passes queue [occurrence] queue :=
    .queues silent (by rw [frames, List.append_nil]; exact .nil queue)
  cases motion with
  | ticked | line | requested | forwarded => exact .queues rfl (.nil _)
  | dialed | established | received => exact aside rfl rfl
  | overran => exact .append (aside rfl rfl) (aside rfl rfl)
  | wrote going answers => exact .writes answers (.nil _)
  | obeyed | lost | halted => exact aside rfl rfl

/-- A motion takes up the work that waits first, or none. -/
theorem Motion.takes (motion : Motion protocol moment part next) :
    moment.worker.ingress = part.taken ++ next.worker.ingress := by
  cases motion with
  | forwarded _ first | requested _ first => exact first
  | _ => rfl

namespace Life

/-- The queue of a connection is what its trace has made of an empty one. -/
theorem passes (life : Life protocol config items trace moment) :
    Trace.Passes [] trace moment.worker.link.outbound := by
  induction life with
  | begun => exact .nil []
  | handed _ _ ih => exact ih
  | moved _ motion ih => exact ih.append motion.passes

/-- The work that was taken up came first, in the order in which it was handed over. -/
theorem takes (life : Life protocol config items trace moment) :
    items = trace.taken ++ moment.worker.ingress := by
  induction life with
  | begun => rfl
  | handed _ item ih => rw [ih, List.append_assoc]
  | moved _ motion ih => rw [Trace.taken_append, List.append_assoc, ← motion.takes, ih]

end Life

end Worker

/-- The queue and the work that waits on the connection that was begun last. -/
theorem Engine.Latest.exists_queue {State Request Output : Type}
    {protocol : Protocol State Request Output} {config : TransportConfig}
    {engine : Engine State Request} {items : List (Ingress Request)} {trace : Trace Request Output}
    (latest : Latest protocol config engine items trace) :
    ∃ queue waiting,
      (∀ worker ∈ engine.worker, worker.link.outbound = queue ∧ worker.ingress = waiting) ∧
      items = trace.taken ++ waiting ∧ Trace.Passes [] trace queue := by
  rcases latest.life with ⟨vacant, rfl, rfl⟩ | ⟨worker, life, registered⟩
  · exact ⟨[], [], by simp [vacant], rfl, .nil []⟩
  · refine ⟨worker.link.outbound, worker.ingress, ?_, life.takes, life.passes⟩
    intro other member
    rcases registered with same | vacant
    · obtain rfl := Option.some.inj (same.symm.trans member)
      exact ⟨rfl, rfl⟩
    · cases vacant.symm.trans member

end Blackjack
