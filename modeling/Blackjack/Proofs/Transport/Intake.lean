import Blackjack.Proofs.Transport.Life
import Blackjack.Proofs.Wire.Reassembly

/-!
# What is handed over of the peer's stream

The lines that a connection hands to its protocol are the first lines of what it has read, wherever
the reads were cut (`Trace.Intake`). A line may be longer than the limit if no read ends too far
inside it; a read that does ends the connection.
-/

namespace Blackjack

namespace Occurrence

variable {Request Output : Type}

/-- The bytes of a read. -/
def read? : Occurrence Request Output → Option (List UInt8)
  | received bytes => some bytes
  | _ => none

/-- A line that was handed to the protocol. -/
def text? : Occurrence Request Output → Option String
  | line text _ _ => some text
  | _ => none

/-- The connection was closed or lost. -/
def isEnd : Occurrence Request Output → Bool
  | stopped _ _ => true
  | _ => false

end Occurrence

namespace Trace

variable {Request Output : Type}

/-- The reads of a connection. -/
def reads (trace : Trace Request Output) : List (List UInt8) := trace.filterMap Occurrence.read?

/-- The lines that were handed to the protocol. -/
def texts (trace : Trace Request Output) : List String := trace.filterMap Occurrence.text?

@[simp] theorem reads_append (before after : Trace Request Output) :
    Trace.reads (before ++ after) = before.reads ++ after.reads :=
  List.filterMap_append

@[simp] theorem texts_append (before after : Trace Request Output) :
    Trace.texts (before ++ after) = before.texts ++ after.texts :=
  List.filterMap_append

/-- A line has made the protocol ask for a stop. -/
def LineAsks (trace : Trace Request Output) : Prop :=
  ∃ text now reaction, .line text now reaction ∈ trace ∧ reaction.stop.isSome

/-- The connection was lost because an unterminated line was too long. -/
def EndsOverlong (limit : Nat) (trace : Trace Request Output) : Prop :=
  ∃ length outputs, .stopped (.fault (FrameError.lineTooLong length limit).message) outputs ∈ trace

/-- A read after which another one follows has left a line that is short enough, and every line that
was complete by then was handed over. -/
def ReadsFit (limit : Nat) (trace : Trace Request Output) : Prop :=
  ∀ before after, trace.reads = before ++ after → after ≠ [] →
    Fits limit before.flatten ∧ streamTexts before.flatten <+: trace.texts

/-- A line that makes the protocol ask for a stop is the last one. -/
def AsksLast (trace : Trace Request Output) : Prop :=
  ∀ before after, trace = before ++ after → before.LineAsks → after.texts = []

/-- What a connection has handed over of what it has read. -/
structure Intake (limit : Nat) (trace : Trace Request Output) : Prop where
  /-- Lines are handed over in order and without a gap. -/
  begins : trace.texts <+: streamTexts trace.reads.flatten
  reads : trace.ReadsFit limit
  /-- If the last read has left a line that is too long, the connection was lost by that. -/
  lost : ¬Fits limit trace.reads.flatten → ∃ outputs, .stopped
    (.fault (FrameError.lineTooLong (leftover trace.reads.flatten) limit).message) outputs ∈ trace
  overlong : trace.EndsOverlong limit → ¬Fits limit trace.reads.flatten
  /-- Otherwise all complete lines were handed over, unless a line made the protocol ask for a
  stop. -/
  whole : Fits limit trace.reads.flatten → ¬trace.LineAsks →
    trace.texts = streamTexts trace.reads.flatten
  last : trace.AsksLast

variable {trace part before after : Trace Request Output}
  {occurrence : Occurrence Request Output} {limit : Nat}

theorem LineAsks.append_right (asks : trace.LineAsks) : (trace ++ part).LineAsks := by
  obtain ⟨text, now, reaction, member, stop⟩ := asks
  exact ⟨text, now, reaction, List.mem_append_left _ member, stop⟩

/-- Only a line can be the first that makes the protocol ask for a stop. -/
theorem LineAsks.of_append (asks : Trace.LineAsks (trace ++ part)) (quiet : part.texts = []) :
    trace.LineAsks := by
  obtain ⟨text, now, reaction, member, stop⟩ := asks
  rcases List.mem_append.mp member with earlier | latest
  · exact ⟨text, now, reaction, earlier, stop⟩
  · have given : text ∈ part.texts := List.mem_filterMap.mpr ⟨_, latest, rfl⟩
    rw [quiet] at given
    cases given

/-- Only a read changes what was read. -/
theorem ReadsFit.append (fit : trace.ReadsFit limit) (quiet : part.reads = []) :
    Trace.ReadsFit limit (trace ++ part) := by
  intro before after split later
  rw [reads_append, quiet, List.append_nil] at split
  obtain ⟨fits, given⟩ := fit before after split later
  refine ⟨fits, given.trans ?_⟩
  rw [texts_append]
  exact List.prefix_append _ _

/-- Before a read, all that was complete is handed over. -/
theorem ReadsFit.received (fit : trace.ReadsFit limit) (fits : Fits limit trace.reads.flatten)
    (given : streamTexts trace.reads.flatten <+: trace.texts) (bytes : List UInt8) :
    Trace.ReadsFit limit (trace ++ [.received bytes]) := by
  intro before after split later
  have texts : Trace.texts (trace ++ [.received bytes]) = trace.texts := by
    simp [Trace.texts, Occurrence.text?]
  rw [texts]
  rcases List.eq_nil_or_concat after with rfl | ⟨init, last, rfl⟩
  · exact absurd rfl later
  · rw [reads_append, List.concat_eq_append, ← List.append_assoc] at split
    obtain ⟨same, -⟩ := List.append_inj' split rfl
    by_cases none : init = []
    · subst none
      rw [List.append_nil] at same
      exact same ▸ ⟨fits, given⟩
    · exact fit before init same none

theorem ReadsFit.nil (limit : Nat) : ReadsFit limit ([] : Trace Request Output) := by
  intro before after split later
  exact absurd (List.append_eq_nil_iff.mp split.symm).2 later

theorem AsksLast.nil : AsksLast ([] : Trace Request Output) := by
  intro before after split asks
  rw [(List.append_eq_nil_iff.mp split.symm).2]
  rfl

theorem AsksLast.append (last : trace.AsksLast) (quiet : part.texts = []) :
    Trace.AsksLast (trace ++ part) := by
  intro before after split asks
  rw [List.append_eq_append_iff] at split
  rcases split with ⟨since, rfl, rfl⟩ | ⟨rest, rfl, rfl⟩
  · rw [texts_append, List.append_eq_nil_iff] at quiet
    exact quiet.2
  · rw [texts_append, quiet, last before rest rfl asks]
    rfl

/-- If no line has made the protocol ask for a stop, the next one may. -/
theorem AsksLast.concat (unasked : ¬trace.LineAsks) (occurrence : Occurrence Request Output) :
    Trace.AsksLast (trace ++ [occurrence]) := by
  intro before after split asks
  rw [List.append_eq_append_iff] at split
  rcases split with ⟨since, rfl, same⟩ | ⟨rest, rfl, -⟩
  · rcases List.append_eq_singleton_iff.mp same.symm with ⟨rfl, -⟩ | ⟨-, rfl⟩
    · rw [List.append_nil] at asks
      exact absurd asks unasked
    · rfl
  · exact absurd asks.append_right unasked

end Trace

namespace Worker

variable {State Request Output : Type} {protocol : Protocol State Request Output}
  {config : TransportConfig} {items : List (Ingress Request)} {trace part : Trace Request Output}
  {moment next : Moment State Request} {limit : Nat}

/-- While the loop runs, its buffer holds what the reads have left over, and the lines that it holds
are the complete ones that were not handed over yet. -/
structure Reading (limit : Nat) (trace : Trace Request Output) (moment : Moment State Request) :
    Prop where
  live : moment.worker.outcome = none
  limit_eq : moment.worker.inbound.limit = limit
  cut : ∃ lines, IsCut trace.reads.flatten lines moment.worker.inbound.pending ∧
    lines.map lineText = trace.texts ++ moment.lines
  short : limit = 0 ∨ moment.worker.inbound.pending.length ≤ limit
  reads : trace.ReadsFit limit
  going : ∀ occurrence ∈ trace, occurrence.isEnd = false
  unasked : moment.worker.link.stop = none → ¬trace.LineAsks
  asked : moment.lines ≠ [] → moment.worker.link.stop ≠ none → trace.LineAsks
  last : trace.AsksLast

namespace Reading

theorem fits (reading : Reading limit trace moment) : Fits limit trace.reads.flatten := by
  obtain ⟨lines, cut, -⟩ := reading.cut
  rw [Fits, cut.leftover_eq]
  exact reading.short

theorem texts (reading : Reading limit trace moment) :
    streamTexts trace.reads.flatten = trace.texts ++ moment.lines := by
  obtain ⟨lines, cut, same⟩ := reading.cut
  rw [cut.streamTexts_eq, same]

theorem begun (config : TransportConfig) (endpoint : Endpoint) (state : State) :
    Reading config.maxLineLength ([] : Trace Request Output)
      (⟨.new config endpoint state, []⟩ : Moment State Request) where
  live := rfl
  limit_eq := rfl
  cut := ⟨[], .of_not_mem List.not_mem_nil, rfl⟩
  short := .inr (Nat.zero_le _)
  reads := .nil _
  going := by simp
  unasked := by simp [Trace.LineAsks]
  asked := by simp
  last := .nil

/-- What neither reads nor hands over a line leaves the reading where it is. -/
theorem aside {worker other : Worker State Request} {occurrence : Occurrence Request Output}
    (reading : Reading limit trace ⟨worker, []⟩) (read : occurrence.read? = none)
    (text : occurrence.text? = none) (goes_on : occurrence.isEnd = false)
    (live : other.outcome = none) (inbound : other.inbound = worker.inbound)
    (stop : other.link.stop = none → worker.link.stop = none) :
    Reading limit (trace ++ [occurrence]) ⟨other, []⟩ := by
  have reads : Trace.reads [occurrence] = [] := by simp [Trace.reads, read]
  have texts : Trace.texts [occurrence] = [] := by simp [Trace.texts, text]
  obtain ⟨lines, cut, same⟩ := reading.cut
  exact {
    live := live
    limit_eq := by rw [inbound]; exact reading.limit_eq
    cut := ⟨lines, by simpa [reads, inbound] using cut, by simpa [texts] using same⟩
    short := by rw [inbound]; exact reading.short
    reads := reading.reads.append reads
    going := List.forall_mem_append.mpr ⟨reading.going, List.forall_mem_singleton.mpr goes_on⟩
    unasked := fun none asks => reading.unasked (stop none) (asks.of_append texts)
    asked := fun some => absurd rfl some
    last := reading.last.append texts }

/-- A read goes on with the stream, and the lines that it completes are held. -/
theorem received {worker : Worker State Request} (reading : Reading limit trace ⟨worker, []⟩)
    (going : worker.Going) {bytes : List UInt8} {inbound : LineBuffer} {texts : List String}
    (pushed : worker.inbound.push bytes = (inbound, .ok texts)) :
    Reading limit (trace ++ [.received bytes]) ⟨{ worker with inbound }, texts⟩ := by
  obtain ⟨lines, cut, same⟩ := reading.cut
  obtain ⟨more, next, rfl, limit_eq, short⟩ := LineBuffer.push_eq_ok_iff.mp pushed
  have silent : Trace.texts [(.received bytes : Occurrence Request Output)] = [] := rfl
  have unasked := reading.unasked going.unasked
  exact {
    live := going.live
    limit_eq := limit_eq.trans reading.limit_eq
    cut := by
      refine ⟨lines ++ more, ?_, ?_⟩
      · rw [Trace.reads_append, List.flatten_append]
        simpa [Trace.reads, Occurrence.read?] using cut.append next
      · simp only [List.append_nil] at same
        rw [List.map_append, same, Trace.texts_append, silent, List.append_nil]
    short := by
      rw [← reading.limit_eq]
      exact short
    reads := reading.reads.received reading.fits (by simp [reading.texts]) bytes
    going := List.forall_mem_append.mpr ⟨reading.going, List.forall_mem_singleton.mpr rfl⟩
    unasked := fun _ asks => unasked (asks.of_append silent)
    asked := fun _ some => absurd going.unasked some
    last := reading.last.append silent }

/-- A line is handed over. -/
theorem line {worker : Worker State Request} {text : String} {later : List String}
    (reading : Reading limit trace ⟨worker, text :: later⟩) (going : worker.Going)
    (reliable : protocol.Reliable) (now : Instant) :
    Reading limit (trace ++ [.line text now (protocol.line worker.state text now).2])
      ⟨worker.absorb (protocol.line worker.state text now).1
        (protocol.line worker.state text now).2, later⟩ := by
  let reaction := (protocol.line worker.state text now).2
  obtain ⟨lines, cut, same⟩ := reading.cut
  have unread : Trace.reads [(.line text now reaction : Occurrence Request Output)] = [] := rfl
  have unasked := reading.unasked going.unasked
  have stop : (worker.absorb (protocol.line worker.state text now).1 reaction).link.stop =
      reaction.stop := by simp [absorb, Link.absorb, going.unasked]
  exact {
    live := outcome_absorb going.live (reliable.line _ _ _)
    limit_eq := reading.limit_eq
    cut := by
      refine ⟨lines, ?_, ?_⟩
      · rw [Trace.reads_append, unread, List.append_nil]
        exact cut
      · rw [same, Trace.texts_append, List.append_assoc]
        rfl
    short := reading.short
    reads := reading.reads.append unread
    going := List.forall_mem_append.mpr ⟨reading.going, List.forall_mem_singleton.mpr rfl⟩
    unasked := by
      rintro none ⟨given, at_, answer, member, asks⟩
      rcases List.mem_append.mp member with earlier | latest
      · exact unasked ⟨given, at_, answer, earlier, asks⟩
      · obtain ⟨-, -, rfl⟩ := Occurrence.line.inj (List.mem_singleton.mp latest)
        rw [stop.symm.trans none] at asks
        cases asks
    asked := fun _ some => ⟨text, now, reaction, by simp [reaction],
      Option.isSome_iff_ne_none.mpr (stop ▸ some)⟩
    last := .concat unasked _ }

/-- A read that leaves too much loses the connection. -/
theorem overran {worker : Worker State Request} (reading : Reading limit trace ⟨worker, []⟩)
    {bytes : List UInt8} {inbound : LineBuffer} {failure : FrameError} {outputs : List Output}
    (pushed : worker.inbound.push bytes = (inbound, .error failure)) :
    Trace.Intake limit
      (trace ++ [.received bytes, .stopped (.fault failure.message) outputs]) := by
  obtain ⟨lines, cut, same⟩ := reading.cut
  obtain ⟨more, remainder, next, long, rfl⟩ := LineBuffer.of_push_eq_error pushed
  rw [reading.limit_eq] at long ⊢
  let cause : StopCause := .fault (FrameError.lineTooLong remainder.length limit).message
  let part : Trace Request Output := [.received bytes, .stopped cause outputs]
  have silent : part.texts = [] := rfl
  have read : (Trace.reads (trace ++ part)).flatten = trace.reads.flatten ++ bytes := by
    simp [part, Trace.reads, Occurrence.read?]
  have left : leftover (Trace.reads (trace ++ part)).flatten = remainder.length := by
    rw [read, (cut.append next).leftover_eq]
  have unfit : ¬Fits limit (Trace.reads (trace ++ part)).flatten := by rwa [Fits, left]
  have given : Trace.texts (trace ++ part) = streamTexts trace.reads.flatten := by
    rw [Trace.texts_append, silent, List.append_nil, reading.texts, List.append_nil]
  exact {
    begins := by
      rw [given, read]
      exact streamTexts_mono (List.prefix_append _ _)
    reads := by
      have read := reading.reads.received reading.fits (by simp [reading.texts]) bytes
      have whole : trace ++ part = (trace ++ [.received bytes]) ++ part.tail := by
        rw [List.append_assoc]
        rfl
      rw [whole]
      exact read.append rfl
    lost := by
      intro _
      rw [left]
      exact ⟨outputs, List.mem_append_right _ (by simp)⟩
    overlong := fun _ => unfit
    whole := fun fits => absurd fits unfit
    last := reading.last.append silent }

/-- Nothing more is read, and no read has left too much. -/
theorem intake (reading : Reading limit trace moment) (unread : part.reads = [])
    (silent : part.texts = []) (other : ¬Trace.EndsOverlong limit part)
    (dropped : moment.lines ≠ [] → trace.LineAsks) : Trace.Intake limit (trace ++ part) := by
  have reads : Trace.reads (trace ++ part) = trace.reads := by
    rw [Trace.reads_append, unread, List.append_nil]
  have texts : Trace.texts (trace ++ part) = trace.texts := by
    rw [Trace.texts_append, silent, List.append_nil]
  exact {
    begins := by
      rw [reads, texts, reading.texts]
      exact List.prefix_append _ _
    reads := reading.reads.append unread
    lost := fun unfit => absurd reading.fits (reads ▸ unfit)
    overlong := by
      rintro ⟨length, outputs, member⟩
      rcases List.mem_append.mp member with earlier | latest
      · cases reading.going _ earlier
      · exact absurd ⟨length, outputs, latest⟩ other
    whole := by
      intro _ unasked
      have none : moment.lines = [] := by
        by_contra some
        exact unasked (dropped some).append_right
      rw [reads, texts, reading.texts, none, List.append_nil]
    last := reading.last.append silent }

end Reading

/-- What goes wrong otherwise is worded otherwise. -/
theorem Mishap.ne_overlong {cause : StopCause} (mishap : Mishap cause) (length limit : Nat) :
    cause ≠ .fault (FrameError.lineTooLong length limit).message := by
  -- A fault is known by its wording alone, and the first letters of the wordings differ.
  have begins {text : String} {c : Char} (first : text.toList.head? = some c) (rest : String) :
      (text ++ rest).toList.head? = some c := by
    rw [String.toList_append, List.head?_append, first, Option.some_or]
  have overlong : (FrameError.lineTooLong length limit).message.toList.head? = some 'u' :=
    begins (begins (begins (by decide) _) _) _
  rintro rfl
  generalize (FrameError.lineTooLong length limit).message = message at mishap overlong
  cases mishap with
  | unreachable endpoint reason =>
    cases overlong.symm.trans (begins (c := 'c') (begins (begins (by decide) _) _) _)
  | unreadable reason => cases overlong.symm.trans (begins (c := 'r') (by decide) _)
  | unwritable reason => cases overlong.symm.trans (begins (c := 'w') (by decide) _)

/-- What a motion makes of the reading, or how it ends the connection. -/
theorem Motion.intake (reliable : protocol.Reliable) (motion : Motion protocol moment part next)
    (reading : Reading limit trace moment) :
    Reading limit (trace ++ part) next ∨
      next.worker.outcome ≠ none ∧ Trace.Intake limit (trace ++ part) := by
  have closed {worker : Worker State Request} {cause : StopCause} :
      (worker.close protocol cause).1.outcome ≠ none := nofun
  have ended {cause : StopCause} {outputs : List Output}
      (other : ∀ length, cause ≠ .fault (FrameError.lineTooLong length limit).message) :
      ¬Trace.EndsOverlong limit [(.stopped cause outputs : Occurrence Request Output)] := by
    rintro ⟨length, outputs, member⟩
    exact other length (Occurrence.stopped.inj (List.mem_singleton.mp member)).1.symm
  cases motion with
  | ticked going =>
    exact .inl (reading.aside rfl rfl rfl (outcome_absorb going.live (reliable.tick _ _)) rfl
      fun _ => going.unasked)
  | dialed going | established going | wrote going =>
    exact .inl (reading.aside rfl rfl rfl going.live rfl fun _ => going.unasked)
  | received going pushed => exact .inl (reading.received going pushed)
  | overran going pushed => exact .inr ⟨closed, reading.overran pushed⟩
  | line going text later now => exact .inl (reading.line going reliable now)
  | forwarded live => exact .inl (reading.aside rfl rfl rfl live rfl id)
  | @requested worker live request later first now =>
    have still : ({ worker with ingress := later } : Worker State Request).outcome = none := live
    refine .inl (reading.aside rfl rfl rfl (outcome_absorb still (reliable.request _ _ _)) rfl ?_)
    intro unasked
    cases stop : worker.link.stop with
    | none => rfl
    | some reason => simp [absorb, Link.absorb, stop] at unasked
  | obeyed live asked lines =>
    -- Lines are dropped only because of a line before them: nothing else is called while they wait.
    refine .inr ⟨closed, reading.intake rfl rfl (ended (by simp)) fun some => ?_⟩
    exact reading.asked some (by simp [asked])
  | lost going mishap =>
    exact .inr ⟨closed, reading.intake rfl rfl (ended fun length => mishap.ne_overlong length limit)
      (absurd rfl)⟩
  | halted going reason =>
    exact .inr ⟨closed, reading.intake rfl rfl (ended (by simp)) (absurd rfl)⟩

theorem Motion.live (motion : Motion protocol moment part next) :
    moment.worker.outcome = none := by
  cases motion with
  | forwarded live | requested live | obeyed live => exact live
  | ticked going | dialed going | established going | received going | overran going | line going
  | wrote going | lost going | halted going => exact going.live

theorem Life.intake (life : Life protocol config items trace moment)
    (reliable : protocol.Reliable) :
    Reading config.maxLineLength trace moment ∨
      moment.worker.outcome ≠ none ∧ trace.Intake config.maxLineLength := by
  induction life with
  | begun endpoint state => exact .inl (.begun config endpoint state)
  | handed _ item ih =>
    rcases ih with reading | ended
    · exact .inl ⟨reading.live, reading.limit_eq, reading.cut, reading.short, reading.reads,
        reading.going, reading.unasked, reading.asked, reading.last⟩
    · exact .inr ended
  | moved _ motion ih =>
    rcases ih with reading | ⟨ended, -⟩
    · exact motion.intake reliable reading
    · exact absurd motion.live ended

end Worker

namespace Engine

variable {State Request Output : Type} {protocol : Protocol State Request Output}

theorem Latest.intake {config : TransportConfig} {engine : Engine State Request}
    {items : List (Ingress Request)} {trace : Trace Request Output}
    (latest : Latest protocol config engine items trace) (reliable : protocol.Reliable) :
    trace.Intake config.maxLineLength := by
  rcases latest.life with ⟨-, -, rfl⟩ | ⟨worker, life, -⟩
  · exact {
      begins := List.nil_prefix
      reads := .nil _
      lost := fun unfit => absurd (.inr (Nat.zero_le _)) unfit
      overlong := by simp [Trace.EndsOverlong]
      whole := fun _ _ => rfl
      last := .nil }
  · rcases life.intake reliable with reading | ⟨-, intake⟩
    · have none : ¬Trace.EndsOverlong config.maxLineLength ([] : Trace Request Output) := by
        simp [Trace.EndsOverlong]
      have intake := reading.intake rfl rfl none (absurd rfl)
      rwa [List.append_nil] at intake
    · exact intake

end Engine

end Blackjack
