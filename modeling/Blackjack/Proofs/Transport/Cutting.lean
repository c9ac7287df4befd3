import Blackjack.Proofs.Transport.Intake

/-!
# Reads of one stream, cut in two ways

Of two connections that read the same stream, one hands over the first lines of what the other one
does. Where the reads are cut matters for a stream with a line that is too long: a read that ends
too far inside it loses the connection, and a read that brings all of it does not.
-/

namespace Blackjack

namespace Trace

variable {Request Output : Type}

/-- Whether a line makes the protocol ask for a stop depends on the lines handed over so far. -/
def StopsAt (stops : List String → Prop) (trace : Trace Request Output) : Prop :=
  ∀ before text now reaction after, trace = before ++ .line text now reaction :: after →
    (reaction.stop.isSome ↔ stops (Trace.texts before ++ [text]))

/-- The connection has read the whole stream, or a line of it has made the protocol ask for a
stop. -/
def Finishes (stream : List UInt8) (trace : Trace Request Output) : Prop :=
  trace.reads.flatten = stream ∨ trace.LineAsks

variable {trace : Trace Request Output} {limit : Nat}

/-- The place of a line among what was handed over. -/
theorem exists_line_of_texts {given later : List String} {text : String}
    (split : trace.texts = given ++ text :: later) :
    ∃ before now reaction after, trace = before ++ .line text now reaction :: after ∧
      Trace.texts before = given := by
  obtain ⟨first, rest, rfl, rfl, tail⟩ := List.filterMap_eq_append_iff.mp split
  obtain ⟨silent, occurrence, after, rfl, quiet, here, -⟩ := List.filterMap_eq_cons_iff.mp tail
  cases occurrence with
  | line given now reaction =>
    obtain rfl : given = text := Option.some.inj here
    refine ⟨first ++ silent, now, reaction, after, by rw [List.append_assoc], ?_⟩
    rw [texts_append, show Trace.texts silent = [] from List.filterMap_eq_nil_iff.mpr quiet,
      List.append_nil]
    rfl
  | _ => cases here

namespace Intake

variable {other : Trace Request Output} {stops : List String → Prop} {stream : List UInt8}

theorem endsOverlong_iff (intake : trace.Intake limit) :
    trace.EndsOverlong limit ↔ ¬Fits limit trace.reads.flatten :=
  ⟨intake.overlong, fun unfit => ⟨_, intake.lost unfit⟩⟩

/-- Of two connections that read the same stream, one has handed over the first lines of what the
other one has. -/
theorem texts_comparable (intake : trace.Intake limit) (counter : other.Intake limit)
    (begins : trace.reads.flatten <+: stream) (starts : other.reads.flatten <+: stream) :
    trace.texts <+: other.texts ∨ other.texts <+: trace.texts :=
  List.prefix_or_prefix_of_prefix (intake.begins.trans (streamTexts_mono begins))
    (counter.begins.trans (streamTexts_mono starts))

/-- No read leaves too much of a stream whose lines are all short enough. -/
theorem not_endsOverlong (intake : trace.Intake limit) (begins : trace.reads.flatten <+: stream)
    (fits : LinesFit limit stream) : ¬trace.EndsOverlong limit := by
  rw [intake.endsOverlong_iff, not_not]
  exact fits.imp_right fun ⟨short, left⟩ => leftover_le_of_begins begins short left

/-- The line at which the protocol asks for a stop is the last one that is handed over. -/
theorem texts_of_asked {before after : Trace Request Output} {text : String} {now : Instant}
    {reaction : Reaction Output}
    (intake : Trace.Intake limit (before ++ .line text now reaction :: after))
    (stop : reaction.stop.isSome) :
    Trace.texts (before ++ .line text now reaction :: after) = before.texts ++ [text] := by
  have asks : Trace.LineAsks (before ++ [.line text now reaction]) :=
    ⟨text, now, reaction, by simp, stop⟩
  have last : after.texts = [] := intake.last _ after (by simp) asks
  rw [List.append_cons, texts_append, last, List.append_nil, texts_append]
  rfl

theorem stops_texts (intake : trace.Intake limit) (alike : trace.StopsAt stops)
    (asks : trace.LineAsks) : trace.texts ≠ [] ∧ stops trace.texts := by
  obtain ⟨text, now, reaction, member, stop⟩ := asks
  obtain ⟨before, after, rfl⟩ := List.append_of_mem member
  rw [intake.texts_of_asked stop]
  exact ⟨by simp, (alike before text now reaction after rfl).mp stop⟩

/-- Nothing is handed over after the lines at which the protocol asks for a stop. -/
theorem texts_eq_of_stops (intake : trace.Intake limit) (alike : trace.StopsAt stops)
    {given : List String} (begins : given <+: trace.texts) (some : given ≠ [])
    (stop : stops given) : trace.texts = given := by
  obtain ⟨later, split⟩ := begins
  rcases List.eq_nil_or_concat given with rfl | ⟨sofar, text, rfl⟩
  · exact absurd rfl some
  rw [List.concat_eq_append] at split stop ⊢
  have whole : trace.texts = sofar ++ text :: later := by
    rw [← split, List.append_assoc]
    rfl
  obtain ⟨before, now, reaction, after, rfl, rfl⟩ := exists_line_of_texts whole
  exact intake.texts_of_asked ((alike before text now reaction after rfl).mpr stop)

/-- A connection that has handed over a first part of what another one has, and is through with the
stream, has handed over as much. -/
theorem texts_eq_of_begins (intake : trace.Intake limit) (counter : other.Intake limit)
    (starts : other.reads.flatten <+: stream) (alike : trace.StopsAt stops)
    (same : other.StopsAt stops) (finishes : trace.Finishes stream)
    (short : ¬trace.EndsOverlong limit) (begins : trace.texts <+: other.texts) :
    trace.texts = other.texts := by
  by_cases asks : trace.LineAsks
  -- The other connection came to the same lines, and had to stop there as well.
  · obtain ⟨some, stop⟩ := intake.stops_texts alike asks
    exact (counter.texts_eq_of_stops same begins some stop).symm
  · have read : trace.reads.flatten = stream := finishes.resolve_right asks
    have fits : Fits limit trace.reads.flatten := by
      rwa [intake.endsOverlong_iff, not_not] at short
    have most : other.texts <+: trace.texts := by
      rw [intake.whole fits asks, read]
      exact counter.begins.trans (streamTexts_mono starts)
    exact begins.eq_of_length (Nat.le_antisymm begins.length_le most.length_le)

/-- Two connections that are through with the same stream have handed over the same lines. -/
theorem texts_eq (intake : trace.Intake limit) (counter : other.Intake limit)
    (begins : trace.reads.flatten <+: stream) (starts : other.reads.flatten <+: stream)
    (alike : trace.StopsAt stops) (same : other.StopsAt stops) (finishes : trace.Finishes stream)
    (completes : other.Finishes stream) (short : ¬trace.EndsOverlong limit)
    (brief : ¬other.EndsOverlong limit) : trace.texts = other.texts := by
  rcases intake.texts_comparable counter begins starts with less | less
  · exact intake.texts_eq_of_begins counter starts alike same finishes short less
  · exact (counter.texts_eq_of_begins intake begins same alike completes brief less).symm

end Intake

end Trace

namespace Engine

variable {State Request Output : Type} {protocol : Protocol State Request Output}

/-- A connection that is established and then reads. -/
def feed (reads : List (List UInt8)) : List (Move Request) :=
  .start ⟨"localhost", 7777⟩ 0 :: .iterate 0 .connected ::
    reads.map fun bytes => .iterate 0 (.received bytes fun _ => 0)

/-- The listener asks for a stop at the line that tells it to halt. -/
theorem listener_stopsAt (config : TransportConfig) (initial : List String)
    (history : List (Move Unit)) :
    ((new config initial).trace listener history).current.StopsAt
      fun texts => texts.getLast? = some "halt" := by
  intro before text now reaction after split
  have member := split ▸ List.mem_append_right before (List.mem_cons_self ..)
  obtain ⟨lines, answers⟩ := answers_of_history listener_reliable config initial history _ member
  obtain rfl : reaction = (listener.line lines text now).2 := answers
  by_cases halt : text = "halt" <;> simp [listener, halt]

/-- Where the reads are cut may matter: a line that is longer than the limit is handed over if one
read brings all of it, and ends the connection if a read ends too far inside it. -/
theorem not_forall_cut_alike :
    ¬∀ (config : TransportConfig) (first second : List (List UInt8)),
      let one := ((new config []).trace listener (feed first)).current
      let two := ((new config []).trace listener (feed second)).current
      (∀ bytes ∈ first ++ second, bytes ≠ [] ∧ bytes.length ≤ config.readLimit) →
      first.flatten = second.flatten →
      one.texts = two.texts ∧
        (one.EndsOverlong config.maxLineLength ↔ two.EndsOverlong config.maxLineLength) := by
  intro claim
  have wrong := claim { maxLineLength := 8 } [Text.encode "0123456789\n".toList]
    [Text.encode "0123456789".toList, Text.encode "\n".toList] (by decide)
    (by decide)
  exact absurd wrong.1 (by decide)

/-- Two connections, of whatever histories, that read the same stream. What they hand over are its
first lines. A connection is lost to a line that is too long exactly if its last read has left too
much, so connections that have read the same bytes fare the same in that, and none is lost if the
stream has no such line. Otherwise they hand over the same lines, if the protocol asks for a stop at
the same ones. -/
theorem intake_of_reads (reliable : protocol.Reliable) (config : TransportConfig)
    (initial other : State) (first second : List (Move Request)) :
    let limit := config.maxLineLength
    let one := ((new config initial).trace protocol first).current
    let two := ((new config other).trace protocol second).current
    one.Intake limit ∧ two.Intake limit ∧
    (one.reads.flatten = two.reads.flatten → (one.EndsOverlong limit ↔ two.EndsOverlong limit)) ∧
    ∀ stream, one.reads.flatten <+: stream → two.reads.flatten <+: stream →
      (one.texts <+: two.texts ∨ two.texts <+: one.texts) ∧
      (LinesFit limit stream → ¬one.EndsOverlong limit ∧ ¬two.EndsOverlong limit) ∧
      ∀ stops, one.StopsAt stops → two.StopsAt stops →
        one.Finishes stream → two.Finishes stream →
        ¬one.EndsOverlong limit → ¬two.EndsOverlong limit → one.texts = two.texts := by
  intro limit one two
  have intake : one.Intake limit :=
    (latest_of_history reliable config initial first).intake reliable
  have counter : two.Intake limit :=
    (latest_of_history reliable config other second).intake reliable
  refine ⟨intake, counter, ?_, fun stream begins starts => ⟨?_, ?_, ?_⟩⟩
  · intro same
    rw [intake.endsOverlong_iff, counter.endsOverlong_iff, same]
  · exact intake.texts_comparable counter begins starts
  · intro fits
    exact ⟨intake.not_endsOverlong begins fits, counter.not_endsOverlong starts fits⟩
  · intro stops
    exact intake.texts_eq counter begins starts

/-- One connection reads the stream at once. The other one gets it in pieces, the first of which
ends inside a character, and stops before it has read all. -/
theorem intake_of_reads_halt :
    let config : TransportConfig := { maxLineLength := 8 }
    let stream := Text.encode "né\nhalt\nxyz".toList
    let first := [stream]
    let second := [stream.take 2, (stream.drop 2).take 4, (stream.drop 6).take 3, stream.drop 9]
    let one := ((new config []).trace listener (feed first)).current
    let two := ((new config []).trace listener (feed second)).current
    listener.Reliable ∧ one.reads.flatten <+: stream ∧ two.reads.flatten <+: stream ∧
    one.reads.flatten ≠ two.reads.flatten ∧
    one.StopsAt (fun texts => texts.getLast? = some "halt") ∧
    two.StopsAt (fun texts => texts.getLast? = some "halt") ∧
    one.Finishes stream ∧ two.Finishes stream ∧
    ¬one.EndsOverlong 8 ∧ ¬two.EndsOverlong 8 ∧ one.texts = two.texts := by
  intro config stream first second one two
  have begins : one.reads.flatten = stream := by decide
  have starts : two.reads.flatten = stream.take 9 := by decide
  have alike : one.StopsAt (fun texts => texts.getLast? = some "halt") := listener_stopsAt _ _ _
  have same : two.StopsAt (fun texts => texts.getLast? = some "halt") := listener_stopsAt _ _ _
  have asks : two.LineAsks := ⟨"halt", 0, { stop := some "told to stop" }, by decide, rfl⟩
  have fits : LinesFit 8 stream := .inr (by decide)
  have part : two.reads.flatten <+: stream := starts ▸ List.take_prefix 9 stream
  obtain ⟨-, -, -, fare⟩ := intake_of_reads listener_reliable config [] [] (feed first) (feed second)
  obtain ⟨-, short, agree⟩ := fare stream (begins ▸ List.prefix_rfl) part
  obtain ⟨whole, cut⟩ := short fits
  have apart : one.reads.flatten ≠ two.reads.flatten := by
    rw [begins, starts]
    decide
  have agreed : one.texts = two.texts :=
    agree _ alike same (.inl begins) (.inr asks) whole cut
  exact ⟨listener_reliable, begins ▸ List.prefix_rfl, part, apart, alike, same, .inl begins, .inr asks,
    whole, cut, agreed⟩

end Engine

end Blackjack
