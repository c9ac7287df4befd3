import Blackjack.Proofs.Text.Utf8
import Blackjack.Wire.LineBuffer
import Mathlib.Data.List.Forall2

/-!
# Reassembly refines the cutting of a stream

A byte stream has one cut: the segments that its delimiters end, and what follows the last one. A
buffer holds what its stream has left over, so a push gives the segments that it completes, whole,
and where the stream was cut into pieces does not matter as long as every push succeeds
(`reassembly`).
-/

namespace Blackjack

/-- The delimiters of a stream end these lines, and the remainder follows the last one. -/
structure IsCut (stream : List UInt8) (lines : List (List UInt8)) (remainder : List UInt8) :
    Prop where
  joined : stream = lines.flatMap (· ++ [delimiter]) ++ remainder
  closed : ∀ line ∈ lines, delimiter ∉ line
  unfinished : delimiter ∉ remainder

namespace IsCut

variable {stream more remainder rest : List UInt8} {lines later : List (List UInt8)}

theorem of_not_mem (unfinished : delimiter ∉ remainder) : IsCut remainder [] remainder :=
  ⟨rfl, by simp, unfinished⟩

/-- A cut goes on from its remainder. -/
theorem append (cut : IsCut stream lines remainder) (next : IsCut (remainder ++ more) later rest) :
    IsCut (stream ++ more) (lines ++ later) rest where
  joined := by
    rw [List.flatMap_append, List.append_assoc, ← next.joined, ← List.append_assoc, ← cut.joined]
  closed := by
    intro line member
    rcases List.mem_append.mp member with earlier | latest
    · exact cut.closed line earlier
    · exact next.closed line latest
  unfinished := next.unfinished

theorem cons_delimiter (cut : IsCut stream lines remainder) :
    IsCut (delimiter :: stream) ([] :: lines) remainder where
  joined := by simp [cut.joined]
  closed := by simpa using cut.closed
  unfinished := cut.unfinished

/-- A byte in front joins the remainder if no line is complete. -/
theorem cons_remainder {b : UInt8} (inside : b ≠ delimiter) (cut : IsCut stream [] remainder) :
    IsCut (b :: stream) [] (b :: remainder) where
  joined := by simp [cut.joined]
  closed := by simp
  unfinished := by simp [inside.symm, cut.unfinished]

/-- A byte in front joins the first line. -/
theorem cons_line {b : UInt8} {line : List UInt8} (inside : b ≠ delimiter)
    (cut : IsCut stream (line :: later) remainder) :
    IsCut (b :: stream) ((b :: line) :: later) remainder where
  joined := by simp [cut.joined]
  closed := by
    have closed := cut.closed
    simp_all [inside.symm]
  unfinished := cut.unfinished

end IsCut

theorem isCut_splitLines (stream : List UInt8) :
    IsCut stream (splitLines stream).1 (splitLines stream).2 := by
  induction stream with
  | nil => exact .of_not_mem (by simp)
  | cons b rest ih =>
    simp only [splitLines]
    split
    · next ends =>
      rw [ends]
      exact ih.cons_delimiter
    · next inside =>
      cases lines : (splitLines rest).1 with
      | nil =>
        rw [lines] at ih
        exact ih.cons_remainder inside
      | cons line later =>
        rw [lines] at ih
        exact ih.cons_line inside

theorem splitLines_of_not_mem {stream : List UInt8} (unfinished : delimiter ∉ stream) :
    splitLines stream = ([], stream) := by
  induction stream with
  | nil => rfl
  | cons b rest ih =>
    rw [List.mem_cons, not_or] at unfinished
    simp only [splitLines, ih unfinished.2, if_neg (Ne.symm unfinished.1)]

theorem splitLines_line_append {line : List UInt8} (closed : delimiter ∉ line)
    (rest : List UInt8) :
    splitLines (line ++ delimiter :: rest) = (line :: (splitLines rest).1, (splitLines rest).2) := by
  induction line with
  | nil => simp [splitLines]
  | cons b line ih =>
    rw [List.mem_cons, not_or] at closed
    simp only [List.cons_append, splitLines, ih closed.2, if_neg (Ne.symm closed.1)]

/-- A stream has one cut only. -/
theorem IsCut.splitLines_eq {stream remainder : List UInt8} {lines : List (List UInt8)}
    (cut : IsCut stream lines remainder) : splitLines stream = (lines, remainder) := by
  induction lines generalizing stream with
  | nil =>
    rw [cut.joined]
    exact splitLines_of_not_mem cut.unfinished
  | cons line later ih =>
    have first : delimiter ∉ line := cut.closed line (by simp)
    have rest : IsCut (later.flatMap (· ++ [delimiter]) ++ remainder) later remainder :=
      ⟨rfl, fun other member => cut.closed other (by simp [member]), cut.unfinished⟩
    rw [cut.joined, List.flatMap_cons, List.append_assoc, List.append_assoc, List.singleton_append,
      splitLines_line_append first, ih rest]

section Stream

variable {stream start : List UInt8} {lines : List (List UInt8)} {remainder : List UInt8}
  {limit : Nat}

/-- The lines that a stream completes, as text. -/
def streamTexts (stream : List UInt8) : List String := (splitLines stream).1.map lineText

/-- The number of bytes that a stream leaves behind its last delimiter. -/
def leftover (stream : List UInt8) : Nat := (splitLines stream).2.length

/-- What a stream leaves behind its last delimiter is not too long. -/
def Fits (limit : Nat) (stream : List UInt8) : Prop := limit = 0 ∨ leftover stream ≤ limit

/-- No line of a stream is too long, nor is what it leaves behind its last delimiter. -/
def LinesFit (limit : Nat) (stream : List UInt8) : Prop :=
  limit = 0 ∨ (∀ line ∈ (splitLines stream).1, line.length ≤ limit) ∧ leftover stream ≤ limit

theorem IsCut.streamTexts_eq (cut : IsCut stream lines remainder) :
    streamTexts stream = lines.map lineText := by
  rw [streamTexts, cut.splitLines_eq]

theorem IsCut.leftover_eq (cut : IsCut stream lines remainder) :
    leftover stream = remainder.length := by
  rw [leftover, cut.splitLines_eq]

/-- More of a stream completes more lines. -/
theorem streamTexts_mono (begins : start <+: stream) :
    streamTexts start <+: streamTexts stream := by
  obtain ⟨more, rfl⟩ := begins
  have cut := isCut_splitLines start
  have whole := cut.append (isCut_splitLines (_ ++ more))
  rw [whole.streamTexts_eq, cut.streamTexts_eq, List.map_append]
  exact List.prefix_append _ _

/-- What is left of a stream is a part of what is left of a longer one, or of the line that this one
goes on with. -/
theorem leftover_le_of_begins (begins : start <+: stream)
    (short : ∀ line ∈ (splitLines stream).1, line.length ≤ limit) (fits : leftover stream ≤ limit) :
    leftover start ≤ limit := by
  obtain ⟨more, rfl⟩ := begins
  have cut := isCut_splitLines start
  generalize (splitLines start).1 = lines at cut
  generalize (splitLines start).2 = remainder at cut
  have next := isCut_splitLines (remainder ++ more)
  generalize (splitLines (remainder ++ more)).1 = later at next
  generalize (splitLines (remainder ++ more)).2 = rest at next
  have whole := cut.append next
  rw [whole.leftover_eq] at fits
  rw [whole.splitLines_eq] at short
  rw [cut.leftover_eq]
  have joined := next.joined
  cases later with
  | nil =>
    have same := congrArg List.length joined
    simp only [List.flatMap_nil, List.nil_append, List.length_append] at same
    omega
  | cons first others =>
    have bound := short first (by simp)
    rw [List.flatMap_cons, List.append_assoc, List.append_assoc, List.append_eq_append_iff] at joined
    rcases joined with ⟨tail, rfl, -⟩ | ⟨tail, rfl, same⟩
    · rw [List.length_append] at bound
      omega
    · cases tail with
      | nil => simpa using bound
      | cons b tail =>
        obtain ⟨rfl, -⟩ := List.cons.inj same
        exact absurd (by simp) cut.unfinished

end Stream

theorem lineText_encode (text : String) : lineText (Text.encode text.toList) = text := by
  rw [lineText, Text.decodeValid_encode, String.ofList_toList]

/-- What is read from a line is what stays of it without the bytes at which no character begins. -/
theorem keeps_lineText (line : List UInt8) : Text.Keeps line (lineText line).toList := by
  rw [lineText, String.toList_ofList]
  exact Text.keeps_iff.mpr rfl

/-- A line break is one byte. -/
theorem encode_line (text : List Char) :
    Text.encode (text ++ ['\n']) = Text.encode text ++ [delimiter] :=
  Text.encode_append text ['\n']

/-- Texts as a peer writes them, with a line break after each. -/
def written (texts : List String) : List UInt8 :=
  texts.flatMap fun text => Text.encode (text ++ "\n").toList

/-- Texts without line breaks are the lines of what was written. -/
theorem isCut_written {texts : List String} (single : ∀ text ∈ texts, '\n' ∉ text.toList) :
    IsCut (written texts) (texts.map fun text => Text.encode text.toList) [] where
  joined := by
    have ended (text : String) : Text.encode (text ++ "\n").toList =
        Text.encode text.toList ++ [delimiter] := by
      rw [String.toList_append]
      exact encode_line text.toList
    simp only [written, ended, List.flatMap_map, List.append_nil]
  closed := by
    intro line member
    obtain ⟨text, given, rfl⟩ := List.mem_map.mp member
    exact fun inside => single text given (Text.mem_of_mem_encode inside (by decide))
  unfinished := List.not_mem_nil

namespace LineBuffer

/-- What is done to a buffer. -/
inductive Use where
  | push (bytes : List UInt8)
  | clear

/-- The buffer after a use. -/
def use (buffer : LineBuffer) : Use → LineBuffer
  | .push bytes => (buffer.push bytes).1
  | .clear => buffer.clear

/-- The buffer after a history of uses. -/
def run (buffer : LineBuffer) (history : List Use) : LineBuffer := history.foldl use buffer

/-- The stream that a buffer is in the middle of, after a use. It begins anew with a clear and with
a push that fails. -/
def follow (buffer : LineBuffer) (stream : List UInt8) : Use → List UInt8
  | .push bytes =>
    match (buffer.push bytes).2 with
    | .ok _ => stream ++ bytes
    | .error _ => []
  | .clear => []

/-- The bytes pushed since the last clear or failed push of a history. -/
def stream (buffer : LineBuffer) (sofar : List UInt8) : List Use → List UInt8
  | [] => sofar
  | use :: later => (buffer.use use).stream (buffer.follow sofar use) later

/-- Pieces are pushed one by one, every push succeeds, and these are the lines that they
complete. -/
inductive Pushes : LineBuffer → List (List UInt8) → List String → LineBuffer → Prop
  | nil (buffer : LineBuffer) : Pushes buffer [] [] buffer
  | cons {buffer next last : LineBuffer} {piece : List UInt8} {pieces : List (List UInt8)}
      {texts later : List String} (push : buffer.push piece = (next, .ok texts))
      (rest : Pushes next pieces later last) : Pushes buffer (piece :: pieces) (texts ++ later) last

section Push

variable {buffer next middle last : LineBuffer} {bytes more remainder : List UInt8}
  {lines : List (List UInt8)} {texts later : List String} {limit : Nat} {stream : List UInt8}

theorem exceeds_eq_false_iff {length : Nat} :
    buffer.exceeds length = false ↔ buffer.limit = 0 ∨ length ≤ buffer.limit := by
  rw [exceeds, Bool.and_eq_false_iff, decide_eq_false_iff_not, decide_eq_false_iff_not]
  omega

/-- What a push does is read off the cut of what the buffer then has. -/
theorem push_of_isCut (cut : IsCut (buffer.pending ++ bytes) lines remainder) :
    buffer.push bytes =
      if buffer.limit = 0 ∨ remainder.length ≤ buffer.limit then
        (⟨buffer.limit, remainder⟩, .ok (lines.map lineText))
      else (empty buffer.limit, .error (.lineTooLong remainder.length buffer.limit)) := by
  simp only [push, cut.splitLines_eq, ← exceeds_eq_false_iff]
  cases buffer.exceeds remainder.length <;> rfl

theorem push_eq_ok_iff : buffer.push bytes = (next, .ok texts) ↔
    ∃ lines, IsCut (buffer.pending ++ bytes) lines next.pending ∧ lines.map lineText = texts ∧
      next.limit = buffer.limit ∧ (buffer.limit = 0 ∨ next.pending.length ≤ buffer.limit) := by
  constructor
  · intro pushed
    have cut := isCut_splitLines (buffer.pending ++ bytes)
    rw [push_of_isCut cut] at pushed
    split at pushed
    · next short =>
      obtain ⟨rfl, same⟩ := Prod.mk.inj pushed
      exact ⟨_, cut, Except.ok.inj same, rfl, short⟩
    · cases pushed
  · rintro ⟨lines, cut, rfl, same, short⟩
    rw [push_of_isCut cut, if_pos short, ← same]

theorem of_push_eq_error {failure : FrameError}
    (pushed : buffer.push bytes = (next, .error failure)) :
    ∃ lines remainder, IsCut (buffer.pending ++ bytes) lines remainder ∧
      ¬(buffer.limit = 0 ∨ remainder.length ≤ buffer.limit) ∧
      failure = .lineTooLong remainder.length buffer.limit := by
  have cut := isCut_splitLines (buffer.pending ++ bytes)
  rw [push_of_isCut cut] at pushed
  split at pushed
  · cases pushed
  · next long => exact ⟨_, _, cut, long, (Except.error.inj (Prod.mk.inj pushed).2).symm⟩

/-- Two pushes that succeed are one push of both pieces. -/
theorem push_append (first : buffer.push bytes = (middle, .ok texts))
    (second : middle.push more = (last, .ok later)) :
    buffer.push (bytes ++ more) = (last, .ok (texts ++ later)) := by
  obtain ⟨lines, cut, rfl, same, -⟩ := push_eq_ok_iff.mp first
  obtain ⟨rest, goes_on, rfl, still, short⟩ := push_eq_ok_iff.mp second
  refine push_eq_ok_iff.mpr ⟨lines ++ rest, ?_, List.map_append, still.trans same, ?_⟩
  · rw [← List.append_assoc]
    exact cut.append goes_on
  · rwa [same] at short

/-- The buffer holds what its stream has left over, and that is not too long. -/
structure Follows (limit : Nat) (stream : List UInt8) (buffer : LineBuffer) : Prop where
  limit_eq : buffer.limit = limit
  cut : ∃ lines, IsCut stream lines buffer.pending
  bounded : limit = 0 ∨ buffer.pending.length ≤ limit

namespace Follows

theorem empty (limit : Nat) : Follows limit [] (.empty limit) :=
  ⟨rfl, ⟨[], .of_not_mem (by simp)⟩, .inr (Nat.zero_le limit)⟩

theorem short (follows : Follows limit stream buffer) :
    buffer.limit = 0 ∨ buffer.pending.length ≤ buffer.limit := by
  rw [follows.limit_eq]
  exact follows.bounded

/-- A push goes on with the cut of the stream: it gives the lines that it completes, or refuses what
remains. -/
theorem push (follows : Follows limit stream buffer) (bytes : List UInt8) :
    ∃ lines completed remainder, IsCut stream lines buffer.pending ∧
      IsCut (stream ++ bytes) (lines ++ completed) remainder ∧
      buffer.push bytes =
        if limit = 0 ∨ remainder.length ≤ limit then
          (⟨limit, remainder⟩, .ok (completed.map lineText))
        else (.empty limit, .error (.lineTooLong remainder.length limit)) := by
  obtain ⟨lines, cut⟩ := follows.cut
  have goes_on := isCut_splitLines (buffer.pending ++ bytes)
  refine ⟨lines, _, _, cut, cut.append goes_on, ?_⟩
  rw [push_of_isCut goes_on, follows.limit_eq]

theorem use (follows : Follows limit stream buffer) (use : Use) :
    Follows limit (buffer.follow stream use) (buffer.use use) := by
  cases use with
  | clear =>
    simp only [follow, LineBuffer.use, clear, follows.limit_eq]
    exact .empty limit
  | push bytes =>
    obtain ⟨lines, completed, remainder, -, cut, pushed⟩ := follows.push bytes
    simp only [follow, LineBuffer.use, pushed]
    by_cases short : limit = 0 ∨ remainder.length ≤ limit
    · simp only [if_pos short]
      exact ⟨rfl, ⟨_, cut⟩, short⟩
    · simp only [if_neg short]
      exact .empty limit

theorem run (follows : Follows limit stream buffer) (history : List Use) :
    Follows limit (buffer.stream stream history) (buffer.run history) := by
  induction history generalizing buffer stream with
  | nil => exact follows
  | cons use later ih => exact ih (follows.use use)

end Follows

/-- A buffer whose pieces are all taken would have taken them as one. -/
theorem Pushes.push_flatten {pieces : List (List UInt8)} (pushes : Pushes buffer pieces texts last)
    (follows : Follows limit stream buffer) : buffer.push pieces.flatten = (last, .ok texts) := by
  -- Each piece makes the stream longer, so the induction is over every stream that led here.
  induction pushes generalizing stream with
  | nil buffer =>
    obtain ⟨lines, cut⟩ := follows.cut
    have whole : IsCut (buffer.pending ++ []) [] buffer.pending := by
      simpa using IsCut.of_not_mem cut.unfinished
    exact push_eq_ok_iff.mpr ⟨[], whole, rfl, rfl, follows.short⟩
  | @cons buffer next last piece pieces texts later push rest ih =>
    have same : buffer.use (.push piece) = next := by simp [LineBuffer.use, push]
    exact push_append push (ih (same ▸ follows.use (.push piece)))

/-- A buffer that holds nothing takes what was written as just these texts. -/
theorem push_written (follows : Follows limit stream buffer) (nothing : buffer.pending = [])
    {texts : List String} (single : ∀ text ∈ texts, '\n' ∉ text.toList) :
    buffer.push (written texts) = (buffer, .ok texts) := by
  have cut : IsCut (buffer.pending ++ written texts)
      (texts.map fun text => Text.encode text.toList) buffer.pending := by
    rw [nothing]
    exact isCut_written single
  exact push_eq_ok_iff.mpr ⟨_, cut, by simp [Function.comp_def, lineText_encode], rfl, follows.short⟩

/-- So it does wherever that is cut. -/
theorem Pushes.of_written {pieces : List (List UInt8)} (pushes : Pushes buffer pieces later last)
    (follows : Follows limit stream buffer) (nothing : buffer.pending = [])
    (single : ∀ text ∈ texts, '\n' ∉ text.toList) (cut : pieces.flatten = written texts) :
    later = texts ∧ last = buffer := by
  have pushed := pushes.push_flatten follows
  rw [cut, push_written follows nothing single] at pushed
  obtain ⟨same, unchanged⟩ := Prod.mk.inj pushed
  exact ⟨(Except.ok.inj unchanged).symm, same.symm⟩

/-- Without a limit every push succeeds. -/
theorem exists_pushes (unlimited : buffer.limit = 0) (pieces : List (List UInt8)) :
    ∃ texts last, Pushes buffer pieces texts last := by
  induction pieces generalizing buffer with
  | nil => exact ⟨[], buffer, .nil buffer⟩
  | cons piece pieces ih =>
    obtain ⟨next, push, same⟩ : ∃ next, buffer.push piece = (next, .ok _) ∧ next.limit = 0 :=
      ⟨_, (push_of_isCut (isCut_splitLines _)).trans (if_pos (.inl unlimited)), unlimited⟩
    obtain ⟨texts, last, rest⟩ := ih same
    exact ⟨_, last, .cons push rest⟩

end Push

/-- After any history a buffer holds what its stream has left over, within the limit. A push goes on
with the one cut of the stream: it succeeds if what then remains is short enough, and gives the
lines that it completes, each without the bytes that are not text, or it fails with the length of
what remains and leaves nothing. Pieces whose pushes all succeed are as good as their whole, so texts
that were written with a line break after each come back, wherever that was cut. -/
theorem reassembly (limit : Nat) (history : List Use) :
    let buffer := (empty limit).run history
    let stream := (empty limit).stream [] history
    (∃ lines, IsCut stream lines buffer.pending) ∧
    (0 < limit → buffer.pending.length ≤ limit) ∧
    (∀ bytes, ∃ lines completed remainder, IsCut stream lines buffer.pending ∧
      IsCut (stream ++ bytes) (lines ++ completed) remainder ∧
      if limit = 0 ∨ remainder.length ≤ limit then
        ∃ texts, buffer.push bytes = (⟨limit, remainder⟩, .ok texts) ∧
          List.Forall₂ (fun line text => Text.Keeps line text.toList) completed texts
      else buffer.push bytes = (empty limit, .error (.lineTooLong remainder.length limit))) ∧
    (∀ pieces texts last, Pushes buffer pieces texts last →
      buffer.push pieces.flatten = (last, .ok texts)) ∧
    (buffer.pending = [] → ∀ texts : List String, (∀ text ∈ texts, '\n' ∉ text.toList) →
      buffer.push (written texts) = (buffer, .ok texts) ∧
      ∀ pieces lines last, Pushes buffer pieces lines last → pieces.flatten = written texts →
        lines = texts ∧ last = buffer) := by
  intro buffer stream
  have follows : Follows limit stream buffer := (Follows.empty limit).run history
  refine ⟨follows.cut, ?_, ?_, ?_, ?_⟩
  · intro limited
    exact follows.bounded.resolve_left (Nat.ne_of_gt limited)
  · intro bytes
    obtain ⟨lines, completed, remainder, before, cut, pushed⟩ := follows.push bytes
    refine ⟨lines, completed, remainder, before, cut, ?_⟩
    split
    · next short =>
      refine ⟨completed.map lineText, by rw [pushed, if_pos short], ?_⟩
      rw [List.forall₂_map_right_iff]
      exact List.forall₂_same.mpr fun line _ => keeps_lineText line
    · next long => rw [pushed, if_neg long]
  · exact fun pieces texts last pushes => pushes.push_flatten follows
  · intro nothing texts single
    exact ⟨push_written follows nothing single, fun pieces lines last pushes cut =>
      pushes.of_written follows nothing single cut⟩

/-- A push has failed, and then a text is written whose last character is cut in two. -/
theorem reassembly_cut_character :
    let history : List Use := [.push [0x61, 0x62], .push [0x63, 0x64, 0x65]]
    let buffer := (empty 4).run history
    let pieces : List (List UInt8) := [[0x61, 0xC3], [0xA9, 0x0A]]
    buffer.pending = [] ∧ Pushes buffer pieces ["aé"] buffer ∧ pieces.flatten = written ["aé"] ∧
      buffer.push (written ["aé"]) = (buffer, .ok ["aé"]) ∧
      ∀ lines last, Pushes buffer pieces lines last → lines = ["aé"] ∧ last = buffer := by
  intro history buffer pieces
  obtain ⟨-, -, -, -, back⟩ := reassembly 4 history
  have nothing : buffer.pending = [] := by decide
  have single : ∀ text ∈ ["aé"], '\n' ∉ text.toList := by decide
  have first : buffer.push [0x61, 0xC3] = (⟨4, [0x61, 0xC3]⟩, .ok []) := rfl
  have second : push ⟨4, [0x61, 0xC3]⟩ [0xA9, 0x0A] = (buffer, .ok ["aé"]) := rfl
  have whole : pieces.flatten = written ["aé"] := by decide
  obtain ⟨once, cut⟩ := back nothing ["aé"] single
  exact ⟨nothing, .cons first (.cons second (.nil _)), whole, once,
    fun lines last pushes => cut pieces lines last pushes whole⟩

end LineBuffer

end Blackjack
