import Blackjack.Proofs.Text.Trim
import Blackjack.Wire.Frame

/-!
# Frames and their lines

A line holds a frame behind its prefix: the content, from which white space is trimmed, splits at
its first colon (`decode_eq_ok_iff`). What a frame is written as is read back as that frame exactly
if nothing is trimmed and no colon stands in the command (`decode_render_iff`). Such frames are the
normal ones, and reading a line gives no others (`render_normal_form`).
-/

namespace Blackjack.Frame

/-- The first colon ends the command, and the arguments follow it. Without one all is command. -/
inductive Splits : List Char → Frame → Prop
  | whole {command : List Char} (plain : ':' ∉ command) :
      Splits command ⟨String.ofList command, none⟩
  | atColon {command args : List Char} (plain : ':' ∉ command) :
      Splits (command ++ ':' :: args) ⟨String.ofList command, some (String.ofList args)⟩

/-- The text of a frame behind the prefix of its line. -/
def content (frame : Frame) : List Char :=
  frame.command.toList ++ frame.args.elim [] fun args => ':' :: args.toList

section

variable {text : List Char} {frame : Frame} {line : String}

theorem splits_ofContent (text : List Char) : Splits text (ofContent text) := by
  unfold ofContent
  cases found : Text.splitOnce (· = ':') text with
  | none =>
    refine .whole fun colon => ?_
    simpa using Text.splitOnce_eq_none_iff.mp found _ colon
  | some parts =>
    obtain ⟨command, args⟩ := parts
    obtain ⟨c, cut, rfl, plain⟩ := Text.splitOnce_eq_some_iff.mp found
    obtain rfl : c = ':' := by simpa using cut
    exact .atColon fun colon => by simpa using plain _ colon

/-- A frame splits from its own content only. -/
theorem Splits.content_eq (splits : Splits text frame) : frame.content = text := by
  cases splits <;> simp [content]

theorem splits_content (plain : ':' ∉ frame.command.toList) : Splits frame.content frame := by
  obtain ⟨command, args⟩ := frame
  cases args with
  | none => simpa [content] using Splits.whole plain
  | some args => simpa [content] using @Splits.atColon command.toList args.toList plain

theorem Splits.plain (splits : Splits text frame) : ':' ∉ frame.command.toList := by
  cases splits <;> simpa

/-- A text splits in one way. -/
theorem Splits.ofContent_eq (splits : Splits text frame) : ofContent text = frame := by
  cases splits with
  | whole plain =>
    have uncut : Text.splitOnce (· = ':') text = none := by
      rw [Text.splitOnce_eq_none_iff]
      intro c member
      exact decide_eq_false fun colon => plain (colon ▸ member)
    simp only [ofContent, uncut]
  | @atColon command args plain =>
    have cut : Text.splitOnce (· = ':') (command ++ ':' :: args) = some (command, args) := by
      refine Text.splitOnce_eq_some_iff.mpr ⟨':', by simp, rfl, ?_⟩
      intro c member
      exact decide_eq_false fun colon => plain (colon ▸ member)
    simp only [ofContent, cut]

theorem toList_render : frame.render.toList = linePrefix.toList ++ frame.content := by
  obtain ⟨command, args⟩ := frame
  cases args <;> simp [render, content, String.toList_append]

theorem render_eq : frame.render = linePrefix ++ String.ofList frame.content := by
  rw [← String.toList_inj, toList_render, String.toList_append, String.toList_ofList]

/-- The frame of a line is what its content, once trimmed, splits into. -/
theorem decode_eq_ok_iff : decode line = .ok frame ↔
    ∃ text, line.toList = linePrefix.toList ++ text ∧ Splits (Text.trim text) frame := by
  unfold decode content?
  constructor
  · intro decoded
    split at decoded
    · next content found =>
      split at found
      · next starts =>
        obtain ⟨text, same⟩ := List.isPrefixOf_iff_prefix.mp starts
        obtain rfl : text = content := by
          rw [← same, ← String.length_toList, List.drop_left] at found
          exact Option.some.inj found
        exact ⟨text, same.symm, Except.ok.inj decoded ▸ splits_ofContent _⟩
      · cases found
    · cases decoded
  · rintro ⟨text, same, splits⟩
    have starts : linePrefix.toList.isPrefixOf line.toList = true :=
      List.isPrefixOf_iff_prefix.mpr ⟨text, same.symm⟩
    rw [if_pos starts, same, ← String.length_toList, List.drop_left]
    exact congrArg _ splits.ofContent_eq

/-- A frame comes back from its own line exactly if its command has no colon and its content is
tight. -/
theorem decode_render_iff :
    decode frame.render = .ok frame ↔ ':' ∉ frame.command.toList ∧ Text.Tight frame.content := by
  have split_iff : decode frame.render = .ok frame ↔ Splits (Text.trim frame.content) frame := by
    rw [decode_eq_ok_iff, toList_render]
    constructor
    · rintro ⟨text, same, splits⟩
      rwa [List.append_cancel_left same]
    · exact fun splits => ⟨_, rfl, splits⟩
  rw [split_iff, ← Text.trim_eq_self_iff]
  constructor
  · exact fun splits => ⟨splits.plain, splits.content_eq.symm⟩
  · rintro ⟨plain, untrimmed⟩
    rw [untrimmed]
    exact splits_content plain

/-- No colon stands in the command, and white space at neither end of the content. -/
def IsNormal (frame : Frame) : Prop := ':' ∉ frame.command.toList ∧ Text.Tight frame.content

/-- A line is read as the normal frame whose content is what the line has between white space. -/
theorem decode_eq_ok_iff_trims : decode line = .ok frame ↔
    frame.IsNormal ∧ ∃ rest, line.toList = linePrefix.toList ++ rest ∧
      Text.Trims rest frame.content := by
  rw [decode_eq_ok_iff]
  constructor
  · rintro ⟨rest, same, splits⟩
    have trims := Text.trims_trim rest
    rw [← splits.content_eq] at trims
    obtain ⟨-, -, -, -, -, tight⟩ := trims
    exact ⟨⟨splits.plain, tight⟩, rest, same, Text.trims_iff.mpr splits.content_eq.symm⟩
  · rintro ⟨⟨plain, -⟩, rest, same, trims⟩
    refine ⟨rest, same, ?_⟩
    rw [trims.trim_eq]
    exact splits_content plain

/-- Writing what was read and reading it again changes nothing. -/
theorem decode_bind_render (line : String) :
    ((decode line).bind fun found => decode found.render) = decode line := by
  cases read : decode line with
  | error e => rfl
  | ok found => exact decode_render_iff.mpr (decode_eq_ok_iff_trims.mp read).1

/-- A frame is written as its content behind the prefix, and is read back from that exactly if it is
normal. What is read from a line is the normal frame whose content the rest of the line has between
white space, so it is written as the line is without that white space and then stays as it is. -/
theorem render_normal_form (frame : Frame) (line : String) :
    frame.render = linePrefix ++ String.ofList frame.content ∧
    (decode frame.render = .ok frame ↔ frame.IsNormal) ∧
    (decode line = .ok frame ↔ frame.IsNormal ∧
      ∃ rest, line = linePrefix ++ String.ofList rest ∧ Text.Trims rest frame.content) ∧
    ((decode line).bind fun found => decode found.render) = decode line := by
  refine ⟨render_eq, decode_render_iff, ?_, decode_bind_render line⟩
  simp only [decode_eq_ok_iff_trims, ← String.toList_inj, String.toList_append,
    String.toList_ofList]

/-- White space at both ends goes, and what stands before the first colon is the command, even if
that is nothing. -/
example : decode "BJ: :a :\u3000" = .ok ⟨"", some "a :"⟩ := by decide

end

end Blackjack.Frame
