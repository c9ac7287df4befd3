import Blackjack.Proofs.Wire.Reassembly

/-!
# Dropping bytes before and after the cut

A line break is a byte that is part of no longer sequence, so the text of a stream breaks where the
stream does, and each of its lines is the text of one segment (`splitOn_decodeValid`). It makes no
difference whether the bytes that are not text are dropped from the stream or from its lines
(`filtering_commutes`).
-/

namespace Blackjack

variable {stream remainder : List UInt8} {lines : List (List UInt8)}

theorem newline_not_mem_decodeValid {line : List UInt8} (closed : delimiter ∉ line) :
    '\n' ∉ Text.decodeValid line := by
  intro member
  have encoded := (Text.keeps_iff.mpr rfl : Text.Keeps line _).encodeChar_subset member
  exact closed (encoded (by decide))

/-- The text of a stream breaks where the stream is cut, into the texts of the segments. -/
theorem IsCut.splitOn_decodeValid (cut : IsCut stream lines remainder) :
    (Text.decodeValid stream).splitOn '\n' =
      lines.map Text.decodeValid ++ [Text.decodeValid remainder] := by
  obtain ⟨rfl, closed, unfinished⟩ := cut
  induction lines with
  | nil => exact List.splitOn_eq_singleton (newline_not_mem_decodeValid unfinished)
  | cons line later ih =>
    rw [List.forall_mem_cons] at closed
    rw [List.flatMap_cons, List.append_assoc, List.append_assoc, List.singleton_append,
      Text.decodeValid_append_cons (by decide), List.map_cons, List.cons_append, ← ih closed.2]
    exact List.splitOn_append_cons_self_of_not_mem (newline_not_mem_decodeValid closed.1) _

namespace LineBuffer

/-- The lines that a buffer gives are those of its text. -/
theorem Pushes.splitOn_eq {buffer last : LineBuffer} {pieces : List (List UInt8)}
    {texts : List String} {limit : Nat} (pushes : Pushes buffer pieces texts last)
    (follows : Follows limit stream buffer) :
    (Text.decodeValid (buffer.pending ++ pieces.flatten)).splitOn '\n' =
      texts.map String.toList ++ [Text.decodeValid last.pending] := by
  obtain ⟨lines, cut, rfl, -, -⟩ := push_eq_ok_iff.mp (pushes.push_flatten follows)
  rw [cut.splitOn_decodeValid]
  simp [lineText, Function.comp_def]

/-- Bytes that are not text are dropped on either side of a byte below `80` as if the other side was
not there, and the byte itself is kept; a text stays as it is when it is written as bytes and read
again, and so does what was left of some bytes. So a buffer in any state gives the lines into which
the text of what it holds and of all that is pushed breaks, and what it then holds is read as the
rest. -/
theorem filtering_commutes (limit : Nat) (history : List Use) :
    (∀ (before after : List UInt8) (b : UInt8), b.toNat < 0x80 →
      Text.decodeValid (before ++ [b] ++ after) =
        Text.decodeValid before ++ [Char.ofNat b.toNat] ++ Text.decodeValid after) ∧
    (∀ text, Text.decodeValid (Text.encode text) = text) ∧
    (∀ bytes, Text.decodeValid (Text.encode (Text.decodeValid bytes)) = Text.decodeValid bytes) ∧
    ∀ pieces texts last, Pushes ((empty limit).run history) pieces texts last →
      (Text.decodeValid (((empty limit).run history).pending ++ pieces.flatten)).splitOn '\n' =
        texts.map String.toList ++ [Text.decodeValid last.pending] := by
  refine ⟨?_, Text.decodeValid_encode, fun bytes => Text.decodeValid_encode _, ?_⟩
  · intro before after b ascii
    rw [List.append_assoc, List.append_assoc]
    exact Text.decodeValid_append_cons ascii before after
  · exact fun pieces texts last pushes => pushes.splitOn_eq ((Follows.empty limit).run history)

/-- A buffer holds two bytes of a character of three. The line break comes in place of its third,
and the third in the next line, which ends in a character that is cut off. -/
theorem filtering_commutes_truncated :
    let buffer := (empty 4).run [.push [0x61, 0xE2, 0x82]]
    let pieces : List (List UInt8) := [[0x0A, 0xAC], [0x62, 0xF0, 0x9F, 0x0A, 0xFF]]
    Pushes buffer pieces ["a", "b"] ⟨4, [0xFF]⟩ ∧
      (Text.decodeValid (buffer.pending ++ pieces.flatten)).splitOn '\n' = [['a'], ['b'], []] ∧
      (delimiter.toNat < 0x80 ∧
        Text.decodeValid ([0x61, 0xE2, 0x82] ++ [delimiter] ++ [0xAC, 0x62]) =
          ['a', '\n', 'b']) := by
  intro buffer pieces
  obtain ⟨kept, -, -, broken⟩ := filtering_commutes 4 [.push [0x61, 0xE2, 0x82]]
  have first : buffer.push [0x0A, 0xAC] = (⟨4, [0xAC]⟩, .ok ["a"]) := rfl
  have second : push ⟨4, [0xAC]⟩ [0x62, 0xF0, 0x9F, 0x0A, 0xFF] = (⟨4, [0xFF]⟩, .ok ["b"]) := rfl
  have pushes : Pushes buffer pieces ["a", "b"] ⟨4, [0xFF]⟩ := .cons first (.cons second (.nil _))
  exact ⟨pushes, broken _ _ _ pushes, by decide, kept _ _ delimiter (by decide)⟩

end LineBuffer

end Blackjack
