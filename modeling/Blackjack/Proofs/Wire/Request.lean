import Blackjack.Proofs.Wire.Frame
import Blackjack.Proofs.Wire.Reassembly
import Blackjack.Wire.Request

/-!
# Requests on the wire

A `Draft` is a command with its arguments before it is framed. It becomes a request exactly if it is
`Framable`, and the line of that request is the line of the draft's frame. No such line holds a line
break, so the requests that are written one after another come back as one line each, wherever the
stream is cut; what a line is decoded to depends on the white space at the ends of its content
(`requests_on_the_wire`).
-/

namespace Blackjack

/-- A command and its arguments, to become a request. -/
structure Draft where
  command : String
  args : List String
  requiresAck : Bool
  deriving DecidableEq, Repr

namespace Draft

/-- The request of a draft, if there is one. -/
def make (draft : Draft) : Except FrameError Request :=
  Request.make draft.command draft.args draft.requiresAck

/-- The frame that a draft describes: the padded command, and the arguments joined by commas. -/
def frame (draft : Draft) : Frame where
  command := padCommand draft.command
  args := if draft.args = [] then none else some (",".intercalate draft.args)

/-- Nothing in a draft disturbs the framing. -/
structure Framable (draft : Draft) : Prop where
  nonempty : 1 ≤ draft.command.length
  short : draft.command.length ≤ 8
  command : ∀ c ∈ draft.command.toList, c ≠ ':' ∧ c ≠ '\n' ∧ c ≠ '\r'
  args : ∀ arg ∈ draft.args, ∀ c ∈ arg.toList, c ≠ '\n' ∧ c ≠ '\r'

variable {draft : Draft} {request : Request}

/-- What can be framed is what no check of the encoding refuses. -/
theorem framable_iff : draft.Framable ↔ draft.command ≠ "" ∧
    draft.command.toList.any (isReserved true) = false ∧ draft.command.length ≤ commandWidth ∧
    draft.args.find? (fun arg => arg.toList.any (isReserved false)) = none := by
  have nonempty : 1 ≤ draft.command.length ↔ draft.command ≠ "" := by
    rw [Nat.one_le_iff_ne_zero, Ne, String.length_eq_zero_iff]
  constructor
  · rintro ⟨some_command, short, command, args⟩
    refine ⟨nonempty.mp some_command, ?_, short, ?_⟩
    · simpa [isReserved, and_comm, and_assoc] using command
    · simpa [isReserved] using args
  · rintro ⟨some_command, command, short, args⟩
    refine ⟨nonempty.mpr some_command, short, ?_, ?_⟩
    · simpa [isReserved, and_comm, and_assoc] using command
    · simpa [isReserved] using args

/-- A draft that can be framed becomes the request whose line is that of its frame. -/
theorem make_eq_ok_iff : draft.make = .ok request ↔
    draft.Framable ∧ request = ⟨padCommand draft.command, draft.frame.render ++ "\n",
      draft.requiresAck⟩ := by
  rw [framable_iff]
  unfold make Request.make encode
  split
  · next empty => exact iff_of_false nofun fun framed => framed.1.1 empty
  next some_command =>
  split
  · next reserved => exact iff_of_false nofun fun framed => by simp [reserved] at framed
  next plain =>
  split
  · next long => exact iff_of_false nofun fun framed => Nat.not_lt.mpr framed.1.2.2.1 long
  next short =>
  split
  · next arg found => exact iff_of_false nofun fun framed => by simp [found] at framed
  next unfound =>
  rw [and_iff_right ⟨some_command, Bool.eq_false_iff.mpr plain, Nat.not_lt.mp short, unfound⟩]
  simp only [Except.map, Except.ok.injEq]
  exact eq_comm

theorem toList_padCommand (command : String) : (padCommand command).toList =
    command.toList ++ List.replicate (commandWidth - command.length) '_' := by
  rw [padCommand, String.toList_append, String.toList_ofList]

theorem length_padCommand (framable : draft.Framable) :
    (padCommand draft.command).length = commandWidth := by
  have short : draft.command.length ≤ commandWidth := framable.short
  rw [← String.length_toList, toList_padCommand, List.length_append, List.length_replicate,
    String.length_toList]
  omega

/-- The padding adds nothing that would end the command. -/
theorem colon_not_mem_command (framable : draft.Framable) : ':' ∉ draft.frame.command.toList := by
  simp only [frame, toList_padCommand, List.mem_append, List.mem_replicate, not_or]
  exact ⟨fun member => (framable.command _ member).1 rfl, by simp⟩

theorem mem_of_mem_intercalate {separator : List Char} {parts : List (List Char)} {c : Char}
    (member : c ∈ separator.intercalate parts) : c ∈ separator ∨ ∃ part ∈ parts, c ∈ part := by
  induction parts with
  | nil => simp at member
  | cons first later ih =>
    cases later with
    | nil => exact .inr ⟨first, by simp, by simpa using member⟩
    | cons second later =>
      rw [List.intercalate_cons_cons, List.mem_append, List.mem_append] at member
      rcases member with (here | between) | beyond
      · exact .inr ⟨first, by simp, here⟩
      · exact .inl between
      · exact (ih beyond).imp id fun ⟨part, given, inside⟩ => ⟨part, by simp [given], inside⟩

/-- The line of a draft's frame is a single one. -/
theorem newline_not_mem_render (framable : draft.Framable) :
    '\n' ∉ draft.frame.render.toList := by
  rw [Frame.toList_render, Frame.content, List.mem_append, List.mem_append, not_or, not_or]
  refine ⟨by decide, ?_, ?_⟩
  · simp only [frame, toList_padCommand, List.mem_append, List.mem_replicate, not_or]
    exact ⟨fun member => (framable.command _ member).2.1 rfl, by simp⟩
  · simp only [frame]
    split
    · simp
    intro member
    rw [Option.elim_some, List.mem_cons, String.toList_intercalate] at member
    rcases member with colon | joined
    · cases colon
    rcases mem_of_mem_intercalate joined with comma | ⟨part, given, inside⟩
    · simp at comma
    · obtain ⟨arg, mem_args, rfl⟩ := List.mem_map.mp given
      exact (framable.args arg mem_args _ inside).1 rfl

/-- Requests that are written one after another are the lines of their frames. -/
theorem written_render {drafts : List Draft} {requests : List Request}
    (made : List.Forall₂ (fun draft request => draft.make = .ok request) drafts requests) :
    requests.flatMap (fun request => Text.encode request.frame.toList) =
      written (drafts.map fun draft => draft.frame.render) := by
  induction made with
  | nil => rfl
  | cons first _ ih =>
    obtain ⟨-, rfl⟩ := make_eq_ok_iff.mp first
    rw [List.flatMap_cons, ih, List.map_cons]
    rfl

theorem framable_of_mem {drafts : List Draft} {requests : List Request}
    (made : List.Forall₂ (fun draft request => draft.make = .ok request) drafts requests) :
    ∀ draft ∈ drafts, draft.Framable := by
  induction made with
  | nil => simp
  | cons first _ ih => exact List.forall_mem_cons.mpr ⟨(make_eq_ok_iff.mp first).1, ih⟩

/-- However the stream of some requests is cut, it is read as the lines of their frames. -/
theorem pushes_render {drafts : List Draft} {requests : List Request}
    (made : List.Forall₂ (fun draft request => draft.make = .ok request) drafts requests)
    {pieces : List (List UInt8)}
    (cut : pieces.flatten = requests.flatMap fun request => Text.encode request.frame.toList) :
    LineBuffer.Pushes (.empty 0) pieces (drafts.map fun draft => draft.frame.render) (.empty 0) := by
  have unlimited : (LineBuffer.empty 0).limit = 0 := rfl
  obtain ⟨texts, last, pushes⟩ := LineBuffer.exists_pushes unlimited pieces
  have single : ∀ text ∈ drafts.map (fun draft => draft.frame.render), '\n' ∉ text.toList := by
    intro text member
    obtain ⟨draft, given, rfl⟩ := List.mem_map.mp member
    exact newline_not_mem_render (framable_of_mem made draft given)
  obtain ⟨rfl, rfl⟩ :=
    pushes.of_written (.empty 0) rfl single (cut.trans (written_render made))
  exact pushes

/-- A draft becomes a request exactly if its command has one to eight characters and nothing in it
disturbs the framing. Requests that are sent one after another are received as one line each, in
order and with nothing left over, however their bytes are cut. The line of a request is decoded to
its padded command and its arguments, joined by commas, exactly if white space stands at neither
end of what lies between the prefix and the line break; in any case it is decoded to what that text
splits into at its first colon once the white space at both ends is gone. -/
theorem requests_on_the_wire :
    (∀ draft : Draft, (∃ request, draft.make = .ok request) ↔ draft.Framable) ∧
    ∀ (drafts : List Draft) (requests : List Request),
      List.Forall₂ (fun draft request => draft.make = .ok request) drafts requests →
      ∀ pieces : List (List UInt8),
        pieces.flatten = requests.flatMap (fun request => Text.encode request.frame.toList) →
        ∃ lines, LineBuffer.Pushes (.empty 0) pieces lines (.empty 0) ∧
          lines.length = requests.length ∧
          ∀ (i : Nat) (draft : Draft) (request : Request) (line : String),
            drafts[i]? = some draft → requests[i]? = some request → lines[i]? = some line →
            ∃ content : List Char, request.frame = linePrefix ++ String.ofList content ++ "\n" ∧
              request.command = padCommand draft.command ∧ request.command.length = 8 ∧
              (Frame.decode line = .ok ⟨request.command,
                if draft.args = [] then none else some (",".intercalate draft.args)⟩ ↔
                  Text.Tight content) ∧
              ∃ body frame, Text.Trims content body ∧ Frame.Splits body frame ∧
                Frame.decode line = .ok frame := by
  refine ⟨fun draft => ?_, fun drafts requests made pieces cut => ?_⟩
  · simp [make_eq_ok_iff]
  refine ⟨_, pushes_render made cut, by rw [List.length_map, made.length_eq], ?_⟩
  intro i draft request line at_drafts at_requests at_lines
  obtain ⟨in_drafts, rfl⟩ := List.getElem?_eq_some_iff.mp at_drafts
  obtain ⟨in_requests, rfl⟩ := List.getElem?_eq_some_iff.mp at_requests
  obtain rfl : drafts[i].frame.render = line := by simpa [at_drafts] using at_lines
  have framed : drafts[i].make = .ok requests[i] := made.get in_drafts in_requests
  generalize drafts[i] = draft, requests[i] = request at framed ⊢
  obtain ⟨framable, rfl⟩ := make_eq_ok_iff.mp framed
  refine ⟨draft.frame.content, by rw [Frame.render_eq], rfl, length_padCommand framable, ?_,
    _, _, Text.trims_trim _, Frame.splits_ofContent _,
    Frame.decode_eq_ok_iff.mpr ⟨_, Frame.toList_render, Frame.splits_ofContent _⟩⟩
  exact Frame.decode_render_iff.trans (and_iff_right (colon_not_mem_command framable))

/-- A character is cut in two by the end of a piece, and a line ends in white space. -/
theorem requests_on_the_wire_trimmed :
    let drafts : List Draft := [⟨"ÄB", ["x "], true⟩, ⟨"LOGIN", [], false⟩]
    let requests : List Request :=
      [⟨"ÄB______", "BJ:ÄB______:x \n", true⟩, ⟨"LOGIN___", "BJ:LOGIN___\n", false⟩]
    let pieces : List (List UInt8) :=
      [[0x42, 0x4A, 0x3A, 0xC3], [0x84, 0x42, 0x5F, 0x5F, 0x5F, 0x5F, 0x5F, 0x5F, 0x3A, 0x78, 0x20, 0x0A,
        0x42, 0x4A, 0x3A, 0x4C], [], [0x4F, 0x47, 0x49, 0x4E, 0x5F, 0x5F, 0x5F, 0x0A]]
    List.Forall₂ (fun draft request => draft.make = .ok request) drafts requests ∧
    pieces.flatten = requests.flatMap (fun request => Text.encode request.frame.toList) ∧
    ∃ lines, LineBuffer.Pushes (.empty 0) pieces lines (.empty 0) ∧ lines.length = 2 ∧
      ∀ line, lines[0]? = some line →
        ∃ content : List Char, "BJ:ÄB______:x \n" = linePrefix ++ String.ofList content ++ "\n" ∧
          (Frame.decode line = .ok ⟨"ÄB______", some "x "⟩ ↔ Text.Tight content) := by
  intro drafts requests pieces
  have made : List.Forall₂ (fun draft request => draft.make = .ok request) drafts requests :=
    .cons rfl (.cons rfl .nil)
  have cut : pieces.flatten = requests.flatMap fun request => Text.encode request.frame.toList := by
    decide
  obtain ⟨lines, pushes, count, each⟩ := requests_on_the_wire.2 drafts requests made pieces cut
  refine ⟨made, cut, lines, pushes, count, fun line first => ?_⟩
  obtain ⟨content, text, -, -, intact, -⟩ := each 0 _ _ line rfl rfl first
  exact ⟨content, text, intact⟩

end Draft

end Blackjack
