import Blackjack.Proofs.Settings.Form
import Blackjack.Proofs.Text.Utf8
import Blackjack.Settings.Store

/-!
# Settings from a partial document

A document may leave out sections and fields, and have them in any order among unknown ones. Reading
its file gives the default settings with its fields replaced (`read_of_document`). `nested` is the
one limit to that: a value that nobody asked for must still not be nested too deep.
-/

namespace Blackjack.Settings

open Ron

section Document

variable {items : List (Item Section)} {text : String} {folder : Folder} {directory : List String}

/-- A document may have any of the sections and any of their fields, in any order, among unknown ones
with values of any kind, if these are not nested too deep. Reading it gives the default settings with
these fields replaced, or the first fault that a client has to find with them; but where a field
stands twice or does not fit its type, the document is malformed. -/
theorem read_of_document (written : form.WritesDocument items text.toList)
    (found : readText folder (filePath directory) = .ok text) :
    (form.Proper (knownFields items) → read folder directory =
      match (form.fill {} (knownFields items)).fault? with
      | none => .ok (form.fill {} (knownFields items))
      | some fault => .error (.invalid fault)) ∧
    (¬form.Proper (knownFields items) → read folder directory = .error .malformed) := by
  have parsed := ofDocument?_eq_some_iff written
  constructor
  · intro proper
    rw [read, found]
    simp only [parse, (parsed _).mpr ⟨proper, rfl⟩]
    cases (form.fill {} (knownFields items)).fault? <;> rfl
  · intro improper
    have none : ofDocument? text = none :=
      Option.eq_none_iff_forall_ne_some.mpr fun settings same => improper ((parsed settings).mp same).1
    rw [read, found]
    simp only [parse, none]

/-- What a file has in it is the text that was put there. -/
theorem readText_file (text : String) :
    readText ⟨[(filePath [], .file (Text.encode text.toList))]⟩ (filePath []) = .ok text := by
  have whole : Folder.read ⟨[(filePath [], .file (Text.encode text.toList))]⟩ (filePath []) =
      .ok (Text.encode text.toList) := rfl
  simp [readText, whole, Text.decode?_encode]

/-- Comments with brackets in them, values inside of others that nobody asked for, and a number in
hexadecimal digits with its type; and a document with one section twice. -/
theorem read_of_document_future :
    let folder := fun text : String => (⟨[(filePath [], .file (Text.encode text.toList))]⟩ : Folder)
    read (folder ("/*)*/" ++
      ("Config(//(\nold: Some([true,\"]\",]), network: (server_port: 0x1_0u16, new: ']'))" ++
        "//."))) [] =
      .ok { network := { serverPort := 16 } } ∧
    read (folder "(debug:(),debug:())") [] = .error .malformed := by
  intro folder
  have option : Value 126 "Some([true,\"]\",])".toList := by
    have word : Value 123 "true".toList := .literal (.word (by decide))
    have string : Value 123 "\"]\"".toList :=
      .literal (.text (.quoted (.char (by decide) (by decide) .nil)))
    have list : Value 125 "[true,\"]\",]".toList := by
      have laid : Laid (· = ·) ']' ["true".toList, "\"]\"".toList] "true,\"]\",]".toList :=
        .next .none rfl .none (.next .none rfl .none (.none .none))
      exact .brackets .list .none (.inr (by decide))
        (by simpa using ⟨Part.element word, Part.element string⟩) laid
    exact .option .none list (.last .none rfl .none)
  have old : Value 124 "']'".toList := .literal (.char (.plain (by decide)))
  have port : WritesInteger ⟨false, 16, some ⟨false, 16⟩⟩ "0x1_0u16".toList := by
    have first : Digits 16 1 "1_".toList :=
      .underscore (.first (rfl : hexValue? '1' = some 1) (by decide))
    have digits : Digits 16 16 "1_0".toList :=
      .digit first (rfl : hexValue? '0' = some 0) (by decide)
    exact .intro .none .hexadecimal digits (by decide)
  have network : networkForm.WritesRecord 126
      [.known (.serverPort ⟨false, 16, some ⟨false, 16⟩⟩), .unknown]
      "(server_port: 0x1_0u16, new: ']')".toList := by
    have key : WritesName "server_port".toList "server_port".toList := .of_letters rfl
    have other : WritesName "new".toList "new".toList := .of_letters rfl
    have first : networkForm.WritesItem 124 (.known (.serverPort ⟨false, 16, some ⟨false, 16⟩⟩))
        "server_port: 0x1_0u16".toList := .known key port (.intro .none (.space rfl .none))
    have second : networkForm.WritesItem 124 .unknown "new: ']'".toList :=
      .unknown (by intro field; cases field <;> simp [networkForm, plainForm, NetworkField.name])
        other old (.intro .none (.space rfl .none))
    exact .intro .none (.next .none first .none
      (.last (.space rfl .none) second .none))
  have first : form.WritesItem 126 .unknown "old: Some([true,\"]\",])".toList := by
    have key : WritesName "old".toList "old".toList := .of_letters rfl
    exact .unknown (by intro field; cases field <;> simp [form, Section.name]) key option
      (.intro .none (.space rfl .none))
  have second : form.WritesItem 126
      (.known (.network [.known (.serverPort ⟨false, 16, some ⟨false, 16⟩⟩), .unknown]))
      "network: (server_port: 0x1_0u16, new: ']')".toList := by
    have key : WritesName "network".toList "network".toList := .of_letters rfl
    exact .known key network (.intro .none (.space rfl .none))
  have whole : form.WritesDocument
      [.unknown, .known (.network [.known (.serverPort ⟨false, 16, some ⟨false, 16⟩⟩), .unknown])]
      ("/*)*/" ++
        ("Config(//(\nold: Some([true,\"]\",]), network: (server_port: 0x1_0u16, new: ']'))" ++
          "//.")).toList := by
    have comment : Comment ")*/".toList := .char (by decide) (by decide) .close
    have gap : Gap "/*)*/".toList := .block comment .none
    have line : Gap ('/' :: '/' :: (['('] ++ '\n' :: [])) := .line (by decide) .none
    have name : WritesName "Config".toList "Config".toList := .of_letters rfl
    have record : form.WritesRecord 128
        [.unknown, .known (.network [.known (.serverPort ⟨false, 16, some ⟨false, 16⟩⟩), .unknown])]
        "Config(//(\nold: Some([true,\"]\",]), network: (server_port: 0x1_0u16, new: ']'))".toList :=
      .intro (.name name .none)
        (.next line first .none (.last (.space rfl .none) second .none))
    have ending : Ending ([] ++ '/' :: '/' :: ['.']) := .line .none (by decide)
    rw [String.toList_append, String.toList_append]
    exact .intro gap record ending
  have twice : form.WritesDocument [.known (.debug []), .known (.debug [])]
      "(debug:(),debug:())".toList := by
    have key : WritesName "debug".toList "debug".toList := .of_letters rfl
    have empty : debugForm.WritesRecord 126 [] "()".toList := .intro .none (.none .none)
    have item : form.WritesItem 126 (.known (.debug [])) "debug:()".toList :=
      .known key empty (.intro .none .none)
    have record : form.WritesRecord 128 [.known (.debug []), .known (.debug [])]
        "(debug:(),debug:())".toList :=
      .intro .none (.next .none item .none (.last .none item .none))
    exact .intro .none record (.gap .none)
  have proper : networkForm.Proper [.serverPort ⟨false, 16, some ⟨false, 16⟩⟩] := by
    refine ⟨by simp, ?_⟩
    rw [List.forall_mem_singleton]
    exact ⟨by decide, by decide, by simp⟩
  constructor
  · refine ((read_of_document whole (readText_file _)).1 ⟨by simp, ?_⟩).trans rfl
    rw [knownFields_unknown, knownFields_known, knownFields_nil, List.forall_mem_singleton]
    exact proper
  · refine (read_of_document twice (readText_file _)).2 fun ⟨once, _⟩ => ?_
    simp at once

/-- Empty lists inside of each other. -/
def nested : Nat → List Char
  | 0 => ['[', ']']
  | depth + 1 => '[' :: (nested depth ++ [']'])

theorem value_nested (depth : Nat) : Value (2 * depth + 1) (nested depth) := by
  induction depth with
  | zero => exact .brackets .list .none (.inl rfl) nofun (.none .none)
  | succ depth ih =>
    have part : ∀ part ∈ [nested depth], Part (2 * depth + 1) .elements part := by
      simpa using Part.element ih
    have laid : Laid (· = ·) ']' [nested depth] (nested depth ++ [']']) := by
      simpa using Laid.last .none rfl .none
    exact .brackets .list .none (.inr (Nat.succ_pos _)) part laid

/-- A value that nobody asked for makes a document malformed if it is nested too deep. -/
theorem parse_of_deep : Value 127 (nested 63) ∧
    parse (String.ofList ("(future: ".toList ++ nested 63 ++ ")".toList)) = .error .malformed ∧
    fault? {} = none := by
  refine ⟨value_nested 63, ?_, ?_⟩ <;> decide +kernel

end Document

end Blackjack.Settings
