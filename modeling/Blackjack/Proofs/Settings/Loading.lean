import Blackjack.Proofs.Settings.RoundTrip

/-!
# What loading leaves behind

A save makes directories and writes one file, and nothing else in a folder changes (`save_cases`).
The file is written where its path leads once the directories are there. Without a step `..` that is
a place that nothing could be reached at before, if the file was missing (`kept_of_save`); with one
the path may lead to a file that was there all along.
-/

namespace Blackjack.Settings

variable {settings : Settings} {folder ensured after : Folder}
  {directory path place : List String} {entry : FolderEntry} {bytes : List UInt8}

/-- The bytes of the file that keeps the settings. -/
def fileBytes (settings : Settings) : List UInt8 := Text.encode settings.document.toList

theorem read_of_missing (missing : folder.holds (filePath directory) = false) :
    ∃ e, read folder directory = .error e := by
  obtain ⟨e, unreadable⟩ := Folder.read_of_missing missing
  exact ⟨.unreadable e, by simp only [read, readText, unreadable]⟩

/-- A save makes directories, and then fails or writes the file. -/
theorem save_cases (settings : Settings) (folder : Folder) (directory : List String) :
    ∃ ensured, folder.Furnishes ensured ∧
      ((∃ e, settings.save folder directory = (ensured, .error e)) ∨
        ∃ after, ensured.write (filePath directory) settings.fileBytes = .ok after ∧
          settings.save folder directory = (after, .ok ())) := by
  have furnished := Folder.furnishes_ensureDirectory folder directory
  unfold save
  generalize folder.ensureDirectory directory = result at furnished
  obtain ⟨ensured, answer⟩ := result
  refine ⟨ensured, furnished, ?_⟩
  cases answer with
  | error e => exact .inl ⟨_, rfl⟩
  | ok =>
    unfold fileBytes
    cases written : ensured.write (filePath directory) (Text.encode settings.document.toList) with
    | error e => exact .inl ⟨.unwritable e, by simp [written]⟩
    | ok after => exact .inr ⟨after, rfl, by simp [written]⟩

section Write

/-- What a write does to a folder that may have got directories before. -/
theorem find_of_furnished_write (furnished : folder.Furnishes ensured)
    (written : ensured.write path bytes = .ok after) {steps : List String}
    (found : folder.find steps = .ok (place, entry)) :
    after.find steps = .ok (place, entry) ∨ ensured.follow [] path = .ok place ∧
      (∃ old, entry = .file old) ∧ after.find path = .ok (place, .file bytes) := by
  obtain ⟨spot, leads, file, rfl⟩ := Folder.write_eq_ok_iff.mp written
  obtain ⟨arrives, here⟩ := Folder.find_eq_ok_iff.mp (furnished.find found)
  by_cases other : place = spot
  · subst other
    obtain ⟨again, back⟩ := Folder.find_of_write written
    rw [Folder.find_eq_ok_iff, Folder.follow_put file leads] at back
    obtain rfl : place = again := Except.ok.inj back.1
    refine .inr ⟨leads, ?_, Folder.find_eq_ok_iff.mpr ⟨Folder.follow_put file leads, back.2⟩⟩
    cases entry with
    | file old => exact ⟨old, rfl⟩
    | directory => exact absurd here file
  · refine .inl (Folder.find_eq_ok_iff.mpr ⟨Folder.follow_put file arrives, ?_⟩)
    rwa [Folder.entry?_put_of_ne other]

theorem file_of_furnished_write (furnished : folder.Furnishes ensured)
    (written : ensured.write path bytes = .ok after) {old : List UInt8}
    (here : after.entry? place = some (.file old)) :
    folder.entry? place = some (.file old) ∨
      old = bytes ∧ after.find path = .ok (place, .file bytes) := by
  obtain ⟨spot, found⟩ := Folder.find_of_write written
  obtain ⟨target, leads, file, rfl⟩ := Folder.write_eq_ok_iff.mp written
  obtain ⟨arrives, there⟩ := Folder.find_eq_ok_iff.mp found
  rw [Folder.follow_put file leads] at arrives
  obtain rfl : target = spot := Except.ok.inj arrives
  by_cases other : place = target
  · subst other
    rw [there] at here
    cases here
    exact .inr ⟨rfl, found⟩
  · rw [Folder.entry?_put_of_ne other] at here
    exact .inl (furnished.made place old here)

end Write

/-- Where nothing was found at the path of the file, and that path has no step `..`, the file is
written to a place that no path led to. -/
theorem ne_of_plain (plain : ".." ∉ directory) (missing : folder.holds (filePath directory) = false)
    (leads : ensured.follow [] (filePath directory) = .ok place) :
    folder.find path ≠ .ok (place, entry) := by
  intro found
  obtain ⟨arrives, here⟩ := Folder.find_eq_ok_iff.mp found
  have spelled : place = [] ++ directory.filter (· ≠ ".") ++ [fileName] := by
    have same := Folder.eq_of_follow (by simpa [filePath, fileName] using plain) leads
    rw [same, filePath, List.filter_append]
    simp [fileName]
  have rooted := Folder.rooted_of_follow folder.rooted_nil arrives
  have back : folder.follow [] (filePath directory) = .ok place := by
    rw [spelled] at rooted ⊢
    exact Folder.follow_of_rooted plain (by decide) (by decide) rooted
  have stands : folder.holds (filePath directory) :=
    Folder.holds_iff.mpr ⟨place, entry, Folder.find_eq_ok_iff.mpr ⟨back, here⟩⟩
  simp [missing] at stands

/-- What could be found is found as it was. Only a path of the file that has a step `..` can lead to
a file that was there although it was not found at that path. -/
theorem find_of_save (missing : folder.holds (filePath directory) = false)
    (found : folder.find path = .ok (place, entry)) :
    let after := (settings.save folder directory).1
    after.find path = .ok (place, entry) ∨ ".." ∈ directory ∧ (∃ old, entry = .file old) ∧
      after.find (filePath directory) = .ok (place, .file settings.fileBytes) := by
  obtain ⟨ensured, furnished, ⟨e, saved⟩ | ⟨after, written, saved⟩⟩ :=
    save_cases settings folder directory
  · rw [saved]
    exact .inl (furnished.find found)
  · rw [saved]
    refine (find_of_furnished_write furnished written found).imp_right ?_
    rintro ⟨leads, old, there⟩
    refine ⟨?_, old, there⟩
    by_contra plain
    exact ne_of_plain plain missing leads found

/-- A save makes one file only. -/
theorem file_of_save
    (here : Folder.entry? (settings.save folder directory).1 place = some (.file bytes)) :
    folder.entry? place = some (.file bytes) ∨ bytes = settings.fileBytes ∧
      (settings.save folder directory).1.find (filePath directory) = .ok (place, .file bytes) := by
  obtain ⟨ensured, furnished, ⟨e, saved⟩ | ⟨after, written, saved⟩⟩ :=
    save_cases settings folder directory
  · rw [saved] at here ⊢
    exact .inl (furnished.made place bytes here)
  · rw [saved] at here ⊢
    refine (file_of_furnished_write furnished written here).imp_right ?_
    rintro ⟨same, there⟩
    exact ⟨same, by rwa [same]⟩

/-- With the directories made, the file is written where its path leads. -/
theorem save_of_follow (made : folder.ensureDirectory directory = (ensured, .ok ()))
    (leads : ensured.follow [] (filePath directory) = .ok place)
    (file : ensured.entry? place ≠ some .directory) (inside : place ≠ []) :
    (settings.save folder directory).1.find (filePath directory) =
        .ok (place, .file settings.fileBytes) ∧
      (settings.save folder directory).2 = .ok () := by
  have written : ensured.write (filePath directory) settings.fileBytes = .ok _ :=
    Folder.write_eq_ok_iff.mpr ⟨place, leads, file, rfl⟩
  rw [save, made]
  simp only [fileBytes] at written ⊢
  simp only [written, and_true]
  exact Folder.find_eq_ok_iff.mpr ⟨Folder.follow_put file leads, Folder.entry?_put_self inside⟩

/-- In a directory that is there the file can be made. -/
theorem save_of_directory (there : folder.find directory = .ok (place, .directory))
    (missing : folder.holds (filePath directory) = false) :
    (settings.save folder directory).1.find (filePath directory) =
        .ok (place ++ [fileName], .file settings.fileBytes) ∧
      (settings.save folder directory).2 = .ok () := by
  obtain ⟨leads, here⟩ := Folder.find_eq_ok_iff.mp there
  have below : folder.follow [] (filePath directory) = .ok (place ++ [fileName]) :=
    Folder.follow_concat leads here (by decide) (by decide)
  have free : folder.entry? (place ++ [fileName]) = none := by
    by_contra some_entry
    obtain ⟨entry, stands⟩ := Option.ne_none_iff_exists'.mp some_entry
    have holds : folder.holds (filePath directory) :=
      Folder.holds_iff.mpr ⟨_, entry, Folder.find_eq_ok_iff.mpr ⟨below, stands⟩⟩
    simp [missing] at holds
  exact save_of_follow (Folder.ensureDirectory_of_find there) below (by simp [free]) (by simp)

end Blackjack.Settings
