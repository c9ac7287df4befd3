import Blackjack.Settings.Folder

/-!
# Files that were written

Putting an entry at one place leaves all others as they are. A path leads through directories only,
and a file is never written in the place of one, so after a write every path leads where it led
before; the one that was written leads to what was written (`find_of_write`). Making directories
changes nothing that was there (`furnishes_ensureDirectory`). A path without `..` leads to one place
only, so if a place can be reached at all, the path that spells it leads there
(`follow_of_rooted`).
-/

namespace Blackjack.Folder

variable {folder after : Folder} {path place : List String} {entry : FolderEntry}
  {bytes : List UInt8}

theorem lookup_filter_ne {entries : List (List String × FolderEntry)} (other : path ≠ place) :
    (entries.filter fun found => found.1 ≠ place).lookup path = entries.lookup path := by
  induction entries with
  | nil => rfl
  | cons found entries ih =>
    obtain ⟨here, _⟩ := found
    by_cases same : here = place
    · have apart : (path == here) = false := by simpa [same] using other
      rw [List.filter_cons_of_neg (by simp [same]), ih, List.lookup_cons, apart]
    · rw [List.filter_cons_of_pos (by simp [same]), List.lookup_cons, List.lookup_cons, ih]

theorem entry?_put_self (inside : place ≠ []) :
    entry? (folder.put place entry) place = some entry := by
  unfold entry? put
  rw [if_neg inside, List.lookup_cons_self]

theorem entry?_put_of_ne (other : path ≠ place) :
    entry? (folder.put place entry) path = folder.entry? path := by
  have apart : (path == place) = false := beq_eq_false_iff_ne.mpr other
  unfold entry? put
  rw [List.lookup_cons, apart, lookup_filter_ne other]

/-- Where a step from a directory leads. -/
def walk (place : List String) (step : String) : List String :=
  if step = ".." then place.dropLast else if step = "." then place else place ++ [step]

theorem follow_cons_eq_ok_iff {start later dest : List String} {step : String} :
    folder.follow start (step :: later) = .ok dest ↔
      folder.entry? start = some .directory ∧ folder.follow (walk start step) later = .ok dest := by
  rw [follow.eq_def]
  cases here : folder.entry? start with
  | none => simp [here]
  | some found =>
    cases found with
    | file => simp [here]
    | directory =>
      unfold walk
      by_cases up : step = ".."
      · simp [here, up]
      by_cases stay : step = "." <;> simp [here, up, stay]

/-- A path leads where it led if all directories are still there. -/
theorem follow_of_directories
    (kept : ∀ place, folder.entry? place = some .directory → after.entry? place = some .directory)
    {start steps dest : List String} (leads : folder.follow start steps = .ok dest) :
    after.follow start steps = .ok dest := by
  induction steps generalizing start with
  | nil => exact leads
  | cons step later ih =>
    rw [follow_cons_eq_ok_iff] at leads ⊢
    exact ⟨kept start leads.1, ih leads.2⟩

/-- What stands at a place that is no directory is on the way to nowhere. -/
theorem follow_put (file : folder.entry? place ≠ some .directory) {start steps dest : List String}
    (leads : folder.follow start steps = .ok dest) :
    (folder.put place entry).follow start steps = .ok dest := by
  refine follow_of_directories (fun above here => ?_) leads
  have other : above ≠ place := by
    rintro rfl
    exact file here
  rwa [entry?_put_of_ne other]

/-- A name is looked up in the directory that the path before it leads to. -/
theorem follow_concat {start steps : List String} {name : String}
    (leads : folder.follow start steps = .ok place)
    (here : folder.entry? place = some .directory) (up : name ≠ "..") (stay : name ≠ ".") :
    folder.follow start (steps ++ [name]) = .ok (place ++ [name]) := by
  induction steps generalizing start with
  | nil =>
    cases leads
    simp [follow, here, up, stay]
  | cons step later ih =>
    rw [follow_cons_eq_ok_iff] at leads
    rw [List.cons_append, follow_cons_eq_ok_iff]
    exact ⟨leads.1, ih leads.2⟩

theorem find_eq_ok_iff : folder.find path = .ok (place, entry) ↔
    folder.follow [] path = .ok place ∧ folder.entry? place = some entry := by
  unfold find
  cases folder.follow [] path with
  | error e => simp
  | ok dest =>
    cases found : folder.entry? dest with
    | none => grind
    | some here => grind

theorem holds_iff : folder.holds path ↔ ∃ place entry, folder.find path = .ok (place, entry) := by
  unfold holds
  cases folder.find path with
  | error e => simp [Except.toOption]
  | ok found => simpa [Except.toOption] using ⟨found.1, found.2, rfl⟩

theorem write_eq_ok_iff : folder.write path bytes = .ok after ↔
    ∃ place, folder.follow [] path = .ok place ∧ folder.entry? place ≠ some .directory ∧
      after = folder.put place (.file bytes) := by
  unfold write
  cases folder.follow [] path with
  | error e => simp
  | ok place =>
    simp only [Except.ok.injEq, exists_eq_left']
    cases folder.entry? place with
    | none => simp [eq_comm]
    | some found => cases found <;> simp [eq_comm]

theorem read_of_missing (missing : folder.holds path = false) :
    ∃ e, folder.read path = .error e := by
  cases found : folder.find path with
  | error e => exact ⟨e, by rw [read, found]⟩
  | ok =>
    have stands : folder.holds path := holds_iff.mpr ⟨_, _, found⟩
    simp [missing] at stands

/-- What was written is found where it was written. -/
theorem find_of_write (written : folder.write path bytes = .ok after) :
    ∃ place, after.find path = .ok (place, .file bytes) := by
  rw [write_eq_ok_iff] at written
  obtain ⟨place, leads, file, rfl⟩ := written
  have inside : place ≠ [] := by
    rintro rfl
    exact file rfl
  refine ⟨place, ?_⟩
  rw [find, follow_put file leads]
  simp only [entry?_put_self inside]

theorem holds_of_write (written : folder.write path bytes = .ok after) : after.holds path := by
  obtain ⟨place, found⟩ := find_of_write written
  rw [holds, found]
  rfl

theorem read_of_write (written : folder.write path bytes = .ok after) :
    after.read path = .ok bytes := by
  obtain ⟨place, found⟩ := find_of_write written
  rw [read, found]

section Furnish

/-- All that was in a folder is still there, and what is new are directories. -/
structure Furnishes (folder after : Folder) : Prop where
  kept : ∀ place entry, folder.entry? place = some entry → after.entry? place = some entry
  made : ∀ place bytes, after.entry? place = some (.file bytes) →
    folder.entry? place = some (.file bytes)

namespace Furnishes

theorem refl (folder : Folder) : Furnishes folder folder := ⟨fun _ _ => id, fun _ _ => id⟩

theorem trans {middle : Folder} (first : Furnishes folder middle)
    (second : Furnishes middle after) : Furnishes folder after :=
  ⟨fun place entry here => second.kept place entry (first.kept place entry here),
    fun place bytes here => first.made place bytes (second.made place bytes here)⟩

theorem follow (furnishes : Furnishes folder after) {start steps dest : List String}
    (leads : folder.follow start steps = .ok dest) : after.follow start steps = .ok dest :=
  follow_of_directories (fun place => furnishes.kept place .directory) leads

theorem find (furnishes : Furnishes folder after) (found : folder.find path = .ok (place, entry)) :
    after.find path = .ok (place, entry) := by
  obtain ⟨leads, here⟩ := find_eq_ok_iff.mp found
  exact find_eq_ok_iff.mpr ⟨furnishes.follow leads, furnishes.kept place entry here⟩

end Furnishes

theorem furnishes_put_directory (free : folder.entry? place = none) :
    Furnishes folder (folder.put place .directory) := by
  have inside : place ≠ [] := by
    rintro rfl
    cases free
  constructor
  · intro other entry here
    have apart : other ≠ place := by
      rintro rfl
      rw [free] at here
      cases here
    rwa [entry?_put_of_ne apart]
  · intro other bytes here
    by_cases same : other = place
    · rw [same, entry?_put_self inside] at here
      cases here
    · rwa [entry?_put_of_ne same] at here

theorem furnishes_makeDirectory (made : folder.makeDirectory path = .ok after) :
    Furnishes folder after := by
  unfold makeDirectory at made
  split at made
  · cases made
  · next place _ =>
    split at made
    · cases made
    · next free =>
      cases made
      exact furnishes_put_directory free

theorem furnishes_ensureLast (folder : Folder) (path : List String) :
    Furnishes folder (folder.ensureLast path).1 := by
  unfold ensureLast
  cases made : folder.makeDirectory path with
  | ok after => exact furnishes_makeDirectory made
  | error e => exact .refl folder

theorem furnishes_ensureBelow (folder : Folder) (path above : List String) :
    Furnishes folder (folder.ensureBelow path above).1 := by
  induction above generalizing path with
  | nil => exact furnishes_ensureLast folder path
  | cons step above ih =>
    unfold ensureBelow
    split
    · have first := ih (step :: above).reverse
      generalize folder.ensureBelow (step :: above).reverse above = result at first ⊢
      obtain ⟨middle, answer⟩ := result
      cases answer with
      | ok => exact first.trans (furnishes_ensureLast middle path)
      | error e => exact first
    · exact furnishes_ensureLast folder path

theorem furnishes_ensureDirectory (folder : Folder) (path : List String) :
    Furnishes folder (folder.ensureDirectory path).1 :=
  furnishes_ensureBelow folder path _

/-- A directory that is there already is left alone. -/
theorem ensureDirectory_of_find (found : folder.find path = .ok (place, .directory)) :
    folder.ensureDirectory path = (folder, .ok ()) := by
  obtain ⟨leads, here⟩ := find_eq_ok_iff.mp found
  have stands : folder.makeDirectory path = .error .alreadyExists := by
    simp only [makeDirectory, leads, here]
  have last : folder.ensureLast path = (folder, .ok ()) := by
    simp [ensureLast, stands, holdsDirectory, found, Except.toOption]
  unfold ensureDirectory
  cases (path.filter (· ≠ ".")).reverse.tail with
  | nil => exact last
  | cons step above => simp only [ensureBelow, stands, last]

end Furnish

section Rooted

variable {start steps dest : List String} {name : String}

/-- Everything that a place lies in is a directory. -/
def Rooted (folder : Folder) (place : List String) : Prop :=
  ∀ above, above <+: place → above ≠ place → folder.entry? above = some .directory

theorem rooted_nil (folder : Folder) : folder.Rooted [] :=
  fun _ inside other => absurd (List.prefix_nil.mp inside) other

/-- A step from a directory leads to a place that lies in directories. -/
theorem Rooted.walk (rooted : folder.Rooted place) (here : folder.entry? place = some .directory)
    (step : String) : folder.Rooted (walk place step) := by
  unfold Folder.walk
  by_cases up : step = ".."
  · rw [if_pos up]
    intro above inside other
    refine rooted above (inside.trans (List.dropLast_prefix place)) ?_
    rintro rfl
    exact other (inside.eq_of_length_le (by simp))
  rw [if_neg up]
  by_cases stay : step = "."
  · rwa [if_pos stay]
  rw [if_neg stay]
  intro above inside other
  rcases List.prefix_concat_iff.mp inside with same | inside
  · exact absurd same other
  by_cases last : above = place
  · rw [last, here]
  · exact rooted above inside last

/-- What can be reached lies in directories. -/
theorem rooted_of_follow (rooted : folder.Rooted start)
    (leads : folder.follow start steps = .ok dest) : folder.Rooted dest := by
  induction steps generalizing start with
  | nil =>
    cases leads
    exact rooted
  | cons step later ih =>
    obtain ⟨here, leads⟩ := follow_cons_eq_ok_iff.mp leads
    exact ih (rooted.walk here step) leads

/-- Without steps `..` a path only goes down, so it spells its place. -/
theorem walk_append_filter {step : String} (plain : step ≠ "..") (start later : List String) :
    walk start step ++ later.filter (· ≠ ".") = start ++ (step :: later).filter (· ≠ ".") := by
  by_cases stay : step = "."
  · simp [walk, stay]
  · simp [walk, plain, stay]

theorem eq_of_follow (plain : ".." ∉ steps) (leads : folder.follow start steps = .ok dest) :
    dest = start ++ steps.filter (· ≠ ".") := by
  induction steps generalizing start with
  | nil =>
    cases leads
    simp
  | cons step later ih =>
    rw [List.mem_cons, not_or] at plain
    obtain ⟨-, leads⟩ := follow_cons_eq_ok_iff.mp leads
    rw [ih plain.2 leads, walk_append_filter (Ne.symm plain.1)]

/-- It leads there if everything that the place lies in is a directory. -/
theorem follow_of_rooted (plain : ".." ∉ steps) (up : name ≠ "..") (stay : name ≠ ".")
    (rooted : folder.Rooted (start ++ steps.filter (· ≠ ".") ++ [name])) :
    folder.follow start (steps ++ [name]) = .ok (start ++ steps.filter (· ≠ ".") ++ [name]) := by
  have here : folder.entry? start = some .directory :=
    rooted start (by simp [List.append_assoc]) (by simp [List.append_assoc])
  induction steps generalizing start with
  | nil => simp [follow, here, up, stay]
  | cons step later ih =>
    rw [List.mem_cons, not_or] at plain
    rw [← walk_append_filter (Ne.symm plain.1)] at rooted ⊢
    refine follow_cons_eq_ok_iff.mpr ⟨here, ih plain.2 rooted ?_⟩
    exact rooted _ (by simp [List.append_assoc]) (by simp [List.append_assoc])

end Rooted

end Blackjack.Folder
