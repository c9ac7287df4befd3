/-!
# Files and directories

A `Folder` is a tree of files, given by what stands at each path from its root. The operations on it
fail as those of a file system do: what is missing is not found, nothing stands below a file, a
directory has no text, and a directory cannot be made where something stands already.
-/

namespace Blackjack

/-- What can stand at a path. -/
inductive FolderEntry where
  | file (bytes : List UInt8)
  | directory
  deriving DecidableEq, Repr

/-- Why an operation on a path fails. -/
inductive FolderError where
  | notFound
  | notADirectory
  | isADirectory
  | alreadyExists
  | invalidData
  deriving DecidableEq, Repr

/-- What stands at the paths below a root, which is a directory itself. -/
structure Folder where
  entries : List (List String × FolderEntry) := []
  deriving DecidableEq, Repr

namespace Folder

/-- What stands at a path without detours. -/
def entry? (folder : Folder) (path : List String) : Option FolderEntry :=
  if path = [] then some .directory else folder.entries.lookup path

/-- Puts an entry at a path without detours. -/
def put (folder : Folder) (path : List String) (entry : FolderEntry) : Folder :=
  ⟨(path, entry) :: folder.entries.filter fun other => other.1 ≠ path⟩

/-- Follows the steps of a path from a place; the last step may lead to nothing. -/
def follow (folder : Folder) : List String → List String → Except FolderError (List String)
  | place, [] => .ok place
  | place, step :: later =>
    match folder.entry? place with
    | none => .error .notFound
    | some (.file _) => .error .notADirectory
    | some .directory =>
      if step = ".." then follow folder place.dropLast later
      else if step = "." then follow folder place later
      else follow folder (place ++ [step]) later

/-- What stands at a path. -/
def find (folder : Folder) (path : List String) :
    Except FolderError (List String × FolderEntry) :=
  match folder.follow [] path with
  | .error e => .error e
  | .ok place =>
    match folder.entry? place with
    | some entry => .ok (place, entry)
    | none => .error .notFound

/-- Whether something stands at a path. -/
def holds (folder : Folder) (path : List String) : Bool := (folder.find path).toOption.isSome

/-- Whether a directory stands at a path. -/
def holdsDirectory (folder : Folder) (path : List String) : Bool :=
  (folder.find path).toOption.any fun found => found.2 = .directory

/-- The bytes of the file at a path. -/
def read (folder : Folder) (path : List String) : Except FolderError (List UInt8) :=
  match folder.find path with
  | .ok (_, .file bytes) => .ok bytes
  | .ok (_, .directory) => .error .isADirectory
  | .error e => .error e

/-- Writes a file, in a directory that exists. -/
def write (folder : Folder) (path : List String) (bytes : List UInt8) :
    Except FolderError Folder :=
  match folder.follow [] path with
  | .error e => .error e
  | .ok place =>
    match folder.entry? place with
    | some .directory => .error .isADirectory
    | _ => .ok (folder.put place (.file bytes))

/-- Makes a directory in one that exists. -/
def makeDirectory (folder : Folder) (path : List String) : Except FolderError Folder :=
  match folder.follow [] path with
  | .error e => .error e
  | .ok place =>
    match folder.entry? place with
    | some _ => .error .alreadyExists
    | none => .ok (folder.put place .directory)

/-- Makes a directory, unless it stands there already. -/
def ensureLast (folder : Folder) (path : List String) : Folder × Except FolderError Unit :=
  match folder.makeDirectory path with
  | .ok folder => (folder, .ok ())
  | .error e => (folder, if folder.holdsDirectory path then .ok () else .error e)

/--
Makes a directory and all that is missing above it; the steps of the path above come last one first.
What stands already is looked at from the whole path upwards, and may not be a file. Whatever has
been made stays when a later step fails.
-/
def ensureBelow (folder : Folder) (path : List String) :
    List String → Folder × Except FolderError Unit
  | [] => folder.ensureLast path
  | step :: above =>
    match folder.makeDirectory path with
    | .error .notFound =>
      match folder.ensureBelow (step :: above).reverse above with
      | (folder, .ok ()) => folder.ensureLast path
      | (folder, .error e) => (folder, .error e)
    | _ => folder.ensureLast path

/--
Makes a directory and all that is missing above it. A step `.` is no part of the paths above, but at
the end of this one it has to stand in a directory that is there already.
-/
def ensureDirectory (folder : Folder) (path : List String) : Folder × Except FolderError Unit :=
  folder.ensureBelow path (path.filter (· ≠ ".")).reverse.tail

/-- Removes the file at a path. -/
def remove (folder : Folder) (path : List String) : Folder :=
  match folder.find path with
  | .ok (place, .file _) => ⟨folder.entries.filter fun other => other.1 ≠ place⟩
  | _ => folder

end Folder

end Blackjack
