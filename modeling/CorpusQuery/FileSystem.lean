/-
  CorpusQuery.FileSystem

  The state of the files that a run can see, and the few operations on it: look
  a path up, read a text, create directories, write a file. A path is followed
  name by name from the root or the working directory, and every name on the
  way has to be a directory. Paths and names have limits of length. Symbolic
  links are left out, and so is all that other programs do to the files.
-/

namespace CorpusQuery

/-! ## Paths -/

namespace Path

/-- The names between the slashes of a path, the empty ones included. -/
def split : List Char → List (List Char)
  | [] => [[]]
  | c :: rest =>
    if c = '/' then [] :: split rest
    else match split rest with
      | [] => [[c]]
      | name :: later => (c :: name) :: later

/-- The names of a path. -/
def names (path : String) : List String :=
  (split path.toList).map String.ofList

/-- The path begins at the root. -/
def isAbsolute (path : String) : Bool :=
  path.toList.head? = some '/'

/-- The name leads nowhere else: it is empty or a full stop. -/
def isStay (name : String) : Bool :=
  name = "" || name = "."

/-- The names that count: a full stop counts only at the beginning of a relative path. -/
def components (path : String) : List String :=
  let later := (names path).filter fun name => !isStay name
  if (names path).head? = some "." then "." :: later else later

/-- The names on the way to the last component of a path. -/
def parentNames (path : String) : List String :=
  ((((names path).reverse.dropWhile isStay).drop 1).dropWhile isStay).reverse

/-- The most bytes that a path may have. -/
def lengthLimit : Nat := 4095

/-- The most bytes that a name may have. -/
def nameLimit : Nat := 255

/-- A path that can be looked up at all: it keeps to the limit and has no null character. -/
def isUsable (path : String) : Bool :=
  path.utf8ByteSize ≤ lengthLimit && !path.toList.contains '\x00'

/-- A name that a file or a directory can have. -/
def fits (name : String) : Bool :=
  name.utf8ByteSize ≤ nameLimit

/-- A name appended to a path, after one slash. -/
def join (path name : String) : String :=
  if path.toList.getLast? = some '/' then path ++ name else path ++ "/" ++ name

end Path

/-! ## Entries -/

/-- What a place holds. A file whose content cannot be read as text has none. -/
inductive FileSystem.Entry where
  | directory
  | file (content : Option String)
  deriving DecidableEq, Repr

/-- The files and directories by their places, the working directory, and the places where nothing
can be created or written. A place is the path from the root to it without a needless name, and
the place of the root is the empty text. -/
structure FileSystem where
  entries : List (String × FileSystem.Entry)
  workingDirectory : String
  refused : List String
  deriving Repr

namespace FileSystem

/-- What a place holds. The root is always a directory. -/
def get? (files : FileSystem) (place : String) : Option Entry :=
  if place = "" then some .directory else files.entries.lookup place

/-- The place is a directory. -/
def isDirectory (files : FileSystem) (place : String) : Bool :=
  files.get? place = some .directory

/-- The files with another entry at a place. -/
def set (files : FileSystem) (place : String) (entry : Entry) : FileSystem :=
  { files with
    entries := files.entries.filter (fun old => old.1 ≠ place) ++ [(place, entry)] }

theorem get?_set_self (files : FileSystem) (place : String) (entry : Entry)
    (h : place ≠ "") : (files.set place entry).get? place = some entry := by
  simp only [get?, set, h, if_false]
  induction files.entries with
  | nil => simp
  | cons old rest ih =>
    obtain ⟨key, value⟩ := old
    by_cases hkey : key = place
    · simpa [hkey] using ih
    · have hskip : (place == key) = false := by simpa using fun heq => hkey heq.symm
      simpa [hkey, List.lookup_cons, hskip] using ih

theorem get?_set_ne (files : FileSystem) {place other : String} (entry : Entry)
    (h : other ≠ place) : (files.set place entry).get? other = files.get? other := by
  have hne : (other == place) = false := by simpa using h
  simp only [get?, set]
  congr 1
  induction files.entries with
  | nil => simp [List.lookup_cons, hne]
  | cons old rest ih =>
    obtain ⟨key, value⟩ := old
    by_cases hkey : key = place
    · simpa [hkey, List.lookup_cons, hne] using ih
    · by_cases hother : other = key
      · simp [hkey, hother]
      · have hskip : (other == key) = false := by simpa using hother
        simpa [hkey, List.lookup_cons, hskip] using ih

/-! ## Following paths -/

/-- The place around a place; the root is around itself. -/
def around (place : String) : String :=
  String.ofList ((place.toList.reverse.dropWhile (· ≠ '/')).drop 1).reverse

/-- The place of a name in a directory. -/
def inside (place name : String) : String :=
  place ++ "/" ++ name

/-- The place that a name leads to. -/
def enter (place name : String) : String :=
  if Path.isStay name then place
  else if name = ".." then around place
  else inside place name

/-- Follows names from a place; `none` if one of them is looked up in what is no directory. -/
def follow (files : FileSystem) : String → List String → Option String
  | place, [] => some place
  | place, name :: rest =>
    if files.isDirectory place then follow files (enter place name) rest else none

/-- The place where a path begins. -/
def start (files : FileSystem) (path : String) : String :=
  if Path.isAbsolute path then "" else files.workingDirectory

/-- The entry that a path leads to. The empty path leads nowhere. -/
def lookup (files : FileSystem) (path : String) : Option Entry :=
  if path = "" || !Path.isUsable path then none
  else (files.follow (files.start path) (Path.names path)).bind files.get?

/-- The path leads to a file or a directory. -/
def exists? (files : FileSystem) (path : String) : Bool :=
  (files.lookup path).isSome

/-- The text of the file that a path leads to. -/
def readText? (files : FileSystem) (path : String) : Option String :=
  match files.lookup path with
  | some (.file content) => content
  | _ => none

/-! ## Changes -/

/-- Creates the directories that names lead through from a place, as far as they are missing. Gives
the files after the last success, and whether all directories are there. -/
def createDirectories (files : FileSystem) : String → List String → FileSystem × Bool
  | place, [] => (files, files.isDirectory place)
  | place, name :: rest =>
    if files.isDirectory place then
      let next := enter place name
      -- What is there already is taken for a directory here; the next step looks at it.
      match files.get? next with
      | some _ => createDirectories files next rest
      | none =>
        if !Path.fits name || next ∈ files.refused then (files, false)
        else createDirectories (files.set next .directory) next rest
    else (files, false)

/-- Creates the directories on the way to the last component of a path. -/
def createParents (files : FileSystem) (path : String) : FileSystem × Bool :=
  let names := Path.parentNames path
  if Path.isUsable (String.intercalate "/" names) then
    files.createDirectories (files.start path) names
  else (files, false)

/-- The place that a file is written to: the last name of a path, which has to be a name of its
own, in an existing directory. -/
def target? (files : FileSystem) (path : String) : Option String :=
  match (Path.names path).reverse with
  | [] => none
  | last :: before =>
    if Path.isStay last || last = ".." || !Path.fits last || !Path.isUsable path then none
    else
      match files.follow (files.start path) before.reverse with
      | some place => if files.isDirectory place then some (inside place last) else none
      | none => none

/-- Writes a file; `none` if it cannot be opened for writing. -/
def write? (files : FileSystem) (path : String) (content : String) : Option FileSystem :=
  match files.target? path with
  | some place =>
    if files.isDirectory place || place ∈ files.refused then none
    else some (files.set place (.file (some content)))
  | none => none

end FileSystem

end CorpusQuery
