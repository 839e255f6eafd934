/-
This file holds a tree of files: which paths exist, and what the files hold. Its operations fail as
those of a Unix system do. A path is a list of names; a written path has them between slashes.
-/

import ApplicationLedger.Bytes.Utf8

namespace ApplicationLedger

/-- Why the system refuses an operation. -/
inductive SystemFault where
  | notFound
  | exists
  | notADirectory
  | isADirectory
  | nameTooLong
  | networkUnreachable
  /-- A path that holds a zero character, which no name can. -/
  | zeroInPath
  /-- A file that should hold a text holds other bytes. -/
  | notText
  deriving DecidableEq, Repr

namespace SystemFault

/-- The fault in words. -/
def message : SystemFault → String
  | notFound => "No such file or directory (os error 2)"
  | .exists => "File exists (os error 17)"
  | notADirectory => "Not a directory (os error 20)"
  | isADirectory => "Is a directory (os error 21)"
  | nameTooLong => "File name too long (os error 36)"
  | networkUnreachable => "Network is unreachable (os error 101)"
  | zeroInPath => "file name contained an unexpected NUL byte"
  | notText => "stream did not contain valid UTF-8"

end SystemFault

/-- The names on the way from the root. -/
abbrev Path := List String

namespace Path

/-- The names of a written path, one after the other. A slash at the end counts as a step to the
directory itself. -/
def names (current : List Char) : List Char → Path
  | [] => if current.isEmpty then [] else [String.ofList current.reverse]
  | '/' :: rest =>
    if current.isEmpty then names [] rest
    else String.ofList current.reverse :: (if rest.isEmpty then ["."] else names [] rest)
  | c :: rest => names (c :: current) rest

/-- The path that a text writes. -/
def ofText (text : String) : Path := names [] text.toList

/-- A written path below another one; a path from the root stands for itself. -/
def join (base path : String) : String :=
  if path.startsWith "/" || base.isEmpty then path
  else if base.endsWith "/" then base ++ path
  else base ++ "/" ++ path

end Path

/-- What a path leads to. -/
inductive Node where
  | file (content : Bytes)
  | directory
  deriving DecidableEq, Repr

/-- A tree of files: what there is beside the root. -/
structure FileTree where
  entries : List (Path × Node)
  deriving Repr

namespace FileTree

/-- The tree with the root alone. -/
def empty : FileTree := ⟨[]⟩

/-- What stands at a place. -/
def node? (t : FileTree) (place : Path) : Option Node :=
  if place.isEmpty then some .directory else t.entries.lookup place

/-- The tree without what stands at a place. -/
def erase (t : FileTree) (place : Path) : FileTree :=
  ⟨t.entries.filter (·.1 != place)⟩

/-- The tree with something put at a place. -/
def insert (t : FileTree) (place : Path) (node : Node) : FileTree :=
  ⟨(place, node) :: (t.erase place).entries⟩

/-- The greatest number of bytes in a name. -/
def greatestName : Nat := 255

/-- The place that some names lead to from a place. Every step but the last has to end in a
directory. -/
def walk (t : FileTree) (place : Path) : Path → Except SystemFault Path
  | [] => .ok place
  | name :: rest =>
    match t.node? place with
    | none => .error .notFound
    | some (.file _) => .error .notADirectory
    | some .directory =>
      if name = "." then walk t place rest
      else if name = ".." then walk t place.dropLast rest
      else if name.utf8ByteSize > greatestName then .error .nameTooLong
      else walk t (place ++ [name]) rest

/-- The place that a path leads to. -/
def locate (t : FileTree) (path : Path) : Except SystemFault Path :=
  if path.any (·.contains '\x00') then .error .zeroInPath else t.walk [] path

/-- What the file at a path holds. -/
def read (t : FileTree) (path : Path) : Except SystemFault Bytes := do
  match t.node? (← t.locate path) with
  | none => .error .notFound
  | some .directory => .error .isADirectory
  | some (.file content) => .ok content

/-- The text that the file at a path holds. -/
def readText (t : FileTree) (path : Path) : Except SystemFault String := do
  match Bytes.text? (← t.read path) with
  | some text => .ok text
  | none => .error .notText

/-- Makes the file at a path hold some bytes, as a new file if there is none. -/
def write (t : FileTree) (path : Path) (content : Bytes) : Except SystemFault FileTree := do
  let place ← t.locate path
  match t.node? place with
  | some .directory => .error .isADirectory
  | _ => .ok (t.insert place (.file content))

/-- Moves a file to another path, where it replaces a file that is there. -/
def rename (t : FileTree) (source target : Path) : Except SystemFault FileTree := do
  let sourcePlace ← t.locate source
  let targetPlace ← t.locate target
  match t.node? sourcePlace, t.node? targetPlace with
  | none, _ => .error .notFound
  | some (.file _), some .directory => .error .isADirectory
  | some (.file content), _ =>
    .ok ((t.erase sourcePlace).insert targetPlace (.file content))
  | some .directory, _ => .error .isADirectory

/-- Removes the file at a path. -/
def remove (t : FileTree) (path : Path) : Except SystemFault FileTree := do
  let place ← t.locate path
  match t.node? place with
  | none => .error .notFound
  | some .directory => .error .isADirectory
  | some (.file _) => .ok (t.erase place)

/-- Whether a path leads to something. -/
def isPresent (t : FileTree) (path : Path) : Bool :=
  (t.locate path).toOption.any fun place => (t.node? place).isSome

/-- Whether a path leads to a directory. -/
def isDirectory (t : FileTree) (path : Path) : Bool :=
  match t.locate path with
  | .ok place => t.node? place == some .directory
  | .error _ => false

/-- Makes a directory. -/
def createDirectory (t : FileTree) (path : Path) : Except SystemFault FileTree := do
  let place ← t.locate path
  match t.node? place with
  | some _ => .error .exists
  | none => .ok (t.insert place .directory)

/-- Makes a directory and those above it that are missing; the path is given from its end. -/
def createReversed (t : FileTree) : Path → Except SystemFault FileTree
  | [] => .ok t
  | name :: above =>
    let path := (name :: above).reverse
    match t.createDirectory path with
    | .ok created => .ok created
    | .error .notFound => do
      let created ← createReversed t above
      match created.createDirectory path with
      | .ok created => .ok created
      | .error fault => if created.isDirectory path then .ok created else .error fault
    | .error fault => if t.isDirectory path then .ok t else .error fault

/-- Makes a directory and those above it that are missing. A directory that is there is left as it
is. -/
def createDirectories (t : FileTree) (path : Path) : Except SystemFault FileTree :=
  t.createReversed path.reverse

/-- What stands directly below a place, by name. -/
def children (t : FileTree) (place : Path) : List (String × Node) :=
  t.entries.filterMap fun (path, node) =>
    match path.getLast? with
    | some name => if path.dropLast = place then some (name, node) else none
    | none => none

end FileTree

end ApplicationLedger
