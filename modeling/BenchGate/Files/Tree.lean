import BenchGate.Files.Error
import BenchGate.Files.Path

/-!
# File trees

A run sees files through a `Tree`: which names are directories and which are files, and what the
files hold. Paths are followed name by name from the current directory, as the system does: each
name but the last has to be a directory, `..` leaves the directory that was really entered, and a
slash at the end asks for a directory. `Tree.read` and `Tree.write` are the only ways a run
touches a tree; writing changes one place and nothing else.
-/

namespace BenchGate

/-- A place in a tree: the names on the way from the current directory to it, the last one
first. Places above the current directory begin with `..`, and `/` is the root of the system. -/
abbrev Location := List String

/-- What stands at a place. -/
inductive Entry where
  | directory
  | file (content : Bytes)
deriving DecidableEq

/-- Directories and files by place. -/
structure Tree where
  entries : List (Location × Entry) := []

namespace Tree

/-- The longest name of a file, in bytes. -/
def longestName : Nat := 255

/-- The longest path, in bytes, with the byte that ends it. -/
def longestPath : Nat := 4096

/-- What stands at a place. The current directory, the directories above it and the root are
always there. -/
def entry? (tree : Tree) (place : Location) : Option Entry :=
  if place.all (· = "..") ∨ place = ["/"] then some .directory else tree.entries.lookup place

/-- The directory a place is in. -/
def parent : Location → Location
  | [] => [".."]
  | ["/"] => ["/"]
  | ".." :: rest => ".." :: ".." :: rest
  | _ :: rest => rest

/-- Where a path begins. -/
def origin (path : String) : Location := if Path.isAbsolute path then ["/"] else []

/-- One name further from a place, whatever stands there. -/
def step (place : Location) (name : String) : Location :=
  if name = "." then place else if name = ".." then parent place else name :: place

/-- Follows one name from a place. -/
def follow (tree : Tree) (place : Location) (name : String) : Except FileError Location :=
  match tree.entry? place with
  | none => .error .missing
  | some (.file _) => .error .notDirectory
  | some .directory =>
    if name = "." then .ok place
    else if name = ".." then .ok (parent place)
    else if name.utf8ByteSize > longestName then .error .nameTooLong
    else if (tree.entry? (name :: place)).isSome then .ok (name :: place)
    else .error .missing

/-- What is wrong with a path before any file is looked at. -/
def pathError? (path : String) : Option FileError :=
  if '\x00' ∈ path.toList then some .zeroCharacter
  else if path = "" then some .missing
  else if path.utf8ByteSize ≥ longestPath then some .nameTooLong
  else none

/-- The content of the file at a path. -/
def read (tree : Tree) (path : String) : Except FileError Bytes :=
  match pathError? path with
  | some e => .error e
  | none => do
    let place ← (Path.names path).foldlM tree.follow (origin path)
    match tree.entry? place with
    | some (.file content) => if Path.asksDirectory path then .error .notDirectory else .ok content
    | _ => .error .directoryRead

/-- The place at which a path would create or replace a file. -/
def target (tree : Tree) (path : String) : Except FileError Location :=
  match pathError? path with
  | some e => .error e
  | none =>
    match (Path.names path).reverse with
    | [] => .error .directoryOpened
    | last :: before => do
      let place ← before.reverse.foldlM tree.follow (origin path)
      if last = "." ∨ last = ".." then
        let _ ← tree.follow place last
        .error .directoryOpened
      else
        match tree.entry? place with
        | some (.file _) => .error .notDirectory
        | _ =>
          if Path.asksDirectory path then .error .directoryOpened
          else if last.utf8ByteSize > longestName then .error .nameTooLong
          else if tree.entry? (last :: place) = some .directory then .error .directoryOpened
          else .ok (last :: place)

/-- The tree with one place changed. -/
def set (tree : Tree) (place : Location) (entry : Entry) : Tree where
  entries := (place, entry) :: tree.entries.filter (·.1 ≠ place)

/-- The tree with a file created or replaced. -/
def write (tree : Tree) (path : String) (content : Bytes) : Except FileError Tree :=
  (tree.target path).map fun place => tree.set place (.file content)

/-- The tree with a directory and all directories above it, the last name first. -/
def addDirectory (tree : Tree) : Location → Tree
  | [] => tree
  | name :: place =>
    let tree := tree.addDirectory place
    if (tree.entry? (name :: place)).isSome then tree else tree.set (name :: place) .directory

/-- The place of a path whose directories need not exist. -/
def placeOf (path : String) : Location :=
  ((Path.names path).foldl (Path.shorten false) []) ++ origin path

/-- The tree with a file and all directories above it. -/
def addFile (tree : Tree) (path : String) (content : Bytes) : Tree :=
  let place := placeOf path
  (tree.addDirectory (parent place)).set place (.file content)

/-- The path of a place. -/
def pathOf (place : Location) : String :=
  match place.reverse with
  | "/" :: names => "/" ++ "/".intercalate names
  | names => "/".intercalate names

/-- A place is inside the current directory if the way to it never leaves that directory. -/
def isInside (place : Location) : Bool := !place.contains ".." && !place.contains "/"

/-- The files that `after` holds and `before` does not, or not with this content. -/
def changes (before after : Tree) : List (Location × Bytes) :=
  after.entries.filterMap fun (place, entry) =>
    match entry with
    | .directory => none
    | .file content => if before.entry? place = some entry then none else some (place, content)

end Tree

end BenchGate
