import Dpll.File.Error

/-!
Files as a value. Files and folders go by their names from the root on. A path starts at the root or
else in the folder in which the program runs, and is followed from there part by part.
-/

namespace Dpll

structure FileTree where
  /-- All folders but the root. -/
  folders : List (List String) := []
  files : List (List String × ByteArray) := []
  /-- The folder in which the program runs. -/
  current : List String := []

/-- What a path leads to. -/
inductive Place where
  | folder (path : List String)
  | file (path : List String)
  /-- A name that is free, in a folder that exists. -/
  | vacant (path : List String)
  /-- A name with a slash behind it that is not a folder's, and why it cannot be read. -/
  | slashed (error : FileError)
  deriving DecidableEq, Repr

def maxNameSize : Nat := 255

def maxPathSize : Nat := 4095

namespace Place

def isFile : Place → Bool
  | file _ => true
  | _ => false

/-- Ends a path at a name that is not a folder's, unless more parts come behind it. -/
def stop (place : Place) (name : String) (rest : List String) : Except FileError Place :=
  let isTooLong := maxNameSize < name.utf8ByteSize
  let error := if isTooLong then .nameTooLong
    else if place.isFile then .notADirectory else .notFound
  if rest = [] ∧ !isTooLong then .ok place
  else if rest ≠ [] ∧ rest.all (· = "") then .ok (.slashed error)
  else .error error

end Place

namespace FileTree

def content? (t : FileTree) (path : List String) : Option ByteArray :=
  t.files.lookup path

/-- What a folder has under a name. -/
def entry (t : FileTree) (name : String) (here : List String) : Place :=
  let path := here ++ [name]
  if path ∈ t.folders then .folder path
  else if (t.content? path).isSome then .file path
  else .vacant path

/-- Follows the parts of a path from a folder on. The root is its own parent. -/
def follow (t : FileTree) (here : List String) : List String → Except FileError Place
  | [] => .ok (.folder here)
  | part :: rest =>
    if part ∈ ["", "."] then t.follow here rest
    else if part = ".." then t.follow here.dropLast rest
    else
      match t.entry part here with
      | .folder there => t.follow there rest
      | place => place.stop part rest

/-- The parts of a path between slashes. -/
def parts (path : String) : List String :=
  (path.toList.splitOn '/').map String.ofList

def locate (t : FileTree) (path : String) : Except FileError Place :=
  if maxPathSize < path.utf8ByteSize then .error .nameTooLong
  else
    match parts path with
    | [] | [""] => .error .notFound
    | "" :: parts => t.follow [] parts
    | parts => t.follow t.current parts

def read (t : FileTree) (path : String) : Except FileError ByteArray :=
  match t.locate path with
  | .error e | .ok (.slashed e) => .error e
  | .ok (.folder _) => .error .isADirectory
  | .ok (.vacant _) => .error .notFound
  | .ok (.file path) => (t.content? path).elim (.error .notFound) .ok

def put (t : FileTree) (path : List String) (bytes : ByteArray) : FileTree :=
  { t with files := (path, bytes) :: t.files.filter (·.1 ≠ path) }

/-- Makes a file hold these bytes and nothing else, creating it if it is missing. -/
def write (t : FileTree) (path : String) (bytes : ByteArray) : Except FileError FileTree :=
  match t.locate path with
  | .error e => .error e
  | .ok (.folder _) | .ok (.slashed _) => .error .isADirectory
  | .ok (.file path) | .ok (.vacant path) => .ok (t.put path bytes)

end FileTree

end Dpll
