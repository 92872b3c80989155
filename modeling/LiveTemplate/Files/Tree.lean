import LiveTemplate.Files.Path

namespace LiveTemplate

inductive Node where
  | directory
  | file (content : List UInt8)
  deriving DecidableEq, Repr

/-- A place among the files: the names that lead to it from the topmost directory. -/
abbrev Place := List String

structure FileTree where
  /-- The directory where relative paths start. -/
  current : Place
  /-- What is in the tree. What holds something is a directory. -/
  nodes : List (Place × Node)

/-- Why a path leads nowhere. -/
inductive PathFault where
  | missing
  | notDirectory
  | isDirectory
  | denied
  | nameTooLong
  | unnameable
  deriving DecidableEq, Repr

def PathFault.message : PathFault → String
  | missing => "No such file or directory (os error 2)"
  | notDirectory => "Not a directory (os error 20)"
  | isDirectory => "Is a directory (os error 21)"
  | denied => "Permission denied (os error 13)"
  | nameTooLong => "File name too long (os error 36)"
  | unnameable => "file name contained an unexpected NUL byte"

namespace FileTree

/-- What stands at a place. Of several nodes at the same place the last counts. -/
def node? (t : FileTree) (place : Place) : Option Node :=
  match t.nodes.reverse.find? (·.1 = place) with
  | some (_, n) => some n
  | none =>
    if place = [] ∨ t.nodes.any (fun n => place.isPrefixOf n.1 && n.1 ≠ place) then some .directory
    else none

def putDirectory (t : FileTree) (base : Place) (name : String) : FileTree :=
  { t with nodes := t.nodes ++ [(base ++ Path.names name, .directory)] }

def put (t : FileTree) (base : Place) (name : String) (content : List UInt8) : FileTree :=
  { t with nodes := t.nodes ++ [(base ++ Path.names name, .file content)] }

/-- One part of a path on from a place, which has to be a directory. -/
def enter (t : FileTree) (place : Place) (part : String) : Except PathFault Place :=
  match t.node? place with
  | none => .error .missing
  | some (.file _) => .error .notDirectory
  | some .directory =>
    if Path.staysPut part then .ok place
    else if part = ".." then .ok place.dropLast
    else if Path.isLongName part then .error .nameTooLong
    else if (t.node? (place ++ [part])).isSome then .ok (place ++ [part])
    else .error .missing

/-- The parts of a path on from a place. -/
def walk (t : FileTree) (place : Place) (parts : List String) : Except PathFault Place :=
  parts.foldlM t.enter place

/-- What keeps a path from being walked at all. -/
def refusal? (path : String) : Option PathFault :=
  if path = "" then some .missing
  else if !Path.isNameable path then some .unnameable
  else if Path.isLong path then some .nameTooLong
  else none

/-- Where the parts of a path lead that starts at a directory, or at the top if it is absolute. -/
def walkFrom (t : FileTree) (directory : Place) (path : String) (parts : List String) :
    Except PathFault Place :=
  t.walk (if Path.isAbsolute path then [] else directory) parts

/-- Where a path leads from a directory. -/
def resolveFrom (t : FileTree) (directory : Place) (path : String) : Except PathFault Place :=
  match refusal? path with
  | some f => .error f
  | none => t.walkFrom directory path (Path.parts path)

def resolve (t : FileTree) (path : String) : Except PathFault Place := t.resolveFrom t.current path

def isFile (t : FileTree) (path : String) : Bool :=
  match (t.resolve path).map t.node? with
  | .ok (some (.file _)) => true
  | _ => false

def read (t : FileTree) (path : String) : Except PathFault (List UInt8) :=
  match (t.resolve path).map t.node? with
  | .error f => .error f
  | .ok (some (.file content)) => .ok content
  | .ok (some .directory) => .error .isDirectory
  | .ok none => .error .missing

/-- Opens the file of this name in a directory to append to it, and makes it if there is none.
With a slash after it the name can only be that of a directory. -/
def openIn (t : FileTree) (directory : Place) (name : String) (slash : Bool) :
    Except PathFault FileTree :=
  match t.node? directory with
  | none => .error .missing
  | some (.file _) => .error .notDirectory
  | some .directory =>
    if slash ∨ name = "." ∨ name = ".." then .error .isDirectory
    else if Path.isLongName name then .error .nameTooLong
    else
      match t.node? (directory ++ [name]) with
      | some .directory => .error .isDirectory
      | some (.file _) => .ok t
      | none => .ok (t.put directory name [])

/-- Opens a file to append to it, a new one in a directory that exists. -/
def openAppend (t : FileTree) (path : String) : Except PathFault FileTree :=
  match refusal? path with
  | some f => .error f
  | none =>
    let parts := (Path.parts path).reverse
    match parts.dropWhile (· = "") with
    | [] => .error .isDirectory
    | name :: upward =>
      match t.walkFrom t.current path upward.reverse with
      | .error f => .error f
      | .ok directory => t.openIn directory name (parts.head? = some "")

end FileTree
end LiveTemplate
