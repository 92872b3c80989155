namespace LiveTemplate

namespace Path

def isAbsolute (p : String) : Bool := p.toList.head? = some '/'

/-- Goes from a directory to a path. An absolute path stands for itself. -/
def join (root p : String) : String :=
  if isAbsolute p ∨ root = "" then p
  else if root.toList.getLast? = some '/' then root ++ p
  else root ++ "/" ++ p

/-- Cuts a text at every slash. -/
def splitSlashes : List Char → List (List Char)
  | [] => [[]]
  | c :: rest =>
    if c = '/' then [] :: splitSlashes rest else (splitSlashes rest).modifyHead (c :: ·)

/-- The parts of a path, of which the empty ones come from slashes that meet or end the path. -/
def parts (p : String) : List String := (splitSlashes p.toList).map String.ofList

/-- Whether a part stays where it is. -/
def staysPut (part : String) : Bool := part = "" || part = "."

/-- The names along a path that leads downwards. -/
def names (p : String) : List String := (parts p).filter fun part => !staysPut part

/-- A name has at most 255 bytes. -/
def isLongName (name : String) : Bool := 255 < name.utf8ByteSize

/-- A path has less than 4096 bytes. -/
def isLong (p : String) : Bool := 4096 ≤ p.utf8ByteSize

/-- Whether a path names the standard input: a lone dash, also with parts after it that stay put. -/
def isStandardInput (p : String) : Bool :=
  match parts p with
  | first :: rest => first = "-" && rest.all staysPut
  | [] => false

/-- A path can hold any character but this one. -/
def isNameable (p : String) : Bool := !p.toList.contains '\x00'

end Path
end LiveTemplate
