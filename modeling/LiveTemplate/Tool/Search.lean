import LiveTemplate.Analysis.Failure
import LiveTemplate.Files.Tree

namespace LiveTemplate

def scriptName : String := "herb-analyzer.js"

/-- The places below or beside a directory where the script may be. -/
def scriptPlaces : List String :=
  [scriptName, "playground-cli/" ++ scriptName, "../playground-cli/" ++ scriptName]

/-- The paths to try, in order. -/
def scriptCandidates (root : String) (explicit : Option String) : List String :=
  (explicit.toList ++ scriptPlaces).map (Path.join root)

/-- The first candidate that is a regular file. -/
def findScript (t : FileTree) (root : String) (explicit : Option String) : Except Failure String :=
  let candidates := scriptCandidates root explicit
  match candidates.find? t.isFile with
  | some path => .ok path
  | none => .error (.scriptMissing candidates)

end LiveTemplate
