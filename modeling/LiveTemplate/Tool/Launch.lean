import LiveTemplate.Analysis.Analyzer
import LiveTemplate.Tool.Search
import LiveTemplate.Tool.Verdict

namespace LiveTemplate

/-- How the analyzer is to be run. -/
structure Tool where
  node : String
  script : Option String
  searchRoot : String
  deriving DecidableEq, Repr

/-- A machine: its files, the places of those that can be executed, and the names under which
programs are found without a path. -/
structure Machine where
  tree : FileTree
  executables : List Place
  programs : List String

/-- What a started analyzer does: it ends after writing, or never ends. -/
inductive Conduct where
  | ends (ending : Ending) (stdout stderr : List UInt8)
  | hangs
  deriving DecidableEq, Repr

/-- The interpreter is started in a directory, on the script and on a file with the template. -/
structure Launch where
  script : Place
  input : String
  directory : Place
  deriving DecidableEq, Repr

/-- The name of the file that holds the template; `tag` tells it from others. -/
def Launch.inputName (tag : String) : String := "erb-" ++ tag ++ ".html.erb"

namespace Tool

def startFault (tool : Tool) : PathFault → Failure
  | .missing => .interpreterMissing tool.node
  | .unnameable => .io "nul byte found in provided data"
  | f => .io f.message

/-- The answer of a directory, or of a file that may not be executed. -/
def notExecutable : Failure := .io PathFault.denied.message

/-- Finds the interpreter from the directory it is to run in. A name without a slash is one of the
machine's programs, except that the names of directories are found everywhere. -/
def findProgram (tool : Tool) (m : Machine) (directory : Place) : Except Failure Unit :=
  if tool.node.toList.contains '/' then
    match m.tree.resolveFrom directory tool.node with
    | .ok place => if place ∈ m.executables then .ok () else .error notExecutable
    | .error f => .error (tool.startFault f)
  else if tool.node ∈ m.programs then .ok ()
  else if tool.node = "." ∨ tool.node = ".." then .error notExecutable
  else if Path.isLongName tool.node then .error (tool.startFault .nameTooLong)
  else .error (.interpreterMissing tool.node)

def launch (tool : Tool) (m : Machine) (tag : String) : Except Failure Launch :=
  match findScript m.tree tool.searchRoot tool.script with
  | .error f => .error f
  | .ok path =>
    if !Path.isNameable tool.node || !Path.isNameable tool.searchRoot then
      .error (tool.startFault .unnameable)
    else
      match m.tree.resolve tool.searchRoot, m.tree.resolve path with
      | .error f, _ => .error (tool.startFault f)
      | _, .error f => .error (tool.startFault f)
      | .ok directory, .ok script =>
        if m.tree.node? directory ≠ some .directory then .error (tool.startFault .notDirectory)
        else
          (tool.findProgram m directory).map fun _ => ⟨script, Launch.inputName tag, directory⟩

/-- The reply of an analyzer whose start came to `launch`. -/
def reply (launch : Except Failure Launch) (conduct : Conduct) : Reply :=
  match launch, conduct with
  | .error f, _ => .after 0 (.error f)
  | .ok _, .ends ending stdout stderr => .after 0 (verdict ending stdout stderr)
  | .ok _, .hangs => .never

end Tool
end LiveTemplate
