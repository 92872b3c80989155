import LiveTemplate.CommandLine
import LiveTemplate.Loading
import LiveTemplate.Screen

namespace LiveTemplate

/-- The size of a terminal that does not tell its own. -/
def usualSize : Size := ⟨80, 24⟩

def openingScreen (template : String) : Screen :=
  let (s, _) := (Session.open_ template).handleInput (.resize usualSize.width usualSize.height) 0
  (s.draw usualSize).2

/-- The fault of a path that the system refused. -/
def PathFault.ofRefusal (path : String) : IO.Error → PathFault
  | .inappropriateType _ code _ => if code = 21 then .isDirectory else .notDirectory
  | .permissionDenied .. => .denied
  | .invalidArgument .. => if Path.isNameable path then .nameTooLong else .unnameable
  | _ => .missing

def readEnvironment : IO (List (String × String)) :=
  (environmentSlots.filterMap Slot.variable?).filterMapM fun name => do
    let value ← IO.getEnv name
    return value.map fun v => (name, v)

def readTemplate : Option String → IO (Except LoadFault String)
  | none => return .ok sampleTemplate
  | some path => do
    if Path.isStandardInput path then
      return inputText (← (← IO.getStdin).readBinToEnd).toList
    match ← (IO.FS.readBinFile path).toBaseIO with
    | .ok bytes => return templateText path (.ok bytes.toList)
    | .error e => return templateText path (.error (.ofRefusal path e))

def readyLog : Option String → IO (Except LoadFault Unit)
  | none => return .ok ()
  | some path => do
    match ← (IO.FS.Handle.mk path .append).toBaseIO with
    | .ok _ => return .ok ()
    | .error e => return .error (.logFile path (.ofRefusal path e))

def complain (message : String) (code : UInt32) : IO UInt32 := do
  IO.eprintln message
  return code

def runWith (settings : Settings) : IO UInt32 := do
  match ← readyLog settings.logFile with
  | .error f => complain f.message 1
  | .ok () =>
    match ← readTemplate settings.file with
    | .error f => complain f.message 1
    | .ok template =>
      (openingScreen template).lines.forM IO.println
      return 0

end LiveTemplate

open LiveTemplate in
def main (args : List String) : IO UInt32 := do
  let environment ← readEnvironment
  match Settings.read args (environment.lookup ·) with
  | .ok settings => runWith settings
  | .error stop =>
    if stop = .help ∨ stop = .version then
      IO.println stop.message
      return 0
    complain stop.message 2
