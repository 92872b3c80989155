namespace LiveTemplate

/-- What the arguments can set. -/
inductive Slot where
  | file
  | analyzer
  | node
  | debounceMs
  | timeoutMs
  | logFile
  deriving DecidableEq, Repr

structure Given where
  file : Option String
  analyzer : Option String
  node : Option String
  debounceMs : Option Nat
  timeoutMs : Option Nat
  logFile : Option String
  deriving DecidableEq, Repr

/-- Why there is nothing to run with. -/
inductive Stop where
  | unknownArgument
  | missingValue
  | badValue
  | repeated
  | unneededValue
  | help
  | version
  deriving DecidableEq, Repr

def Stop.message : Stop → String
  | unknownArgument => "unexpected argument"
  | missingValue => "a value is required"
  | badValue => "invalid value"
  | repeated => "an argument cannot be used multiple times"
  | unneededValue => "unexpected value"
  | help => "Usage: herb-live [OPTIONS] [FILE]"
  | version => "herb-live"

/-- A number of milliseconds: decimal digits, after a plus sign or not, that fit in 64 bits. -/
def parseMs? (s : String) : Option Nat :=
  let digits := if s.toList.head? = some '+' then s.toList.tail else s.toList
  if digits.isEmpty ∨ ¬ digits.all Char.isDigit then none
  else
    let n := digits.foldl (fun n c => n * 10 + (c.toNat - '0'.toNat)) 0
    if n ≤ 0xffffffffffffffff then some n else none

namespace Given

def nothing : Given := ⟨none, none, none, none, none, none⟩

def has (g : Given) : Slot → Bool
  | .file => g.file.isSome
  | .analyzer => g.analyzer.isSome
  | .node => g.node.isSome
  | .debounceMs => g.debounceMs.isSome
  | .timeoutMs => g.timeoutMs.isSome
  | .logFile => g.logFile.isSome

def path (value : String) : Except Stop String :=
  if value = "" then .error .missingValue else .ok value

def number (value : String) : Except Stop Nat :=
  match parseMs? value with
  | some n => .ok n
  | none => .error .badValue

def set (g : Given) (slot : Slot) (value : String) : Except Stop Given :=
  match slot with
  | .file => (path value).map fun v => { g with file := some v }
  | .analyzer => (path value).map fun v => { g with analyzer := some v }
  | .node => .ok { g with node := some value }
  | .debounceMs => (number value).map fun v => { g with debounceMs := some v }
  | .timeoutMs => (number value).map fun v => { g with timeoutMs := some v }
  | .logFile => (path value).map fun v => { g with logFile := some v }

/-- Sets a value that may not be set yet. -/
def add (g : Given) (slot : Slot) (value : String) : Except Stop Given :=
  if g.has slot then .error .repeated else g.set slot value

end Given

/-- An argument whose value is still to be taken in, or still to come. -/
abbrev Held := Option (Slot × Option String)

def settle (g : Given) : Held → Except Stop Given
  | none => .ok g
  | some (_, none) => .error .missingValue
  | some (slot, some value) => g.add slot value

inductive Argument where
  | escape
  | flag (asks : Stop) (attached : Bool)
  | option (slot : Slot) (attached : Option String)
  | unknown
  | plain (value : String)
  deriving DecidableEq, Repr

namespace Argument

def slot? (name : List Char) : Option Slot :=
  if name = "analyzer".toList then some .analyzer
  else if name = "node".toList then some .node
  else if name = "debounce-ms".toList then some .debounceMs
  else if name = "timeout-ms".toList then some .timeoutMs
  else if name = "log-file".toList then some .logFile
  else none

/-- An argument after two dashes. -/
def ofLong (s : List Char) : Argument :=
  let name := s.takeWhile (· ≠ '=')
  let attached := if s.contains '=' then some (String.ofList (s.drop (name.length + 1))) else none
  if name = "help".toList then .flag .help attached.isSome
  else if name = "version".toList then .flag .version attached.isSome
  else
    match slot? name with
    | some slot => .option slot attached
    | none => .unknown

def of (s : String) : Argument :=
  match s.toList with
  | ['-', '-'] => .escape
  | '-' :: '-' :: rest => ofLong rest
  | '-' :: 'h' :: _ => .flag .help false
  | '-' :: 'V' :: _ => .flag .version false
  | '-' :: _ :: _ => .unknown
  | _ => .plain s

end Argument

/-- Whether a file was given, taken in or not. -/
def hasFile (g : Given) (held : Held) : Bool := g.has .file || held.any (·.1 = .file)

def holdFile (g : Given) (held : Held) (value : String) : Except Stop (Given × Held) :=
  if hasFile g held then .error .unknownArgument
  else (settle g held).map fun g => (g, some (.file, some value))

def readArgument (g : Given) (held : Held) : Argument → Except Stop (Given × Held)
  | .escape => .ok (g, held)
  | .unknown => .error .unknownArgument
  | .flag asks attached =>
    if attached then .error .unneededValue
    else
      match settle g held with
      | .error e => .error e
      | .ok _ => .error asks
  | .option slot none => (settle g held).map fun g => (g, some (slot, none))
  | .option slot (some value) =>
    match settle g held with
    | .error e => .error e
    | .ok g => (g.add slot value).map fun g => (g, none)
  | .plain value =>
    match held with
    | some (slot, none) => .ok (g, some (slot, some value))
    | _ => holdFile g held value

def readPlain (g : Given) (held : Held) : List String → Except Stop Given
  | [] => settle g held
  | a :: rest =>
    match holdFile g held a with
    | .error e => .error e
    | .ok (g, held) => readPlain g held rest

def readArguments (g : Given) (held : Held) : List String → Except Stop Given
  | [] => settle g held
  | a :: rest =>
    if Argument.of a = .escape then readPlain g held rest
    else
      match readArgument g held (Argument.of a) with
      | .error e => .error e
      | .ok (g, held) => readArguments g held rest

/-- The variable that stands in for an option. -/
def Slot.variable? : Slot → Option String
  | file => none
  | analyzer => some "HERB_LIVE_ANALYZER"
  | node => some "HERB_LIVE_NODE"
  | debounceMs => some "HERB_LIVE_DEBOUNCE_MS"
  | timeoutMs => some "HERB_LIVE_TIMEOUT_MS"
  | logFile => some "HERB_LIVE_LOG_FILE"

/-- The options in the order in which the environment is asked for them. -/
def environmentSlots : List Slot := [.analyzer, .node, .debounceMs, .timeoutMs, .logFile]

/-- Asks the environment for an option that was not given. -/
def readVariable (env : String → Option String) (g : Given) (slot : Slot) : Except Stop Given :=
  if g.has slot then .ok g
  else
    match slot.variable?.bind env with
    | some value => g.set slot value
    | none => .ok g

/-- What the playground runs with. -/
structure Settings where
  file : Option String
  analyzer : Option String
  node : String
  debounceMs : Nat
  timeoutMs : Nat
  logFile : Option String
  deriving DecidableEq, Repr

namespace Settings

def defaultNode : String := "node"

def defaultDebounceMs : Nat := 100

def defaultTimeoutMs : Nat := 10000

def ofGiven (g : Given) : Settings where
  file := g.file
  analyzer := g.analyzer
  node := g.node.getD defaultNode
  debounceMs := g.debounceMs.getD defaultDebounceMs
  timeoutMs := g.timeoutMs.getD defaultTimeoutMs
  logFile := g.logFile

/-- The settings that arguments and environment ask for. -/
def read (args : List String) (env : String → Option String) : Except Stop Settings :=
  match readArguments .nothing none args with
  | .error e => .error e
  | .ok g => (environmentSlots.foldlM (readVariable env) g).map ofGiven

end Settings
end LiveTemplate
