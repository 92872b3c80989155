import LiveTemplate.Analysis.Failure
import LiveTemplate.Record.Decode
import LiveTemplate.Text.Utf8

namespace LiveTemplate

inductive Ending where
  | exited (code : Nat)
  /-- Ended by a signal; `dumped` says whether its memory was written to a file. -/
  | killed (signal : Nat) (dumped : Bool := false)
  deriving DecidableEq, Repr

namespace Ending

def success (e : Ending) : Bool := e = exited 0

/-- The names of the signals from 1 on. -/
def signalNames : List String :=
  ["SIGHUP", "SIGINT", "SIGQUIT", "SIGILL", "SIGTRAP", "SIGABRT", "SIGBUS", "SIGFPE", "SIGKILL",
    "SIGUSR1", "SIGSEGV", "SIGUSR2", "SIGPIPE", "SIGALRM", "SIGTERM", "SIGSTKFLT", "SIGCHLD",
    "SIGCONT", "SIGSTOP", "SIGTSTP", "SIGTTIN", "SIGTTOU", "SIGURG", "SIGXCPU", "SIGXFSZ",
    "SIGVTALRM", "SIGPROF", "SIGWINCH", "SIGIO", "SIGPWR", "SIGSYS"]

def text : Ending → String
  | exited code => "exit status: " ++ toString code
  | killed signal dumped =>
    let name := if signal = 0 then none else signalNames[signal - 1]?
    "signal: " ++ toString signal ++ (name.elim "" fun n => " (" ++ n ++ ")") ++
      (if dumped then " (core dumped)" else "")

end Ending

/-- A text of more than `limit` characters is cut to `kept` of them and three dots. -/
def shorten (limit kept : Nat) (s : List Char) : List Char :=
  if s.length ≤ limit then s else s.take kept ++ ['.', '.', '.']

/-- The start of an output that is no record. -/
def preview (stdout : List Char) : List Char := shorten 100 100 stdout

/-- The reason that a record gives, unless it is blank. -/
def reportedError? (stdout : List Char) : Option String :=
  match Record.decode (trimWhite stdout) with
  | .error _ => none
  | .ok p => p.error.filter fun e => !isBlank e

def failureDetail (ending : Ending) (stdout stderr : List Char) : String :=
  let told :=
    match reportedError? stdout with
    | some e => e.toList
    | none =>
      let errors := trimWhite stderr
      if errors.isEmpty then ending.text.toList else errors
  String.ofList (shorten 2000 1997 told)

/-- The outcome of an analyzer that ended and wrote these bytes. -/
def verdict (ending : Ending) (stdout stderr : List UInt8) : Except Failure Payload :=
  let out := decodeUtf8Lossy stdout
  if ending.success then
    let text := trimWhite out
    match Record.decode text with
    | .ok p => .ok p
    | .error f => .error (.malformed (f.message text) (String.ofList (preview out)))
  else .error (.process (failureDetail ending out (decodeUtf8Lossy stderr)))

end LiveTemplate
