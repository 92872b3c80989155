namespace LiveTemplate

/-- What a failure means to the user. -/
inductive FailureKind where
  | toolUnavailable
  | processFailure
  | malformedOutput
  | ioFailure
  deriving DecidableEq, Repr

def FailureKind.label : FailureKind → String
  | toolUnavailable => "analyzer unavailable"
  | processFailure => "analysis failed"
  | malformedOutput => "malformed output"
  | ioFailure => "io failure"

inductive Failure where
  /-- None of the searched paths is the analyzer's script. -/
  | scriptMissing (searched : List String)
  | interpreterMissing (binary : String)
  /-- The analyzer ended without success. -/
  | process (detail : String)
  | timedOut (nanoseconds : Nat)
  /-- The analyzer's output is no record. -/
  | malformed (reason preview : String)
  | io (text : String)
  deriving DecidableEq, Repr

namespace Failure

def kind : Failure → FailureKind
  | scriptMissing _ => .toolUnavailable
  | interpreterMissing _ => .toolUnavailable
  | process _ => .processFailure
  | timedOut _ => .processFailure
  | malformed _ _ => .malformedOutput
  | io _ => .ioFailure

def milliseconds (nanoseconds : Nat) : String := toString (nanoseconds / 1000000)

/-- One line for the log. -/
def message : Failure → String
  | scriptMissing _ => "herb-analyzer.js not found"
  | interpreterMissing binary => "interpreter `" ++ binary ++ "` not found"
  | process detail => "analysis failed: " ++ detail
  | timedOut t => "analyzer did not finish within " ++ milliseconds t ++ " ms"
  | malformed reason _ => "failed to parse analysis result: " ++ reason
  | io text => "io error: " ++ text

/-- The text shown under every tab. -/
def userMessage : Failure → String
  | scriptMissing _ =>
    "❌ herb-analyzer.js not found\n\n" ++
      "Run herb-live from the directory containing herb-analyzer.js,\n" ++
      "or point --analyzer / HERB_LIVE_ANALYZER at it."
  | interpreterMissing binary =>
    "❌ Node.js interpreter `" ++ binary ++ "` not found\n\n" ++
      "Install Node.js, or point --node / HERB_LIVE_NODE at the interpreter."
  | process detail => "❌ Analysis failed: " ++ detail
  | timedOut t => "❌ Analysis failed: analyzer did not finish within " ++ milliseconds t ++ " ms"
  | malformed reason preview =>
    "❌ Failed to parse analysis result: " ++ reason ++ "\nFirst 100 chars: " ++ preview
  | io text => "❌ Failed to prepare analyzer input: " ++ text

end Failure
end LiveTemplate
