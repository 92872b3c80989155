import LiveTemplate.Files.Tree
import LiveTemplate.Text.Utf8

namespace LiveTemplate

/-- Opened when no template is given. -/
def sampleTemplate : String :=
"<div class=\"container\">
  <h1>Hello, <%= @name %>!</h1>
  <% if @items.any? %>
    <ul>
      <% @items.each do |item| %>
        <li><%= item %></li>
      <% end %>
    </ul>
  <% else %>
    <p>No items found.</p>
  <% end %>
</div>"

/-- Why a template could not be read or a log file not be opened. -/
inductive LoadFault where
  | template (path : String) (cause : PathFault)
  | templateEncoding (path : String)
  | inputEncoding (cause : Utf8Fault)
  | logFile (path : String) (cause : PathFault)
  deriving DecidableEq, Repr

def LoadFault.message : LoadFault → String
  | template path cause => "read template " ++ path ++ ": " ++ cause.message
  | templateEncoding path => "read template " ++ path ++ ": stream did not contain valid UTF-8"
  | inputEncoding cause => "read template from stdin: " ++ cause.message
  | logFile path cause => "open log file " ++ path ++ ": " ++ cause.message

def templateText (path : String) (content : Except PathFault (List UInt8)) :
    Except LoadFault String :=
  match content with
  | .error f => .error (.template path f)
  | .ok bytes =>
    match decodeUtf8 bytes with
    | .ok s => .ok (String.ofList s)
    | .error _ => .error (.templateEncoding path)

def inputText (bytes : List UInt8) : Except LoadFault String :=
  match decodeUtf8 bytes with
  | .ok s => .ok (String.ofList s)
  | .error f => .error (.inputEncoding f)

/-- The template to start with: the named file, the standard input for a dash, or the sample. -/
def loadTemplate (t : FileTree) (input : List UInt8) : Option String → Except LoadFault String
  | none => .ok sampleTemplate
  | some path => if Path.isStandardInput path then inputText input else templateText path (t.read path)

/-- Opens the log file, if one is wanted, and says whether it is there. -/
def openLog (t : FileTree) : Option String → Except LoadFault Bool
  | none => .ok false
  | some path =>
    match t.openAppend path with
    | .error f => .error (.logFile path f)
    | .ok t => .ok (t.isFile path)

end LiveTemplate
