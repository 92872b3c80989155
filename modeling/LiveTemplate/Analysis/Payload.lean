import LiveTemplate.Decimal.Binary64
import LiveTemplate.Outputs
import LiveTemplate.Text.Blank

namespace LiveTemplate

/-- What the analyzer says about itself. -/
structure Meta where
  version : String
  durationMs : Binary64
  deriving DecidableEq, Repr

structure Payload where
  parse : String
  lex : String
  ruby : String
  html : String
  linter : String
  version : String
  duration : Binary64
  success : Bool
  error : Option String
  deriving DecidableEq, Repr

/-- A heading, a rule of `width` equals signs, an empty line and the text. -/
def underHeading (heading : String) (width : Nat) (text : String) : String :=
  heading ++ "\n" ++ String.ofList (List.replicate width '=') ++ "\n\n" ++ text

def shapeTree (parse : String) : String :=
  if parse = "" ∨ parse = "Parse failed" then "❌ Parse failed"
  else underHeading "🌳 Parse Result" 15 parse

def shapeTokens (lex : String) : String :=
  if lex = "" ∨ lex = "Lex failed" then "❌ Lex failed"
  else underHeading "📝 Lex Result" 13 lex

def noRubyText : String :=
  "💎 No Ruby Code Found\n=====================\n\nThis ERB template contains no Ruby expressions."

def noHtmlText : String :=
  "🏷️  No HTML Found\n=================\n\nThis ERB template contains no HTML content."

def shapeRuby (ruby : String) : String :=
  if isBlank ruby ∨ ruby = "No Ruby code found" then noRubyText
  else underHeading "💎 Extracted Ruby Code" 22 ruby

def shapeHtml (html : String) : String :=
  if isBlank html ∨ html = "No HTML found" then noHtmlText
  else underHeading "🏷️  Extracted HTML" 18 html

namespace Payload

/-- The record of an analyzer that leaves every field out. -/
def empty : Payload := ⟨"", "", "", "", "", "", .zero, false, none⟩

instance : Inhabited Payload := ⟨empty⟩

/-- Known once the analyzer gives a version. -/
def info? (p : Payload) : Option Meta :=
  if isBlank p.version then none else some ⟨trimmed p.version, p.duration⟩

/-- The texts of the tabs. The linter's text needs no shaping. -/
def outputs (p : Payload) : Outputs where
  linter := p.linter
  parse := shapeTree p.parse
  lex := shapeTokens p.lex
  ruby := shapeRuby p.ruby
  html := shapeHtml p.html

end Payload
end LiveTemplate
