namespace LiveTemplate

inductive Tab where
  | linter
  | parse
  | lex
  | ruby
  | html
  deriving DecidableEq, Repr, Inhabited

namespace Tab

def all : List Tab := [linter, parse, lex, ruby, html]

def index : Tab → Nat
  | linter => 0
  | parse => 1
  | lex => 2
  | ruby => 3
  | html => 4

def ofIndex? (i : Nat) : Option Tab := all[i]?

/-- The digits `1` to `5` name the tabs from left to right. -/
def ofDigit? (c : Char) : Option Tab :=
  if '1' ≤ c ∧ c ≤ '9' then ofIndex? (c.toNat - '1'.toNat) else none

/-- The tab to the right; the last one stays. -/
def next : Tab → Tab
  | linter => parse
  | parse => lex
  | lex => ruby
  | ruby => html
  | html => html

/-- The tab to the left; the first one stays. -/
def previous : Tab → Tab
  | linter => linter
  | parse => linter
  | lex => parse
  | ruby => lex
  | html => ruby

def title : Tab → String
  | linter => "Linter"
  | parse => "Parse"
  | lex => "Lex"
  | ruby => "Ruby"
  | html => "HTML"

def icon : Tab → String
  | linter => "🔍"
  | parse => "🌳"
  | lex => "📝"
  | ruby => "💎"
  | html => "🏷️"

/-- The name of the analyzer's field that a tab shows. -/
def key : Tab → String
  | linter => "linter"
  | parse => "parse"
  | lex => "lex"
  | ruby => "ruby"
  | html => "html"

/-- What a tab shows while the template is blank. -/
def placeholder : Tab → String
  | linter => "Enter ERB code to see linter results..."
  | parse => "Enter ERB code to see parse result..."
  | lex => "Enter ERB code to see lex result..."
  | ruby => "Enter ERB code to see extracted Ruby..."
  | html => "Enter ERB code to see extracted HTML..."

end Tab
end LiveTemplate
