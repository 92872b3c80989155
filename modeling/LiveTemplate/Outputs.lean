import LiveTemplate.Tab

namespace LiveTemplate

structure Outputs where
  linter : String
  parse : String
  lex : String
  ruby : String
  html : String
  deriving DecidableEq, Repr, Inhabited

namespace Outputs

def uniform (text : String) : Outputs := ⟨text, text, text, text, text⟩

def empty : Outputs := uniform ""

def placeholders : Outputs :=
  ⟨Tab.linter.placeholder, Tab.parse.placeholder, Tab.lex.placeholder, Tab.ruby.placeholder,
    Tab.html.placeholder⟩

def get (o : Outputs) : Tab → String
  | .linter => o.linter
  | .parse => o.parse
  | .lex => o.lex
  | .ruby => o.ruby
  | .html => o.html

def set (o : Outputs) (tab : Tab) (text : String) : Outputs :=
  match tab with
  | .linter => { o with linter := text }
  | .parse => { o with parse := text }
  | .lex => { o with lex := text }
  | .ruby => { o with ruby := text }
  | .html => { o with html := text }

@[simp]
theorem get_set (o : Outputs) (t u : Tab) (text : String) :
    (o.set t text).get u = if u = t then text else o.get u := by
  cases t <;> cases u <;> rfl

@[simp]
theorem get_uniform (text : String) (t : Tab) : (uniform text).get t = text := by
  cases t <;> rfl

@[simp]
theorem get_placeholders (t : Tab) : placeholders.get t = t.placeholder := by
  cases t <;> rfl

theorem ext_get {o p : Outputs} (h : ∀ t, o.get t = p.get t) : o = p := by
  cases o
  cases p
  simpa [get] using And.intro (h .linter)
    (And.intro (h .parse) (And.intro (h .lex) (And.intro (h .ruby) (h .html))))

end Outputs
end LiveTemplate
