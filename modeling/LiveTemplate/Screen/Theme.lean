import LiveTemplate.Analysis.Result
import LiveTemplate.Screen.Cell

namespace LiveTemplate.Theme

def header : Style := .boldInk (.rgb 142 192 124)

def help : Style := .ink (.rgb 146 131 116)

def editorBorder (focused : Bool) : Style :=
  if focused then .boldInk (.rgb 131 165 152) else .ink (.rgb 69 133 136)

def outputBorder (focused : Bool) : Style :=
  if focused then .boldInk (.rgb 211 134 155) else .ink (.rgb 177 98 134)

def tab : Style := ⟨some (.rgb 235 219 178), some (.rgb 60 56 54), false⟩

def activeTab (focused : Bool) : Style :=
  .boldOn (.rgb 251 241 199) (if focused then .rgb 177 98 134 else .rgb 69 133 136)

def placeholder : Style := .ink .darkGray

/-- The colour of the status in the title of the output pane. -/
def status (status : Option Status) (pending : Bool) : Colour :=
  if pending then .rgb 250 189 47
  else
    match status with
    | some .ready => .rgb 184 187 38
    | some (.failed .toolUnavailable) => .rgb 254 128 25
    | some (.failed _) => .rgb 214 93 14
    | some .empty | none => .rgb 146 131 116

end LiveTemplate.Theme
