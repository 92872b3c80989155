namespace LiveTemplate

/-- The keys of a terminal that are told apart; the lock keys, print screen, pause, menu, the media
keys and the modifiers by themselves are among the `other` ones. -/
inductive KeyCode where
  | char (c : Char)
  | enter
  | backspace
  | delete
  | left
  | right
  | up
  | down
  | home
  | lineEnd
  | pageUp
  | pageDown
  | tab
  | backTab
  | escape
  | insert
  | null
  | function (number : Nat)
  | other
  deriving DecidableEq, Repr

structure Modifiers where
  control : Bool
  alt : Bool
  shift : Bool
  super : Bool
  hyper : Bool
  metaKey : Bool
  deriving DecidableEq, Repr

def Modifiers.none : Modifiers := ⟨false, false, false, false, false, false⟩

inductive KeyMotion where
  | press
  | held
  | release
  deriving DecidableEq, Repr

structure Key where
  code : KeyCode
  modifiers : Modifiers
  motion : KeyMotion
  deriving DecidableEq, Repr

def Key.typed (c : Char) : Key := ⟨.char c, .none, .press⟩

inductive Input where
  | key (k : Key)
  | paste (text : String)
  | resize (width height : Nat)
  | other
  deriving DecidableEq, Repr

end LiveTemplate
