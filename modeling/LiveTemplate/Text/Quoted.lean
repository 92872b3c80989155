import LiveTemplate.Text.ClusterTables
import LiveTemplate.Text.PrintableTable

namespace LiveTemplate

/-- Whether a character continues the one before it, so that it has no shape of its own. Skin tones
do have one. -/
def isMark (c : Char) : Bool :=
  extendRanges.contains c && !(0x1f3fb ≤ c.toNat && c.toNat ≤ 0x1f3ff)

/-- Whether a character is shown as itself inside quotes. -/
def isPrintable (c : Char) : Bool :=
  if c.toNat < 0x7f then 0x20 ≤ c.toNat else !isMark c && !unprintableRanges.contains c

def quotedChar (c : Char) : List Char :=
  if c = '\x00' then ['\\', '0']
  else if c = '\t' then ['\\', 't']
  else if c = '\n' then ['\\', 'n']
  else if c = '\r' then ['\\', 'r']
  else if c = '"' then ['\\', '"']
  else if c = '\\' then ['\\', '\\']
  else if isPrintable c then [c]
  else ['\\', 'u', '{'] ++ Nat.toDigits 16 c.toNat ++ ['}']

def quoted (s : List Char) : List Char := '"' :: s.flatMap quotedChar ++ ['"']

end LiveTemplate
