import ActivityRelay.Text.Hex

/-! Strings as they are written in JSON. -/
namespace ActivityRelay.Json
open Text

/-- A character as it is written: controls and the two marks are escaped, all else stands. -/
def escape (c : Char) : List Char :=
  if c = '"' then ['\\', '"']
  else if c = '\\' then ['\\', '\\']
  else if c.toNat = 0x08 then ['\\', 'b']
  else if c.toNat = 0x0C then ['\\', 'f']
  else if c.toNat = 0x0A then ['\\', 'n']
  else if c.toNat = 0x0D then ['\\', 'r']
  else if c.toNat = 0x09 then ['\\', 't']
  else if c.toNat < 0x20 then ['\\', 'u'] ++ hexFixed 4 c.toNat
  else [c]

def quote (cs : List Char) : List Char := ['"'] ++ cs.flatMap escape ++ ['"']

end ActivityRelay.Json
