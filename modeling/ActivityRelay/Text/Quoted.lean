import ActivityRelay.Text.Unprintable
import ActivityRelay.Text.GraphemeExtend
import ActivityRelay.Text.Hex

/-! Text in double quotes for messages: what does not print as itself is escaped. -/
namespace ActivityRelay.Text

/-- A character as it stands between the quotes. -/
def quotedChar (c : Char) : List Char :=
  if c = '\x00' then ['\\', '0']
  else if c = '\t' then ['\\', 't']
  else if c = '\r' then ['\\', 'r']
  else if c = '\n' then ['\\', 'n']
  else if c = '"' then ['\\', '"']
  else if c = '\\' then ['\\', '\\']
  else if 0x20 ≤ c.toNat && c.toNat < 0x7F then [c]
  else if graphemeExtend.contains c || unprintable.contains c then
    ['\\', 'u', '\x7b'] ++ hexNumeral c.toNat ++ ['\x7d']
  else [c]

def quoted (s : String) : String :=
  String.ofList (['"'] ++ s.toList.flatMap quotedChar ++ ['"'])

end ActivityRelay.Text
