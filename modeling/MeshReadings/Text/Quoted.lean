import MeshReadings.Text.Hidden
import MeshReadings.Text.Digits

/-!
Text in quotes for messages: quotes, backslashes and the common control characters have
short escapes, hidden characters are named by code point, and everything else stands for
itself.
-/

namespace MeshReadings
namespace Text

def escape (c : Char) : List Char :=
  if c = '"' then ['\\', '"']
  else if c = '\\' then ['\\', '\\']
  else if c = '\t' then ['\\', 't']
  else if c = '\r' then ['\\', 'r']
  else if c = '\n' then ['\\', 'n']
  else if c = '\x00' then ['\\', '0']
  else if isHidden c then ['\\', 'u', '\x7b'] ++ hexShort c.toNat ++ ['\x7d']
  else [c]

def quoted (s : String) : String :=
  String.ofList ('"' :: s.toList.flatMap escape ++ ['"'])

end Text
end MeshReadings
