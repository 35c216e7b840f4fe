import TemplateScope.Text.Combining
import TemplateScope.Text.Hex
import TemplateScope.Text.Printable

/-!
# Quoted text

Text as it is shown inside messages: in double quotes, and with an escape for every character that
would break the quotes or could not be seen between them.
-/

namespace TemplateScope.Quoted

/-- A single quote needs no escape between double quotes. A combining mark gets one, since it would
melt into the character before it. -/
def escape (c : Char) : List Char :=
  if c = '\x00' then ['\\', '0']
  else if c = '\t' then ['\\', 't']
  else if c = '\r' then ['\\', 'r']
  else if c = '\n' then ['\\', 'n']
  else if c = '"' ∨ c = '\\' then ['\\', c]
  else if Combining.isCombining c || !Printable.isPrintable c then
    '\\' :: 'u' :: '\x7b' :: (Hex.minimal c.toNat ++ ['\x7d'])
  else [c]

def quote (text : String) : String :=
  String.ofList ('"' :: (text.toList.flatMap escape ++ ['"']))

end TemplateScope.Quoted
