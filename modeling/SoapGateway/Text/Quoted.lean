import SoapGateway.Text.Decimal
import SoapGateway.Text.Printable

/-!
# Quoted text

How a value is shown inside a message: between double quotes, with an escape for the quote, the
backslash and every character that does not print. An apostrophe is shown as it is.
-/
namespace SoapGateway.Text

def quotedChar (c : Char) : List Char :=
  if c = Char.ofNat 0 then ['\\', '0']
  else if c = '\t' then ['\\', 't']
  else if c = '\r' then ['\\', 'r']
  else if c = '\n' then ['\\', 'n']
  else if c = '"' then ['\\', '"']
  else if c = '\\' then ['\\', '\\']
  else if isPrintable c then [c]
  else ['\\', 'u', '{'] ++ hexDigits c.toNat ++ ['}']

def quoted (s : String) : String :=
  String.ofList ('"' :: s.toList.flatMap quotedChar ++ ['"'])

end SoapGateway.Text
