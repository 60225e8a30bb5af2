import ProviderRegistry.Text.Printable

/-!
Texts between double quotes, as inspection output and error messages show them. A character that
is not printable, or that would join the one before it, is written as its code point in
hexadecimal; the quote, the backslash and the common controls have short forms.
-/

namespace ProviderRegistry.Text

def hexDigits (n : Nat) : String :=
  String.ofList (Nat.toDigits 16 n)

def escapeChar (c : Char) : String :=
  if c = '\x00' then "\\0"
  else if c = '\t' then "\\t"
  else if c = '\n' then "\\n"
  else if c = '\r' then "\\r"
  else if c = '"' then "\\\""
  else if c = '\\' then "\\\\"
  else if isPrintable c && !extendsGrapheme c then c.toString
  else "\\u\x7b" ++ hexDigits c.toNat ++ "\x7d"

def quoted (s : String) : String :=
  "\"" ++ String.join (s.toList.map escapeChar) ++ "\""

end ProviderRegistry.Text
