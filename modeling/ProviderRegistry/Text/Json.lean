import ProviderRegistry.Text.Quoted

/-!
Texts in JSON. Quotes, backslashes and controls are escaped, all else stands as it is.
-/

namespace ProviderRegistry.Text.Json

def fourDigits (n : Nat) : String :=
  String.ofList (List.replicate (4 - (Nat.toDigits 16 n).length) '0') ++ hexDigits n

def escapeChar (c : Char) : String :=
  if c = '"' then "\\\""
  else if c = '\\' then "\\\\"
  else if c = '\x08' then "\\b"
  else if c = '\t' then "\\t"
  else if c = '\n' then "\\n"
  else if c = '\x0c' then "\\f"
  else if c = '\r' then "\\r"
  else if c.toNat < 32 then "\\u" ++ fourDigits c.toNat
  else c.toString

def text (s : String) : String := "\"" ++ String.join (s.toList.map escapeChar) ++ "\""

def optionalText : Option String → String
  | none => "null"
  | some s => text s

/-- The lines of an object with one field a line, given with its values as they are written. -/
def objectLines (fields : List (String × String)) : List String :=
  let rows := fields.map fun f => "  " ++ text f.1 ++ ": " ++ f.2
  "\x7b" :: rows.dropLast.map (· ++ ",") ++ rows.getLast?.toList ++ ["\x7d"]

/-- The lines of an item of a list that more items follow. -/
def continued (item : List String) : List String :=
  item.dropLast ++ (item.getLast?.map (· ++ ",")).toList

def listLines : List (List String) → List String
  | [] => ["[]"]
  | items =>
    let body := items.dropLast.flatMap continued ++ (items.getLast?.getD [])
    "[" :: body.map ("  " ++ ·) ++ ["]"]

end ProviderRegistry.Text.Json
