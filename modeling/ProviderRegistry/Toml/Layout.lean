import ProviderRegistry.Toml.Value

/-!
What stands between the values of a TOML document: blanks, comments and ends of lines. A comment
holds no control character but the tab, and a carriage return stands only before a line feed.
-/

namespace ProviderRegistry.Toml

def isSpace (c : Char) : Bool := c == ' ' || c == '\t'

/-- The characters that stand for themselves anywhere: the tab and all that are not controls. -/
def isPlain (c : Char) : Bool := c == '\t' || (0x20 ≤ c.toNat && c.toNat ≠ 0x7f)

def skipSpaces (cs : List Char) : List Char := cs.dropWhile isSpace

def newline? : List Char → Option (List Char)
  | '\n' :: r => some r
  | '\r' :: '\n' :: r => some r
  | _ => none

def skipComment : List Char → List Char
  | '#' :: r => r.dropWhile isPlain
  | cs => cs

def lineEnd? (cs : List Char) : Option (List Char) :=
  match skipComment (skipSpaces cs) with
  | [] => some []
  | r => newline? r

def skipLines : Nat → List Char → List Char
  | 0, cs => cs
  | n + 1, cs =>
    match newline? (skipComment (skipSpaces cs)) with
    | some r => skipLines n r
    | none => skipSpaces cs

/-- The rest after all layout; the text's own length bounds the number of lines. -/
def skipLayout (cs : List Char) : List Char := skipLines cs.length cs

end ProviderRegistry.Toml
