import ProviderRegistry.Toml.Layout
import ProviderRegistry.Text.Quoted

/-!
How texts are written in a document. Of the kinds of strings the first that shows the text
without an escape is taken: basic, literal, long basic, long literal. If there is none, the text
is a basic string with escapes, a long one when it has more than one line. A tab in a basic
string is written with its escape, and no more than two quotes in a row stand in a long one.
-/

namespace ProviderRegistry.Toml

def needsEscape (c : Char) : Bool := !isPlain c && c != '\n'

def longestRun (q : Char) (cs : List Char) : Nat :=
  let step (p : Nat × Nat) (c : Char) : Nat × Nat :=
    if c = q then (p.1 + 1, max p.2 (p.1 + 1)) else (0, p.2)
  (cs.foldl step (0, 0)).2

def unicodeEscape (c : Char) : List Char :=
  let ds := (Nat.toDigits 16 c.toNat).map Char.toUpper
  '\\' :: 'u' :: (List.replicate (4 - ds.length) '0' ++ ds)

def escapedChar (c : Char) : List Char :=
  if c = '\x08' then ['\\', 'b']
  else if c = '\t' then ['\\', 't']
  else if c = '\n' then ['\\', 'n']
  else if c = '\x0c' then ['\\', 'f']
  else if c = '\r' then ['\\', 'r']
  else if c = '"' then ['\\', '"']
  else if c = '\\' then ['\\', '\\']
  else if isPlain c then [c]
  else unicodeEscape c

def escapedLine (cs : List Char) : List Char := cs.flatMap escapedChar

/-- The inside of a long basic string, `run` quotes standing right before it. -/
def escapedLines (run : Nat) : List Char → List Char
  | [] => []
  | c :: r =>
    if c = '"' then
      if run < 2 then '"' :: escapedLines (run + 1) r else '\\' :: '"' :: escapedLines 0 r
    else if c = '\n' then '\n' :: escapedLines 0 r
    else escapedChar c ++ escapedLines 0 r

inductive Style
  | basic
  | literal
  | longBasic
  | longLiteral
  deriving DecidableEq, Repr

def styleOf (cs : List Char) : Style :=
  let escapes := cs.any needsEscape
  let backslash := cs.contains '\\'
  let lines := cs.contains '\n'
  if !escapes && !backslash && !cs.contains '"' && !lines then .basic
  else if !escapes && !cs.contains '\'' && !lines then .literal
  else if !escapes && !backslash && longestRun '"' cs ≤ 2 then .longBasic
  else if !escapes && longestRun '\'' cs ≤ 2 then .longLiteral
  else if lines then .longBasic
  else .basic

def writtenChars (cs : List Char) : List Char :=
  let lead := if cs.contains '\n' then ['\n'] else []
  match styleOf cs with
  | .basic => '"' :: (escapedLine cs ++ ['"'])
  | .literal => '\'' :: (cs ++ ['\''])
  | .longBasic => ['"', '"', '"'] ++ lead ++ escapedLines 0 cs ++ ['"', '"', '"']
  | .longLiteral => ['\'', '\'', '\''] ++ lead ++ cs ++ ['\'', '\'', '\'']

def written (s : String) : String := String.ofList (writtenChars s.toList)

def writtenFlag (b : Bool) : String := if b then "true" else "false"

/-- A list of texts: one alone on the line of its key, more on lines of their own. -/
def writtenList : List String → String
  | [] => "[]"
  | [s] => "[" ++ written s ++ "]"
  | l => "[\n" ++ String.join (l.map fun s => "    " ++ written s ++ ",\n") ++ "]"

end ProviderRegistry.Toml
