import ProviderRegistry.Toml.Layout

/-!
Strings and keys. A basic string has escapes and a literal one has none; either may run over
several lines when it stands between three quotes, and may then hold up to two quotes in a row.
The line feed right after three opening quotes is not part of the string, every other end of line
counts as one line feed, and a backslash at the end of a line takes all white space up to the next
character with it.
-/

namespace ProviderRegistry.Toml

def hexValue (c : Char) : Option Nat :=
  if c.isDigit then some (c.toNat - 48)
  else if 'a' ≤ c ∧ c ≤ 'f' then some (c.toNat - 87)
  else if 'A' ≤ c ∧ c ≤ 'F' then some (c.toNat - 55)
  else none

def codePoint (digits : Nat) : Reader Char := fun cs =>
  let ds := cs.take digits
  match ds.mapM hexValue with
  | none => none
  | some vs =>
    let n := vs.foldl (fun a v => 16 * a + v) 0
    if ds.length = digits ∧ n.isValidChar then some (Char.ofNat n, cs.drop digits) else none

def escape : Reader Char
  | 'b' :: r => some ('\x08', r)
  | 't' :: r => some ('\t', r)
  | 'n' :: r => some ('\n', r)
  | 'f' :: r => some ('\x0c', r)
  | 'r' :: r => some ('\r', r)
  | '"' :: r => some ('"', r)
  | '\\' :: r => some ('\\', r)
  | 'u' :: r => codePoint 4 r
  | 'U' :: r => codePoint 8 r
  | _ => none

def prepend (l : List Char) : Option (List Char × List Char) → Option (List Char × List Char) :=
  Option.map fun p => (l ++ p.1, p.2)

def basicRest : Nat → Reader (List Char)
  | 0, _ => none
  | _ + 1, [] => none
  | _ + 1, '"' :: r => some ([], r)
  | n + 1, '\\' :: r =>
    match escape r with
    | some (c, r) => prepend [c] (basicRest n r)
    | none => none
  | n + 1, c :: r => if isPlain c then prepend [c] (basicRest n r) else none

def literalRest : Reader (List Char)
  | [] => none
  | '\'' :: r => some ([], r)
  | c :: r => if isPlain c then prepend [c] (literalRest r) else none

/-- Quotes inside a long string or at its end: the ones it holds, the rest, and whether the
string ends there. -/
def quotes (q : Char) (cs : List Char) : List Char × List Char × Bool :=
  let run := (cs.takeWhile (· == q)).length
  if run < 3 then (List.replicate run q, cs.drop run, false)
  else
    let held := min (run - 3) 2
    (List.replicate held q, cs.drop (held + 3), true)

/-- The rest after a backslash at the end of a line, and the white space it takes. -/
def lineJoin? (cs : List Char) : Option (List Char) :=
  (newline? (skipSpaces cs)).map fun r => skipWhite r.length r
where
  skipWhite : Nat → List Char → List Char
    | 0, cs => cs
    | n + 1, cs =>
      match newline? (skipSpaces cs) with
      | some r => skipWhite n r
      | none => skipSpaces cs

def longBasicRest : Nat → Reader (List Char)
  | 0, _ => none
  | n + 1, cs =>
    match cs with
    | [] => none
    | '"' :: _ =>
      let (held, r, ended) := quotes '"' cs
      if ended then some (held, r) else prepend held (longBasicRest n r)
    | '\\' :: r =>
      match lineJoin? r with
      | some r => longBasicRest n r
      | none =>
        match escape r with
        | some (c, r) => prepend [c] (longBasicRest n r)
        | none => none
    | c :: r =>
      match newline? cs with
      | some r => prepend ['\n'] (longBasicRest n r)
      | none => if isPlain c then prepend [c] (longBasicRest n r) else none

def longLiteralRest : Nat → Reader (List Char)
  | 0, _ => none
  | n + 1, cs =>
    match cs with
    | [] => none
    | '\'' :: _ =>
      let (held, r, ended) := quotes '\'' cs
      if ended then some (held, r) else prepend held (longLiteralRest n r)
    | c :: r =>
      match newline? cs with
      | some r => prepend ['\n'] (longLiteralRest n r)
      | none => if isPlain c then prepend [c] (longLiteralRest n r) else none

def afterOpening (cs : List Char) : List Char := (newline? cs).getD cs

def string : Reader (List Char)
  | '"' :: '"' :: '"' :: r => longBasicRest (r.length + 1) (afterOpening r)
  | '\'' :: '\'' :: '\'' :: r => longLiteralRest (r.length + 1) (afterOpening r)
  | '"' :: r => basicRest (r.length + 1) r
  | '\'' :: r => literalRest r
  | _ => none

def isBareKeyChar (c : Char) : Bool := c.isAlphanum || c == '_' || c == '-'

def keyPart : Reader String := fun cs =>
  match cs with
  | '"' :: r => (basicRest (r.length + 1) r).map fun p => (String.ofList p.1, p.2)
  | '\'' :: r => (literalRest r).map fun p => (String.ofList p.1, p.2)
  | _ =>
    let bare := cs.takeWhile isBareKeyChar
    if bare.isEmpty then none else some (String.ofList bare, cs.drop bare.length)

def keyParts : Nat → Reader (List String)
  | 0, _ => none
  | n + 1, cs =>
    match keyPart (skipSpaces cs) with
    | none => none
    | some (k, r) =>
      match skipSpaces r with
      | '.' :: r => (keyParts n r).map fun p => (k :: p.1, p.2)
      | r => some ([k], r)

/-- How deep tables and lists may be nested, and how many parts a key may have. -/
def nestingLimit : Nat := 80

def key : Reader (List String) := fun cs =>
  match keyParts (cs.length + 1) cs with
  | some (ks, r) => if ks.length < nestingLimit then some (ks, r) else none
  | none => none

end ProviderRegistry.Toml
