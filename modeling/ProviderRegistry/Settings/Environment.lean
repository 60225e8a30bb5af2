import ProviderRegistry.Settings.Value
import ProviderRegistry.Text.Blank
import ProviderRegistry.Text.Lines
import ProviderRegistry.Toml.Number
import ProviderRegistry.Toml.Text

/-!
Settings from environment variables. After the prefix, which is matched without regard to case,
a double underscore separates the parts of a key. The text of a variable is read as a truth
value, a number, a quoted text, a list or a table; a text that is none of these stands for
itself.
-/

namespace ProviderRegistry.Environment

open Toml (Reader)

def isBlankByte (c : Char) : Bool :=
  c == ' ' || c == '\t' || c == '\n' || c == '\r' || c == '\x0c'

def skipBlanks (cs : List Char) : List Char := cs.dropWhile isBlankByte

def isSeparator (c : Char) : Bool :=
  c == ',' || c == '\x7b' || c == '\x7d' || c == '[' || c == ']'

/-- The digits of a plain decimal with a point, with an exponent or without. -/
def realOf? (cs : List Char) : Option Binary64 :=
  let (negative, r) := Toml.sign cs
  let whole := r.takeWhile Char.isDigit
  match r.drop whole.length with
  | '.' :: r =>
    let fraction := r.takeWhile Char.isDigit
    let number (e : Int) : Binary64 :=
      .ofDecimal negative (Toml.valueOf 10 (whole ++ fraction)) (e - fraction.length)
    if whole.isEmpty && fraction.isEmpty then none
    else
      match r.drop fraction.length with
      | [] => some (number 0)
      | c :: r =>
        let (below, ds) := Toml.sign r
        if (c == 'e' || c == 'E') && !ds.isEmpty && ds.all Char.isDigit then
          let n : Int := Toml.valueOf 10 ds
          some (number (if below then -n else n))
        else none
  | _ => none

def naturalOf? (ds : List Char) : Option Nat :=
  if ds.isEmpty || !ds.all Char.isDigit then none else some (Toml.valueOf 10 ds)

/-- A number with no sign or a plus is unsigned, one with a minus is signed; each has 64 bits. -/
def integerOf? (cs : List Char) : Option Scalar :=
  match cs with
  | '-' :: ds =>
    (naturalOf? ds).bind fun n => if n ≤ 9223372036854775808 then some (.signed (-n)) else none
  | _ =>
    let ds := match cs with
      | '+' :: ds => ds
      | ds => ds
    (naturalOf? ds).bind fun n => if n ≤ 18446744073709551615 then some (.unsigned n) else none

/-- What a text without quotes or brackets stands for. -/
def plain (cs : List Char) : Scalar :=
  let t := Text.trim cs
  match (if t.contains '.' then realOf? t else none), integerOf? t with
  | some x, _ => .real x
  | none, some s => s
  | none, none => .text (String.ofList t)

/-- The characters at the front of a text that fit into so many bytes. -/
def fitting : Nat → List Char → List Char
  | _, [] => []
  | n, c :: r => if c.utf8Size ≤ n then c :: fitting (n - c.utf8Size) r else []

/-- A text between double quotes. When it has an escape, what stands before the first one is
kept for as many bytes as it has characters: all of it when it is ASCII, less when it is not. -/
def quotedText : Reader String
  | '"' :: r =>
    let before := r.takeWhile fun c => c != '"' && c != '\\'
    let escaped := (r.drop before.length).head? = some '\\'
    let kept := if escaped then fitting before.length before else before
    (Toml.basicRest (r.length + 1) r).map fun p =>
      (String.ofList (kept ++ p.1.drop before.length), p.2)
  | _ => none

def key : Reader String := fun cs =>
  match cs with
  | '"' :: _ => quotedText cs
  | _ =>
    let name := cs.takeWhile Toml.isBareKeyChar
    if name.isEmpty then none else some (String.ofList name, cs.drop name.length)

/-- Items with commas between them up to the closing bracket; a comma may stand last. -/
def itemsUntil {α : Type} (close : Char) (item : Reader α) : Nat → Reader (List α)
  | 0, _ => none
  | n + 1, cs =>
    if cs.head? = some close then some ([], cs.tail)
    else
      match item cs with
      | none => none
      | some (a, r) =>
        match r with
        | ',' :: r => (itemsUntil close item n r).map fun p => (a :: p.1, p.2)
        | c :: r => if c = close then some ([a], r) else none
        | [] => none

def entry (value : Reader SettingValue) : Reader (String × SettingValue) := fun cs =>
  match key (skipBlanks cs) with
  | none => none
  | some (k, r) =>
    match skipBlanks r with
    | '=' :: r => (value (skipBlanks r)).map fun p => ((k, p.1), skipBlanks p.2)
    | _ => none

def bareValue (o : Origin) (value : Reader SettingValue) : Reader SettingValue := fun cs =>
  match cs with
  | 't' :: 'r' :: 'u' :: 'e' :: r => some (.scalar o (.flag true), r)
  | 'f' :: 'a' :: 'l' :: 's' :: 'e' :: r => some (.scalar o (.flag false), r)
  | '\x7b' :: r =>
    (itemsUntil '\x7d' (entry value) (r.length + 1) r).map fun p =>
      (.table o (p.1.foldl (fun t e => Keyed.put e.1 e.2 t) []), p.2)
  | '[' :: r => (itemsUntil ']' value (r.length + 1) r).map fun p => (.list o p.1, p.2)
  | '"' :: _ => (quotedText cs).map fun p => (.scalar o (.text p.1), p.2)
  | '\'' :: c :: '\'' :: r => some (.scalar o (.text c.toString), r)
  | '\'' :: _ => none
  | _ =>
    let t := cs.takeWhile (!isSeparator ·)
    some (.scalar o (plain t), cs.drop t.length)

/-- A value and the blanks around it, brackets being nested at most so deep. -/
def value (o : Origin) : Nat → Reader SettingValue
  | 0, _ => none
  | n + 1, cs => (bareValue o (value o n) (skipBlanks cs)).map fun p => (p.1, skipBlanks p.2)

/-- What the text of a variable stands for. -/
def valueOf (o : Origin) (text : String) : SettingValue :=
  let cs := text.toList
  match value o (cs.length + 1) cs with
  | some (v, []) => v
  | _ => .scalar o (.text text)

/-- The rest of a name after a prefix, whatever the case of its letters. -/
def afterPrefix : List Char → List Char → Option (List Char)
  | [], name => some name
  | p :: ps, c :: cs => if p.toLower = c.toLower then afterPrefix ps cs else none
  | _ :: _, [] => none

def pointed : List Char → List Char
  | '_' :: '_' :: r => '.' :: pointed r
  | c :: r => c :: pointed r
  | [] => []

/-- The path of the setting that a variable names, if it is one of the prefix. -/
def pathOf? (keyPrefix name : String) : Option (List String) :=
  (afterPrefix keyPrefix.toList (Text.trim name.toList)).bind fun rest =>
    let parts := (Text.segments '.' (Text.trim (pointed rest) ++ ['.'])).map fun s =>
      String.ofList (s.1.map Char.toLower)
    if parts.contains "" then none else some parts

def nested (o : Origin) : List String → SettingValue → SettingValue
  | [], v => v
  | k :: path, v => .table o [(k, nested o path v)]

def settingOf? (keyPrefix : String) (v : String × String) : Option SettingTable :=
  let o := Origin.environment keyPrefix
  match pathOf? keyPrefix v.1 with
  | some (k :: path) => some [(k, nested o path (valueOf o v.2))]
  | _ => none

/-- The settings of all variables with the prefix, in the order of the names. -/
def settings (keyPrefix : String) (environment : List (String × String)) : SettingTable :=
  let sorted := environment.mergeSort fun a b => Text.precedes a.1 b.1
  (sorted.filterMap (settingOf? keyPrefix)).foldl SettingValue.entriesOver []

end ProviderRegistry.Environment
