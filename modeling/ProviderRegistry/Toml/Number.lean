import ProviderRegistry.Toml.Layout

/-!
Numbers, dates and times. Underscores stand between digits only. A decimal has no leading zero;
hexadecimal, octal and binary numbers have no sign; every integer has 64 bits with its sign. A
fraction or an exponent makes a number real, and one that is too large above is refused. A date
has to be one of the calendar.
-/

namespace ProviderRegistry.Toml

/-- Digits with single underscores between them; the rest starts with neither. -/
def digitRun (isDigit : Char → Bool) : List Char → List Char × List Char
  | [] => ([], [])
  | c :: r =>
    if isDigit c then
      let (ds, r) := digitRun isDigit r
      (c :: ds, r)
    else if c == '_' && (r.head?.map isDigit).getD false then digitRun isDigit r
    else ([], c :: r)

def digits? (isDigit : Char → Bool) : Reader (List Char) := fun cs =>
  if (cs.head?.map isDigit).getD false then some (digitRun isDigit cs) else none

def digitValue (c : Char) : Nat :=
  if c.isDigit then c.toNat - 48 else if c.isUpper then c.toNat - 55 else c.toNat - 87

def valueOf (base : Nat) (ds : List Char) : Nat :=
  ds.foldl (fun n c => base * n + digitValue c) 0

def sign : List Char → Bool × List Char
  | '-' :: r => (true, r)
  | '+' :: r => (false, r)
  | cs => (false, cs)

/-- The digits of a decimal: a zero alone, or a run that does not start with one. -/
def decimalDigits : Reader (List Char)
  | '0' :: r => some (['0'], r)
  | cs => digits? Char.isDigit cs

/-- One past the largest integer; the least is its negative. -/
def integerBound : Int := 9223372036854775808

def inRange (n : Int) : Option Int :=
  if -integerBound ≤ n ∧ n < integerBound then some n else none

def based (base : Nat) (isDigit : Char → Bool) : Reader Int := fun cs =>
  match digits? isDigit cs with
  | none => none
  | some (ds, r) => (inRange (valueOf base ds)).map (·, r)

def isHexDigit (c : Char) : Bool :=
  c.isDigit || ('a' ≤ c && c ≤ 'f') || ('A' ≤ c && c ≤ 'F')

def isOctalDigit (c : Char) : Bool := '0' ≤ c && c ≤ '7'

def isBinaryDigit (c : Char) : Bool := c == '0' || c == '1'

def integer : Reader Int
  | '0' :: 'x' :: r => based 16 isHexDigit r
  | '0' :: 'o' :: r => based 8 isOctalDigit r
  | '0' :: 'b' :: r => based 2 isBinaryDigit r
  | cs =>
    let (negative, r) := sign cs
    match decimalDigits r with
    | none => none
    | some (ds, r) =>
      let n : Int := valueOf 10 ds
      (inRange (if negative then -n else n)).map (·, r)

def exponent? : List Char → Option (Int × List Char)
  | c :: r =>
    if c == 'e' || c == 'E' then
      let (negative, r) := sign r
      (digits? Char.isDigit r).map fun p =>
        let n : Int := valueOf 10 p.1
        (if negative then -n else n, p.2)
    else none
  | [] => none

def decimalReal : Reader Binary64 := fun cs =>
  let (negative, r) := sign cs
  match decimalDigits r with
  | none => none
  | some (whole, r) =>
    let number (fraction : List Char) (e : Int) : Binary64 :=
      .ofDecimal negative (valueOf 10 (whole ++ fraction)) (e - fraction.length)
    match r with
    | '.' :: r =>
      match digits? Char.isDigit r with
      | none => none
      | some (fraction, r) =>
        match exponent? r with
        | some (e, r) => some (number fraction e, r)
        | none => some (number fraction 0, r)
    | r => (exponent? r).map fun p => (number [] p.1, p.2)

def real : Reader Binary64 := fun cs =>
  let (negative, r) := sign cs
  match r with
  | 'i' :: 'n' :: 'f' :: r => some (.infinite negative, r)
  | 'n' :: 'a' :: 'n' :: r => some (.nan, r)
  | _ =>
    match decimalReal cs with
    | some (.infinite false, _) => none
    | x => x

def fixedDigits (n : Nat) : Reader Nat := fun cs =>
  let ds := cs.take n
  if ds.length = n ∧ ds.all Char.isDigit then some (valueOf 10 ds, cs.drop n) else none

def twoDigits (low high : Nat) : Reader Unit := fun cs =>
  match fixedDigits 2 cs with
  | some (n, r) => if low ≤ n ∧ n ≤ high then some ((), r) else none
  | none => none

def expect (c : Char) : List Char → Option (List Char)
  | d :: r => if c = d then some r else none
  | [] => none

def isLeapYear (y : Nat) : Bool := y % 4 == 0 && (y % 100 != 0 || y % 400 == 0)

def daysIn (year month : Nat) : Nat :=
  if month = 2 then (if isLeapYear year then 29 else 28)
  else if month = 4 ∨ month = 6 ∨ month = 9 ∨ month = 11 then 30
  else 31

def day? (cs : List Char) : Option (List Char) := do
  let (year, r) ← fixedDigits 4 cs
  let r ← expect '-' r
  let (month, r) ← fixedDigits 2 r
  let r ← expect '-' r
  let (day, r) ← fixedDigits 2 r
  if 1 ≤ month ∧ month ≤ 12 ∧ 1 ≤ day ∧ day ≤ daysIn year month then some r else none

def time? (cs : List Char) : Option (List Char) := do
  let ((), r) ← twoDigits 0 23 cs
  let r ← expect ':' r
  let ((), r) ← twoDigits 0 59 r
  let r ← expect ':' r
  let ((), r) ← twoDigits 0 60 r
  match r with
  | '.' :: f =>
    if (f.head?.map Char.isDigit).getD false then some (f.dropWhile Char.isDigit) else none
  | r => some r

def skipOffset (cs : List Char) : List Char :=
  match cs with
  | 'Z' :: r | 'z' :: r => r
  | '+' :: r | '-' :: r =>
    let offset? : Option (List Char) := do
      let ((), r) ← twoDigits 0 23 r
      let r ← expect ':' r
      let ((), r) ← twoDigits 0 59 r
      some r
    offset?.getD cs
  | _ => cs

/-- A date, a time, or both with a `T` or a space between them and an offset behind. -/
def date : Reader Unit := fun cs =>
  match day? cs with
  | none => (time? cs).map ((), ·)
  | some r =>
    let timed? : Option (List Char) :=
      match r with
      | 'T' :: t | 't' :: t | ' ' :: t => (time? t).map skipOffset
      | _ => none
    some ((), timed?.getD r)

end ProviderRegistry.Toml
