import ProviderRegistry.Toml.Number
import ProviderRegistry.Toml.Text

/-!
TOML documents. A table is opened once: by its header, by keys with dots, or by being named in
the header of a table inside it, in which case its own header may still follow. A key is given
once, and keys with dots reach only into tables that keys with dots have opened.
-/

namespace ProviderRegistry.Toml

/-- A table under construction: whether no header or key has opened it for itself yet, and
whether keys with dots have. -/
inductive Item
  | value (v : Value)
  | table (implicit dotted : Bool) (entries : List (String × Item))
  | tables (elements : List Item)

namespace Item

def new : Item := table false false []

def find? (k : String) (es : List (String × Item)) : Option Item := es.lookup k

def set (k : String) (v : Item) (es : List (String × Item)) : List (String × Item) :=
  es.filter (fun e => e.1 != k) ++ [(k, v)]

mutual

def toValue : Item → Value
  | value v => v
  | table _ _ es => .table (entriesToValues es)
  | tables l => .list (toValues l)

def entriesToValues : List (String × Item) → List (String × Value)
  | [] => []
  | (k, i) :: r => (k, toValue i) :: entriesToValues r

def toValues : List Item → List Value
  | [] => []
  | i :: r => toValue i :: toValues r

end

/-- Changes the table at the end of a path. Tables missing on the way are made; of a list of
tables the last is meant; `dotted` says that a key with dots names the path. -/
def modifyAt (dotted : Bool) (f : Item → Option Item) : List String → Item → Option Item
  | [], t => f t
  | k :: path, table implicit d es =>
    let into (child : Item) (rebuild : Item → Item) : Option Item :=
      (modifyAt dotted f path child).map fun c => table implicit d (set k (rebuild c) es)
    match find? k es with
    | none => into (table true dotted []) fun c => c
    | some (value _) => none
    | some (table implicit' d' es') =>
      if dotted && !implicit' then none else into (table implicit' d' es') fun c => c
    | some (tables l) =>
      match l.getLast? with
      | none => none
      | some last => into last fun c => tables (l.dropLast ++ [c])
  | _ :: _, _ => none

def assign (path : List String) (k : String) (v : Value) : Item → Option Item :=
  modifyAt true
    (fun
      | table implicit dotted es =>
        if dotted == path.isEmpty then none
        else
          match find? k es with
          | some _ => none
          | none => some (table implicit dotted (es ++ [(k, value v)]))
      | _ => none)
    path

end Item

def splitKey (ks : List String) : List String × String := (ks.dropLast, ks.getLast?.getD "")

def listRest (item : Reader Value) : Nat → Reader (List Value)
  | 0, _ => none
  | n + 1, cs =>
    match skipLayout cs with
    | ']' :: r => some ([], r)
    | cs =>
      match item cs with
      | none => none
      | some (v, r) =>
        match skipLayout r with
        | ',' :: r => (listRest item n r).map fun p => (v :: p.1, p.2)
        | ']' :: r => some ([v], r)
        | _ => none

def assignment (item : Reader Value) : Reader (List String × Value) := fun cs =>
  match key cs with
  | some (ks, '=' :: r) => (item (skipSpaces r)).map fun p => ((ks, p.1), p.2)
  | _ => none

def inlineRest (item : Reader Value) : Nat → Item → Reader Item
  | 0, _, _ => none
  | n + 1, t, cs =>
    match assignment item cs with
    | none => none
    | some ((ks, v), r) =>
      match t.assign (splitKey ks).1 (splitKey ks).2 v, skipSpaces r with
      | some t, '}' :: r => some (t, r)
      | some t, ',' :: r => inlineRest item n t r
      | _, _ => none

def inline (item : Reader Value) : Reader Value := fun cs =>
  match skipSpaces cs with
  | '}' :: r => some (.table [], r)
  | cs => (inlineRest item (cs.length + 1) .new cs).map fun p => (p.1.toValue, p.2)

def number : Reader Value := fun cs =>
  match date cs, real cs, integer cs with
  | some ((), r), _, _ => some (.date, r)
  | none, some (x, r), _ => some (.real x, r)
  | none, none, some (n, r) => some (.integer n, r)
  | none, none, none => none

def scalar : Reader Value := fun cs =>
  match cs with
  | '"' :: _ | '\'' :: _ => (string cs).map fun p => (.text (String.ofList p.1), p.2)
  | 't' :: 'r' :: 'u' :: 'e' :: r => some (.flag true, r)
  | 'f' :: 'a' :: 'l' :: 's' :: 'e' :: r => some (.flag false, r)
  | cs => number cs

/-- A value that is nested at most so deep. -/
def value : Nat → Reader Value
  | 0, cs => scalar cs
  | depth + 1, cs =>
    match cs with
    | '[' :: r =>
      (listRest (value depth) (r.length + 1) r).map fun p => (.list p.1, p.2)
    | '\x7b' :: r => inline (value depth) r
    | cs => scalar cs

inductive Line
  | blank
  | assignment (key : List String) (v : Value)
  | header (key : List String)
  | listHeader (key : List String)

def line (cs : List Char) : Option (Line × List Char) :=
  let closed (l : Line) (r : List Char) := (lineEnd? r).map (l, ·)
  match skipSpaces cs with
  | '[' :: '[' :: r =>
    match key r with
    | some (ks, ']' :: ']' :: r) => closed (.listHeader ks) r
    | _ => none
  | '[' :: r =>
    match key r with
    | some (ks, ']' :: r) => closed (.header ks) r
    | _ => none
  | r =>
    match lineEnd? r with
    | some r => some (.blank, r)
    | none =>
      match assignment (value (nestingLimit - 1)) r with
      | some ((ks, v), r) => closed (.assignment ks v) r
      | none => none

def lines : Nat → List Char → Option (List Line)
  | 0, _ => none
  | _ + 1, [] => some []
  | n + 1, cs =>
    match line cs with
    | none => none
    | some (l, r) => (lines n r).map (l :: ·)

/-- A document under construction: what is finished, and the table whose lines are being read
with the key of its header. -/
structure Draft where
  root : Item
  current : Item
  header : Option (List String × Bool)

namespace Draft

def new : Draft := ⟨.new, .new, none⟩

/-- The document with the table at hand put where its header says. -/
def close (d : Draft) : Option Item :=
  match d.header with
  | none => some d.current
  | some (ks, inList) =>
    let (path, k) := splitKey ks
    d.root.modifyAt false
      (fun
        | .table implicit dotted es =>
          match inList, Item.find? k es with
          | true, none => some (.table implicit dotted (Item.set k (.tables [d.current]) es))
          | true, some (.tables l) =>
            some (.table implicit dotted (Item.set k (.tables (l ++ [d.current])) es))
          | true, some _ => none
          | false, none => some (.table implicit dotted (Item.set k d.current es))
          | false, some _ => none
        | _ => none)
      path

/-- Takes the table that a header opens out of the document, if it is there and may be opened. -/
def takeOut (k : String) : Item → Option (Item × Item)
  | .table implicit dotted es =>
    match Item.find? k es with
    | none => some (.new, .table implicit dotted es)
    | some (.table true false es') =>
      some (.table false false es', .table implicit dotted (es.filter fun e => e.1 != k))
    | some _ => none
  | _ => none

/-- The table that stands at a path, tables missing on the way being empty. -/
def itemAt : List String → Item → Option Item
  | [], t => some t
  | k :: path, .table _ _ es =>
    match Item.find? k es with
    | none => itemAt path (.table true false [])
    | some (.tables l) =>
      match l.getLast? with
      | some last => itemAt path last
      | none => none
    | some (.value _) => none
    | some t => itemAt path t
  | _ :: _, _ => none

def open? (d : Draft) (ks : List String) (inList : Bool) : Option Draft := do
  let root ← d.close
  let (path, k) := splitKey ks
  if inList then
    let parent ← itemAt path root
    match parent with
    | .table _ _ es =>
      match Item.find? k es with
      | none | some (.tables _) => some ⟨root, .new, some (ks, true)⟩
      | some _ => none
    | _ => none
  else
    let parent ← itemAt path root
    let (opened, _) ← takeOut k parent
    let root ← root.modifyAt false (fun t => (takeOut k t).map (·.2)) path
    some ⟨root, opened, some (ks, false)⟩

def add (d : Draft) : Line → Option Draft
  | .blank => some d
  | .assignment ks v =>
    (d.current.assign (splitKey ks).1 (splitKey ks).2 v).map fun t => { d with current := t }
  | .header ks => d.open? ks false
  | .listHeader ks => d.open? ks true

end Draft

/-- The entries of a document, if it is well-formed. -/
def parse (text : String) : Option (List (String × Value)) := do
  let cs := match text.toList with
    | '\ufeff' :: r => r
    | cs => cs
  let ls ← lines (cs.length + 1) cs
  let d ← ls.foldlM Draft.add Draft.new
  match (← d.close).toValue with
  | .table es => some es
  | _ => none

end ProviderRegistry.Toml
