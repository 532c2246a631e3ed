import DataMapper.Toml.Scalar
import DataMapper.Toml.Table

/-! # TOML documents

A document is read line by line: headers, assignments, comments and blank lines.
Arrays may span lines, tables between braces may not.
-/
namespace DataMapper.Toml

def isBareKey (c : Char) : Bool :=
  c.isAlphanum || c == '-' || c == '_'

/-- The number of parts that a key may have, and the depth to which values may nest. -/
def maxDepth : Nat := 79

def keyPart (cs : List Char) : Option (String × List Char) :=
  match cs with
  | '"' :: r => (basicString (r.length + 1) r).map fun (s, r) => (String.ofList s, r)
  | '\'' :: r => (literalString r).map fun (s, r) => (String.ofList s, r)
  | _ =>
    let word := cs.takeWhile isBareKey
    if word.isEmpty then none else some (String.ofList word, cs.dropWhile isBareKey)

/-- At least one part and at most as many as given, with dots between them and blanks around
them. -/
def keyParts : Nat → List Char → Option (List String × List Char)
  | 0, _ => none
  | size + 1, cs => do
    let (part, r) ← keyPart (cs.dropWhile isBlank)
    match r.dropWhile isBlank with
    | '.' :: r =>
      let (parts, r) ← keyParts size r
      return (part :: parts, r)
    | r => return ([part], r)

def key (cs : List Char) : Option (List String × List Char) :=
  keyParts maxDepth cs

def skipComment : List Char → List Char
  | '#' :: r => r.dropWhile isPlain
  | r => r

/-- The characters after the end of a line that holds nothing more than a comment. -/
def lineEnd (cs : List Char) : Option (List Char) :=
  match skipComment (cs.dropWhile isBlank) with
  | [] => some []
  | r => afterNewline? r

def skipSpace : Nat → List Char → List Char
  | 0, cs => cs
  | fuel + 1, cs =>
    let r := skipComment (cs.dropWhile isBlank)
    match afterNewline? r with
    | some r => skipSpace fuel r
    | none => r

def afterSpace (cs : List Char) : List Char :=
  skipSpace (cs.length + 1) cs

mutual

/-- A value with at most `depth` levels of arrays and tables. -/
def value : Nat → (depth : Nat) → List Char → Option (Value × List Char)
  | 0, _, _ => none
  | fuel + 1, depth, cs =>
    match depth, cs with
    | 0, '[' :: _ | 0, '\x7b' :: _ => none
    | depth + 1, '[' :: r =>
      match afterSpace r with
      | ']' :: r => some (.array [], r)
      | r => (arrayItems fuel depth r).map fun (items, r) => (.array items, r)
    | depth + 1, '\x7b' :: r =>
      match r.dropWhile isBlank with
      | '\x7d' :: r => some (.table [], r)
      | r => do
        let (pairs, r) ← inlinePairs fuel depth r
        return (.table (← ofAssignments pairs), r)
    | _, cs => scalar cs

/-- One item or more, up to the closing bracket; a comma may stand before it. -/
def arrayItems : Nat → (depth : Nat) → List Char → Option (List Value × List Char)
  | 0, _, _ => none
  | fuel + 1, depth, cs =>
    match value fuel depth (afterSpace cs) with
    | none => none
    | some (item, r) =>
      match afterSpace r with
      | ']' :: r => some ([item], r)
      | ',' :: r =>
        match afterSpace r with
        | ']' :: r => some ([item], r)
        | r => (arrayItems fuel depth r).map fun (items, r) => (item :: items, r)
      | _ => none

/-- One assignment or more, up to the closing brace. -/
def inlinePairs :
    Nat → (depth : Nat) → List Char → Option ((List (List String × Value)) × List Char)
  | 0, _, _ => none
  | fuel + 1, depth, cs =>
    match key cs with
    | some (path, '=' :: r) =>
      match value fuel depth (r.dropWhile isBlank) with
      | none => none
      | some (v, r) =>
        match r.dropWhile isBlank with
        | '\x7d' :: r => some ([(path, v)], r)
        | ',' :: r => (inlinePairs fuel depth r).map fun (pairs, r) => ((path, v) :: pairs, r)
        | _ => none
    | _ => none

end

/-- A line that is not blank, without its end. -/
def line (cs : List Char) : Option (Line × List Char) :=
  match cs with
  | '[' :: '[' :: r =>
    match key r with
    | some (path, ']' :: ']' :: r) => some (.tableHeader path, r)
    | _ => none
  | '[' :: r =>
    match key r with
    | some (path, ']' :: r) => some (.header path, r)
    | _ => none
  | _ =>
    match key cs with
    | some (path, '=' :: r) =>
      (value (cs.length + 1) maxDepth (r.dropWhile isBlank)).map fun (v, r) => (.assign path v, r)
    | _ => none

def lines : Nat → List Char → Option (List Line)
  | 0, _ => none
  | fuel + 1, cs =>
    match afterSpace cs with
    | [] => some []
    | r => do
      let (l, r) ← line r
      let r ← lineEnd r
      return l :: (← lines fuel r)

/-- The characters without a byte order mark at the start. -/
def skipMark : List Char → List Char
  | '\ufeff' :: r => r
  | r => r

/-- The table of a document; nothing for malformed or contradictory text. -/
def parse (text : String) : Option (List (String × Value)) := do
  let cs := skipMark text.toList
  let root ← (Value.table (← ofLines (← lines (cs.length + 1) cs))).settle
  root.entries?

end DataMapper.Toml
