import DataMapper.Narrow
import DataMapper.Text.Hex
import DataMapper.Toml.Value

/-! # TOML scalars

Strings, numbers and booleans. Each function reads from the front of the
characters and gives the value with the characters after it.
-/
namespace DataMapper.Toml

/-- Tabs and everything that is neither a control nor a line end. -/
def isPlain (c : Char) : Bool :=
  c == '\t' || (0x20 ≤ c.toNat && c.toNat != 0x7F)

def isBlank (c : Char) : Bool :=
  c == ' ' || c == '\t'

def afterNewline? : List Char → Option (List Char)
  | '\n' :: r => some r
  | '\r' :: '\n' :: r => some r
  | _ => none

/-! ## Strings -/

/-- A character written by `n` hexadecimal digits. -/
def codePoint (n : Nat) (cs : List Char) : Option (Char × List Char) := do
  let ds := cs.take n
  if ds.length < n then none
  let code ← Text.hexNat? ds
  if code.isValidChar then some (Char.ofNat code, cs.drop n) else none

/-- An escape after its backslash. -/
def escape : List Char → Option (Char × List Char)
  | 'b' :: r => some ('\x08', r)
  | 't' :: r => some ('\t', r)
  | 'n' :: r => some ('\n', r)
  | 'f' :: r => some ('\x0c', r)
  | 'r' :: r => some ('\r', r)
  | '"' :: r => some ('"', r)
  | '\\' :: r => some ('\\', r)
  | 'u' :: r => codePoint 4 r
  | 'U' :: r => codePoint 8 r
  | _ => none

def prepend (c : Char) : Option (List Char × List Char) → Option (List Char × List Char) :=
  Option.map fun (s, r) => (c :: s, r)

/-- The rest of a string between double quotes. -/
def basicString : Nat → List Char → Option (List Char × List Char)
  | 0, _ => none
  | _, [] => none
  | fuel + 1, c :: r =>
    if c = '"' then some ([], r)
    else if c = '\\' then do
      let (e, r) ← escape r
      prepend e (basicString fuel r)
    else if isPlain c then prepend c (basicString fuel r)
    else none

/-- The rest of a string between single quotes, which has no escapes. -/
def literalString : List Char → Option (List Char × List Char)
  | [] => none
  | c :: r =>
    if c = '\'' then some ([], r)
    else if isPlain c then prepend c (literalString r)
    else none

def skipLines : List Char → List Char
  | '\n' :: r => skipLines r
  | '\r' :: '\n' :: r => skipLines r
  | c :: r => if isBlank c then skipLines r else c :: r
  | [] => []

/-- A backslash at the end of a line takes in all blanks and line ends that follow it. -/
def afterLineBreak? (cs : List Char) : Option (List Char) :=
  (afterNewline? (cs.dropWhile isBlank)).map skipLines

/-- The end of a string of several lines: three quotes, with up to two more before them that
belong to the string. -/
def closing? (quote : Char) (cs : List Char) : Option (List Char × List Char) :=
  let run := (cs.takeWhile (· == quote)).length
  if run < 3 then none
  else
    let size := min run 5
    some (List.replicate (size - 3) quote, cs.drop size)

def multiBasic : Nat → List Char → Option (List Char × List Char)
  | 0, _ => none
  | fuel + 1, cs =>
    match closing? '"' cs with
    | some found => some found
    | none =>
      match afterNewline? cs with
      | some r => prepend '\n' (multiBasic fuel r)
      | none =>
        match cs with
        | [] => none
        | '\\' :: r =>
          match afterLineBreak? r with
          | some r => multiBasic fuel r
          | none => do
            let (e, r) ← escape r
            prepend e (multiBasic fuel r)
        | c :: r => if isPlain c then prepend c (multiBasic fuel r) else none

def multiLiteral : Nat → List Char → Option (List Char × List Char)
  | 0, _ => none
  | fuel + 1, cs =>
    match closing? '\'' cs with
    | some found => some found
    | none =>
      match afterNewline? cs with
      | some r => prepend '\n' (multiLiteral fuel r)
      | none =>
        match cs with
        | [] => none
        | c :: r => if isPlain c then prepend c (multiLiteral fuel r) else none

/-- A line end right after the opening quotes does not count. -/
def skipFirstNewline (cs : List Char) : List Char :=
  (afterNewline? cs).getD cs

def string (cs : List Char) : Option (String × List Char) :=
  let found := match cs with
    | '"' :: '"' :: '"' :: r => multiBasic (r.length + 1) (skipFirstNewline r)
    | '"' :: r => basicString (r.length + 1) r
    | '\'' :: '\'' :: '\'' :: r => multiLiteral (r.length + 1) (skipFirstNewline r)
    | '\'' :: r => literalString r
    | _ => none
  found.map fun (s, r) => (String.ofList s, r)

/-! ## Numbers -/

/-- Digits with single underscores between them, given without the underscores. -/
def digitRun (isDigit : Char → Bool) : List Char → Option (List Char × List Char)
  | [] => none
  | c :: r =>
    if isDigit c then
      match r with
      | '_' :: s => prepend c (digitRun isDigit s)
      | d :: s => if isDigit d then prepend c (digitRun isDigit (d :: s)) else some ([c], d :: s)
      | [] => some ([c], [])
    else none

def sign : List Char → List Char × List Char
  | '+' :: r => (['+'], r)
  | '-' :: r => (['-'], r)
  | r => ([], r)

/-- Digits of a decimal integer; a leading zero stands alone. -/
def wholeDigits : List Char → Option (List Char × List Char)
  | '0' :: r => some (['0'], r)
  | r => digitRun Char.isDigit r

/-- The signed whole part of a number. -/
def signedWhole (cs : List Char) : Option (List Char × List Char) := do
  let (s, r) := sign cs
  let (ds, r) ← wholeDigits r
  return (s ++ ds, r)

def fraction? : List Char → Option (List Char × List Char)
  | '.' :: r => (digitRun Char.isDigit r).map fun (ds, r) => ('.' :: ds, r)
  | _ => none

def exponent? : List Char → Option (List Char × List Char)
  | e :: r =>
    if e = 'e' ∨ e = 'E' then do
      let (s, r) := sign r
      let (ds, r) ← digitRun Char.isDigit r
      return ('e' :: s ++ ds, r)
    else none
  | [] => none

def special (cs : List Char) : Option (List Char × List Char) :=
  let (s, r) := sign cs
  match r with
  | 'i' :: 'n' :: 'f' :: r => some (s ++ ['i', 'n', 'f'], r)
  | 'n' :: 'a' :: 'n' :: r => some (s ++ ['n', 'a', 'n'], r)
  | _ => none

/-- A number with a fraction or an exponent. One too large for its format is refused. -/
def decimalFloat (cs : List Char) : Option (Value × List Char) := do
  let (whole, r) ← signedWhole cs
  let (rest, r) ← match fraction? r with
    | some (f, r) =>
      match exponent? r with
      | some (e, r) => some (f ++ e, r)
      | none => some (f, r)
    | none => exponent? r
  let x ← Binary64.read (whole ++ rest)
  if x = .infinite false then none else some (.float x, r)

def specialFloat (cs : List Char) : Option (Value × List Char) := do
  let (word, r) ← special cs
  return (.float (← Binary64.read word), r)

def ofDigits (base : Nat) (cs : List Char) : Option Nat :=
  cs.foldlM (fun n c => (Text.hexDigit? c).map (n * base + ·)) 0

def inRange (n : Int) : Option Value :=
  (Narrow.int64? n).map fun _ => .int n

def prefixedInteger (base : Nat) (isDigit : Char → Bool) (cs : List Char) : Option (Value × List Char) := do
  let (ds, r) ← digitRun isDigit cs
  let n ← ofDigits base ds
  return (← inRange n, r)

def integer : List Char → Option (Value × List Char)
  | '0' :: 'x' :: r => prefixedInteger 16 (fun c => (Text.hexDigit? c).isSome) r
  | '0' :: 'o' :: r => prefixedInteger 8 (fun c => '0' ≤ c && c ≤ '7') r
  | '0' :: 'b' :: r => prefixedInteger 2 (fun c => c == '0' || c == '1') r
  | cs => do
    let (ds, r) ← signedWhole cs
    return (← inRange (← Decimal.readInt ds), r)

def datetimeValue (cs : List Char) : Option (Value × List Char) :=
  (datetime cs).map fun (canonical, r) => (.datetime (String.ofList canonical), r)

/-- Any scalar. Dates are tried before floats, and floats before integers. -/
def scalar (cs : List Char) : Option (Value × List Char) :=
  match cs with
  | '"' :: _ | '\'' :: _ => (string cs).map fun (s, r) => (.text s, r)
  | 't' :: 'r' :: 'u' :: 'e' :: r => some (.bool true, r)
  | 'f' :: 'a' :: 'l' :: 's' :: 'e' :: r => some (.bool false, r)
  | _ => datetimeValue cs <|> decimalFloat cs <|> specialFloat cs <|> integer cs

end DataMapper.Toml
