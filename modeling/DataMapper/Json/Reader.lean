import DataMapper.Json
import DataMapper.Text.Hex

/-! # Reading JSON

The reader takes the whole grammar: blanks, escapes with surrogate pairs, and
nested arrays and objects. Each function gives the value read and the
characters after it.
-/
namespace DataMapper.Json

def isSpace (c : Char) : Bool :=
  c == ' ' || c == '\t' || c == '\n' || c == '\r'

def escaped? : Char → Option Char
  | '"' => some '"'
  | '\\' => some '\\'
  | '/' => some '/'
  | 'b' => some '\x08'
  | 'f' => some '\x0c'
  | 'n' => some '\n'
  | 'r' => some '\r'
  | 't' => some '\t'
  | _ => none

/-- The character that two surrogates stand for. -/
def ofSurrogates (high low : Nat) : Char :=
  Char.ofNat (0x10000 + (high - 0xD800) * 0x400 + (low - 0xDC00))

def prepend (c : Char) : Option (List Char × List Char) → Option (List Char × List Char) :=
  Option.map fun (s, rest) => (c :: s, rest)

/-- The rest of a string after its opening quote. -/
def readString : List Char → Option (List Char × List Char)
  | [] => none
  | '"' :: r => some ([], r)
  | '\\' :: 'u' :: a :: b :: c :: d :: r =>
    match Text.hexNat? [a, b, c, d] with
    | none => none
    | some n =>
      if 0xD800 ≤ n ∧ n < 0xDC00 then
        match r with
        | '\\' :: 'u' :: e :: f :: g :: h :: r =>
          match Text.hexNat? [e, f, g, h] with
          | none => none
          | some m =>
            if 0xDC00 ≤ m ∧ m < 0xE000 then prepend (ofSurrogates n m) (readString r) else none
        | _ => none
      else if 0xDC00 ≤ n ∧ n < 0xE000 then none
      else prepend (Char.ofNat n) (readString r)
  | '\\' :: c :: r =>
    match escaped? c with
    | some e => prepend e (readString r)
    | none => none
  | c :: r => if c.toNat < 0x20 ∨ c = '\\' then none else prepend c (readString r)

def readDigits (cs : List Char) : Option (List Char × List Char) :=
  let digits := cs.takeWhile Char.isDigit
  if digits.isEmpty then none else some (digits, cs.dropWhile Char.isDigit)

def readFraction : List Char → Option (List Char × List Char)
  | '.' :: r => (readDigits r).map fun (ds, rest) => ('.' :: ds, rest)
  | r => some ([], r)

def readExponent : List Char → Option (List Char × List Char)
  | e :: r =>
    if e = 'e' ∨ e = 'E' then
      let (sign, r) := match r with
        | '+' :: r => (['+'], r)
        | '-' :: r => (['-'], r)
        | r => ([], r)
      (readDigits r).map fun (ds, rest) => (e :: sign ++ ds, rest)
    else some ([], e :: r)
  | [] => some ([], [])

def readUnsigned (sign : List Char) (cs : List Char) : Option (Json × List Char) := do
  let (whole, rest) ← readDigits cs
  if whole.head? = some '0' ∧ 1 < whole.length then none
  let (fraction, rest) ← readFraction rest
  let (exponent, rest) ← readExponent rest
  let value := Nat.ofDigitChars 10 whole 0
  if fraction.isEmpty && exponent.isEmpty && (sign.isEmpty || value != 0) then
    return (integer (if sign.isEmpty then value else -value), rest)
  return (float (String.ofList (sign ++ whole ++ fraction ++ exponent)), rest)

def readNumber : List Char → Option (Json × List Char)
  | '-' :: r => readUnsigned ['-'] r
  | r => readUnsigned [] r

mutual

def readValue : Nat → List Char → Option (Json × List Char)
  | 0, _ => none
  | fuel + 1, cs =>
    match cs.dropWhile isSpace with
    | 'n' :: 'u' :: 'l' :: 'l' :: r => some (null, r)
    | 't' :: 'r' :: 'u' :: 'e' :: r => some (bool true, r)
    | 'f' :: 'a' :: 'l' :: 's' :: 'e' :: r => some (bool false, r)
    | '"' :: r => (readString r).map fun (s, rest) => (string (String.ofList s), rest)
    | '[' :: r =>
      match r.dropWhile isSpace with
      | ']' :: r => some (array [], r)
      | r => (readItems fuel r).map fun (items, rest) => (array items, rest)
    | '\x7b' :: r =>
      match r.dropWhile isSpace with
      | '\x7d' :: r => some (object [], r)
      | r => (readMembers fuel r).map fun (members, rest) => (object members, rest)
    | r => readNumber r

/-- One item or more, up to the closing bracket. -/
def readItems : Nat → List Char → Option (List Json × List Char)
  | 0, _ => none
  | fuel + 1, cs =>
    match readValue fuel cs with
    | none => none
    | some (item, rest) =>
      match rest.dropWhile isSpace with
      | ',' :: r => (readItems fuel r).map fun (items, rest) => (item :: items, rest)
      | ']' :: r => some ([item], r)
      | _ => none

/-- One member or more, up to the closing brace. -/
def readMembers : Nat → List Char → Option (List (String × Json) × List Char)
  | 0, _ => none
  | fuel + 1, cs =>
    match cs.dropWhile isSpace with
    | '"' :: r =>
      match readString r with
      | none => none
      | some (key, rest) =>
        match rest.dropWhile isSpace with
        | ':' :: r =>
          match readValue fuel r with
          | none => none
          | some (value, rest) =>
            match rest.dropWhile isSpace with
            | ',' :: r =>
              (readMembers fuel r).map fun (members, rest) =>
                ((String.ofList key, value) :: members, rest)
            | '\x7d' :: r => some ([(String.ofList key, value)], r)
            | _ => none
        | _ => none
    | _ => none

end

/-- Reads a text that holds one value and blanks, and nothing else. -/
def parse (text : String) : Option Json :=
  match readValue (text.length + 1) text.toList with
  | some (value, rest) => if rest.all isSpace then some value else none
  | none => none

end DataMapper.Json
