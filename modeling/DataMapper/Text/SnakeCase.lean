import DataMapper.Text.LetterCase

/-! # Snake case

Names in camel case become lowercase words joined by underscores. A run of
capitals stays one word: `HTTPServer` becomes `http_server`.
-/
namespace DataMapper.Text

/-- Whether a capital starts a new word, given its neighbours. -/
def startsWord (before after : Option Char) : Bool :=
  match before with
  | none => false
  | some p =>
    if isLowercase p || p.isDigit then true
    else isUppercase p && after.any isLowercase

/-- Adds a character, given its neighbours, to what is written of a name. A word that starts right
after an underscore is not separated once more. -/
def snakeStep (before after : Option Char) (out : List Char) (c : Char) : List Char :=
  if isUppercase c then
    let separate := startsWord before after && out.getLast? != some '_'
    (if separate then out ++ ['_'] else out) ++ lowercase c
  else out ++ [c]

/-- Adds the characters that follow `before`. -/
def snakeFrom (before : Option Char) (out : List Char) : List Char → List Char
  | [] => out
  | c :: rest => snakeFrom (some c) (snakeStep before rest.head? out c) rest

def snakeCase (name : String) : String :=
  String.ofList (snakeFrom none [] name.toList)

end DataMapper.Text
