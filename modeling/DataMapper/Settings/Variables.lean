import DataMapper.Settings.KeyPath
import DataMapper.Text.LetterCase

/-! # Settings from environment variables

After the marker of the settings, a name holds the key with two underscores for
each dot, in any letter case. The text is taken as a boolean, an integer or a
number where it reads as one.
-/
namespace DataMapper.Settings

abbrev Variables : Type :=
  List (String × String)

namespace Variables

/-- The start of every variable of the settings, in lower case. -/
def marker : List Char :=
  "tabula__".toList

/-- Two underscores become a dot, from left to right. -/
def dotted : List Char → List Char
  | '_' :: '_' :: r => '.' :: dotted r
  | c :: r => c :: dotted r
  | [] => []

/-- The key that a variable sets, if it is one of the settings. -/
def key? (name : String) : Option String :=
  let cs := (Text.lowercaseText name).toList
  if marker.isPrefixOf cs then some (String.ofList (dotted (cs.drop marker.length))) else none

def ofText (text : String) : Tree :=
  match Text.lowercaseText text with
  | "true" => .bool true
  | "false" => .bool false
  | _ =>
    match (Decimal.readInt text.toList).bind Narrow.int64? with
    | some n => .int n.toInt
    | none =>
      match Binary64.read text.toList with
      | some x => .float x
      | none => .text text

/-- The source that the variables form; of two names for one key the later counts. -/
def layer (vars : Variables) : Layer :=
  vars.foldl (fun es v =>
    match key? v.1 with
    | some key => Tree.insert key (ofText v.2) es
    | none => es) []

end Variables
end DataMapper.Settings
