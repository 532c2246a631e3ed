import DataMapper.Text.LetterCase
import DataMapper.Toml.Value

/-! # Settings trees

The sources of the settings are trees of tables, lists and scalars. Setting a
table goes key by key, so that later sources override single keys; setting
anything else replaces what was there. All keys are in lower case, so the letter
case of a source does not matter.
-/
namespace DataMapper.Settings

inductive Tree where
  | absent
  | bool (b : Bool)
  | int (n : Int)
  | float (x : Binary64)
  | text (s : String)
  | list (items : List Tree)
  | table (entries : List (String × Tree))
deriving Inhabited

namespace Tree

def entries : Tree → List (String × Tree)
  | table es => es
  | _ => []

def items : Tree → List Tree
  | list ts => ts
  | _ => []

/-- Puts a tree under a key, in the place of the tree that was there. -/
def insert (key : String) (t : Tree) : List (String × Tree) → List (String × Tree)
  | [] => [(key, t)]
  | (k, u) :: rest => if k = key then (key, t) :: rest else (k, u) :: insert key t rest

mutual

/-- Sets a key. A table is merged into what the key holds; an empty table only fills a gap. -/
def put (key : String) : Tree → List (String × Tree) → List (String × Tree)
  | table [], es => if (es.lookup key).isSome then es else es ++ [(key, table [])]
  | table (e :: incoming), es =>
    insert key (table (putAll (e :: incoming) ((es.lookup key).getD absent).entries)) es
  | t, es => insert key t es

def putAll : List (String × Tree) → List (String × Tree) → List (String × Tree)
  | [], es => es
  | (key, t) :: rest, es => putAll rest (put key t es)

end

mutual

/-- The tree of a value, with the keys in lower case. Keys that differ in letter case alone may
stand beside each other until the tree is set. -/
def ofToml : Toml.Value → Tree
  | .text s | .datetime s => text s
  | .int n => int n
  | .float x => float x
  | .bool b => bool b
  | .array vs => list (ofTomlList vs)
  | .table es => table (ofTomlEntries es)

def ofTomlList : List Toml.Value → List Tree
  | [] => []
  | v :: rest => ofToml v :: ofTomlList rest

def ofTomlEntries : List (String × Toml.Value) → List (String × Tree)
  | [] => []
  | (key, v) :: rest => (Text.lowercaseText key, ofToml v) :: ofTomlEntries rest

end

theorem lookup_insert (key k : String) (t : Tree) (es : List (String × Tree)) :
    (insert key t es).lookup k = if k = key then some t else es.lookup k := by
  induction es with
  | nil =>
    by_cases h : k = key
    · simp [insert, h]
    · have hb : (k == key) = false := beq_eq_false_iff_ne.2 h
      simp [insert, List.lookup_cons, h, hb]
  | cons e rest ih =>
    obtain ⟨j, u⟩ := e
    unfold insert
    by_cases hj : j = key
    · by_cases h : k = key
      · simp [hj, h]
      · have hb : (k == key) = false := beq_eq_false_iff_ne.2 h
        simp [hj, h, List.lookup_cons, hb]
    · by_cases hk : k = j
      · subst hk
        simp [hj]
      · have hb : (k == j) = false := beq_eq_false_iff_ne.2 hk
        simp [hj, List.lookup_cons, hb, ih]

end Tree
end DataMapper.Settings
