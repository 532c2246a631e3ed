import DataMapper.Narrow
import DataMapper.Settings.Tree

/-! # Key paths

The key of a source may name a place deeper in the tree: names joined by dots,
and indices in brackets. A key of any other form names itself.
-/
namespace DataMapper.Settings

inductive Segment where
  | name (key : String)
  | index (i : Int)
deriving DecidableEq

abbrev KeyPath : Type :=
  List Segment

namespace KeyPath

def isNameChar (c : Char) : Bool :=
  c.isAlphanum || c == '_' || c == '-' || c == ' '

def readName (cs : List Char) : Option (Segment × List Char) :=
  let word := cs.takeWhile isNameChar
  if word.isEmpty then none else some (.name (String.ofList word), cs.dropWhile isNameChar)

def isGap (c : Char) : Bool :=
  c == ' ' || c == '\t'

/-- An index and the closing bracket. -/
def readIndex (cs : List Char) : Option (Segment × List Char) :=
  let cs := cs.dropWhile isGap
  let (sign, digits) := match cs with
    | '-' :: r => (['-'], r)
    | r => ([], r)
  match Decimal.readInt (sign ++ digits.takeWhile Char.isDigit) with
  | none => none
  | some i =>
    match (digits.dropWhile Char.isDigit).dropWhile isGap with
    | ']' :: r => (Narrow.int64? i).map fun _ => (.index i, r)
    | _ => none

def readSegments : Nat → List Char → Option KeyPath
  | 0, _ => none
  | fuel + 1, cs =>
    match cs with
    | [] => some []
    | '.' :: r => do
      let (s, r) ← readName r
      return s :: (← readSegments fuel r)
    | '[' :: r => do
      let (s, r) ← readIndex r
      return s :: (← readSegments fuel r)
    | _ => none

def ofKey (key : String) : KeyPath :=
  let cs := key.toList
  let found : Option KeyPath := do
    let (s, r) ← readName cs
    return s :: (← readSegments (r.length + 1) r)
  found.getD [.name key]

/-- Indices below zero count from the end. -/
def position (i : Int) (size : Nat) : Option Nat :=
  if 0 ≤ i then some i.toNat
  else if i.natAbs ≤ size then some (size - i.natAbs) else none

/-- Puts an item at a position, with gaps before it if the list is too short. -/
def setItem (items : List Tree) (n : Nat) (t : Tree) : List Tree :=
  if n < items.length then items.set n t
  else items ++ List.replicate (n - items.length) .absent ++ [t]

/-- Sets the place that a path names. Whatever stands in the way of it is replaced. -/
def set : KeyPath → Tree → Tree → Tree
  | [], t, _ => t
  | [.name key], t, here => .table (here.entries |> Tree.put key t)
  | .name key :: rest, t, here =>
    .table (Tree.insert key (set rest t ((here.entries.lookup key).getD .absent)) here.entries)
  | .index i :: rest, t, here =>
    match position i here.items.length with
    | none => .list here.items
    | some n => .list (setItem here.items n (set rest t (here.items[n]?.getD .absent)))

end KeyPath

abbrev Layer : Type :=
  List (String × Tree)

def Layer.onto (layer : Layer) (tree : Tree) : Tree :=
  layer.foldl (fun t e => (KeyPath.ofKey e.1).set e.2 t) tree

/-- All sources together, later ones over earlier ones. -/
def Layer.merge (layers : List Layer) : Tree :=
  layers.foldl (fun t layer => layer.onto t) (.table [])

end DataMapper.Settings
