import DataMapper.Toml.Value

/-! # TOML tables under construction

A document is a list of assignments and headers that build one table. A table
remembers how it came about, because that decides what may still be added to
it. Every function gives nothing when a line contradicts an earlier one.
-/
namespace DataMapper.Toml

/-- How a table came about: opened by a header, named on the way to one, or named by a dotted
key. -/
inductive Origin where
  | header
  | passed
  | dotted
deriving DecidableEq

inductive Node where
  | value (v : Value)
  | table (origin : Origin) (entries : List (String × Node))
  | tables (items : List (List (String × Node)))

abbrev Entries : Type :=
  List (String × Node)

namespace Entries

def get? (es : Entries) (key : String) : Option Node :=
  es.lookup key

def replace (es : Entries) (key : String) (node : Node) : Entries :=
  es.map fun e => if e.1 == key then (key, node) else e

/-- Works on the last table of a list, if there is one. -/
def onLast (f : Entries → Option Entries) (items : List Entries) : Option (List Entries) :=
  match items.reverse with
  | [] => none
  | last :: front => (f last).map fun es => front.reverse ++ [es]

/-- Assigns a value to a dotted key. `here` tells whether the table itself may take the last part
of the key. -/
def assign (here : Bool) : List String → Value → Entries → Option Entries
  | [], _, _ => none
  | [key], v, es =>
    if here && (es.get? key).isNone then some (es ++ [(key, .value v)]) else none
  | key :: next :: rest, v, es =>
    match es.get? key with
    | none => (assign true (next :: rest) v []).map fun t => es ++ [(key, .table .dotted t)]
    | some (.table .dotted t) =>
      (assign true (next :: rest) v t).map fun t => es.replace key (.table .dotted t)
    | some (.table .passed t) =>
      (assign false (next :: rest) v t).map fun t => es.replace key (.table .passed t)
    | some (.tables items) =>
      (onLast (assign false (next :: rest) v) items).map fun ts => es.replace key (.tables ts)
    | some (.table .header _) | some (.value _) => none

/-- Walks along the leading keys of a path, naming tables on the way, and works on the table at
the end with the last key. -/
def along (f : String → Entries → Option Entries) : List String → Entries → Option Entries
  | [], _ => none
  | [key], es => f key es
  | key :: next :: rest, es =>
    match es.get? key with
    | none => (along f (next :: rest) []).map fun t => es ++ [(key, .table .passed t)]
    | some (.table origin t) =>
      (along f (next :: rest) t).map fun t => es.replace key (.table origin t)
    | some (.tables items) =>
      (onLast (along f (next :: rest)) items).map fun ts => es.replace key (.tables ts)
    | some (.value _) => none

/-- Opens the table of a header at the end of its surroundings. Only a table that was merely passed
may be there already; it moves. -/
def openTable (key : String) (es : Entries) : Option Entries :=
  match es.get? key with
  | none => some (es ++ [(key, .table .header [])])
  | some (.table .passed t) => some (es.filter (·.1 != key) ++ [(key, .table .header t)])
  | some _ => none

def addTable (key : String) (es : Entries) : Option Entries :=
  match es.get? key with
  | none => some (es ++ [(key, .tables [[]])])
  | some (.tables items) => some (es.replace key (.tables (items ++ [[]])))
  | some _ => none

/-- Works on the table or the last of the tables under a key. -/
def inside (f : Entries → Option Entries) (key : String) (es : Entries) : Option Entries :=
  match es.get? key with
  | some (.table origin t) => (f t).map fun t => es.replace key (.table origin t)
  | some (.tables items) => (onLast f items).map fun ts => es.replace key (.tables ts)
  | _ => none

end Entries

mutual

def Node.toValue : Node → Value
  | .value v => v
  | .table _ entries => .table (entriesToValues entries)
  | .tables items => .array (tablesToValues items)

def entriesToValues : List (String × Node) → List (String × Value)
  | [] => []
  | (key, node) :: rest => (key, node.toValue) :: entriesToValues rest

def tablesToValues : List (List (String × Node)) → List Value
  | [] => []
  | entries :: rest => .table (entriesToValues entries) :: tablesToValues rest

end

inductive Line where
  | header (path : List String)
  | tableHeader (path : List String)
  | assign (key : List String) (value : Value)

/-- The table so far, and the path of the table that assignments go to. -/
structure Draft where
  root : Entries := []
  current : List String := []

def Draft.add (d : Draft) : Line → Option Draft
  | .header path => (Entries.along Entries.openTable path d.root).map fun root => ⟨root, path⟩
  | .tableHeader path => (Entries.along Entries.addTable path d.root).map fun root => ⟨root, path⟩
  | .assign key v =>
    let root :=
      if d.current.isEmpty then Entries.assign true key v d.root
      else Entries.along (Entries.inside (Entries.assign true key v)) d.current d.root
    root.map fun root => { d with root }

/-- The table that the lines of a document build. -/
def ofLines (lines : List Line) : Option (List (String × Value)) :=
  (lines.foldlM Draft.add ({} : Draft)).map fun d => entriesToValues d.root

/-- The table that the assignments between braces build. -/
def ofAssignments (pairs : List (List String × Value)) : Option (List (String × Value)) :=
  (pairs.foldlM (fun es p => Entries.assign true p.1 p.2 es) []).map entriesToValues

end DataMapper.Toml
