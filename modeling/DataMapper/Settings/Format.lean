import DataMapper.Json
import DataMapper.Narrow
import DataMapper.Settings.Basic
import DataMapper.Settings.Tree
import DataMapper.Text.LetterCase

/-! # Reading settings from documents

A format says how the nodes of a document are read: sections by name or by
position, and scalars with or without conversions. The settings are read alike
from every format.
-/
namespace DataMapper.Settings

/-- The contents of a section, by key or in declared order. -/
inductive Members (α : Type) where
  | named (entries : List (String × α))
  | listed (items : List α)

structure Format (α : Type) where
  members? : (size : Nat) → α → Option (Members α)
  text? : α → Option String
  flag? : α → Option Bool
  number? : α → Option Nat

/-- The node of a key, which stands at position `index` of its section. -/
def Members.get? {α : Type} (m : Members α) (key : String) (index : Nat) : Option α :=
  match m with
  | named entries => entries.lookup key
  | listed items => items[index]?

/-- Reads a key, or takes its default. -/
def Members.read {α β : Type} (m : Members α) (key : String) (index : Nat) (read : α → Option β)
    (default : β) : Option β :=
  match m.get? key index with
  | some node => read node
  | none => some default

namespace Format
variable {α : Type} (f : Format α)

def uint32? (node : α) : Option UInt32 :=
  (f.number? node).bind Narrow.uint32?

def uint64? (node : α) : Option UInt64 :=
  (f.number? node).bind Narrow.uint64?

/-- Both keys are needed once the section is there. -/
def app? (node : α) : Option AppSettings := do
  let m ← f.members? 2 node
  return {
    name := ← f.text? (← m.get? "name" 0)
    environment := ← f.text? (← m.get? "environment" 1) }

def database? (node : α) : Option DatabaseSettings := do
  let m ← f.members? 6 node
  let base : DatabaseSettings := {}
  return {
    url := ← m.read "url" 0 f.text? base.url
    minConnections := ← m.read "min_connections" 1 f.uint32? base.minConnections
    maxConnections := ← m.read "max_connections" 2 f.uint32? base.maxConnections
    connectTimeoutSecs := ← m.read "connect_timeout_secs" 3 f.uint64? base.connectTimeoutSecs
    idleTimeoutSecs := ← m.read "idle_timeout_secs" 4 f.uint64? base.idleTimeoutSecs
    logQueries := ← m.read "log_queries" 5 f.flag? base.logQueries }

def telemetry? (node : α) : Option TelemetrySettings := do
  let m ← f.members? 3 node
  let base : TelemetrySettings := {}
  return {
    filter := ← m.read "filter" 0 f.text? base.filter
    json := ← m.read "json" 1 f.flag? base.json
    withTarget := ← m.read "with_target" 2 f.flag? base.withTarget }

def settings? (node : α) : Option Settings := do
  let m ← f.members? 3 node
  return {
    app := ← m.read "app" 0 f.app? {}
    database := ← m.read "database" 1 f.database? {}
    telemetry := ← m.read "telemetry" 2 f.telemetry? {} }

end Format

/-- JSON documents hold every value in its own type, and no list longer than its section. -/
def jsonFormat : Format Json where
  members? size
    | .object entries => some (.named entries.reverse)
    | .array items => if items.length ≤ size then some (.listed items) else none
    | _ => none
  text?
    | .string s => some s
    | _ => none
  flag?
    | .bool b => some b
    | _ => none
  number?
    | .integer n => if 0 ≤ n then some n.toNat else none
    | _ => none

/-- A boolean written as a word or a digit. -/
def flagOfText (s : String) : Option Bool :=
  match Text.lowercaseText s with
  | "1" | "true" | "on" | "yes" => some true
  | "0" | "false" | "off" | "no" => some false
  | _ => none

/-- A natural number written in digits, or a switch written as a word. -/
def numberOfText (s : String) : Option Nat :=
  match Text.lowercaseText s with
  | "true" | "on" | "yes" => some 1
  | "false" | "off" | "no" => some 0
  | _ =>
    match s.toList with
    | '+' :: cs | cs => Decimal.readNat cs

/-- Sources convert scalars to the type that is asked for where that is possible. -/
def treeFormat : Format Tree where
  members? _
    | .table entries => some (.named entries)
    | .list items => some (.listed items)
    | _ => none
  text?
    | .text s => some s
    | .bool b => some (if b then "true" else "false")
    | .int n => some (Decimal.ofInt n)
    | .float x => some x.display
    | _ => none
  flag?
    | .bool b => some b
    | .int n => some (n != 0)
    | .float x => some (!x.isZero)
    | .text s => flagOfText s
    | _ => none
  number?
    | .int n => if 0 ≤ n then some n.toNat else none
    | .bool b => some (if b then 1 else 0)
    | .float x => some x.toWord
    | .text s => numberOfText s
    | _ => none

end DataMapper.Settings
