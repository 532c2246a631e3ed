import DataMapper.Json
import DataMapper.Settings.Basic
import DataMapper.Text.Split

/-! # Single settings

A dotted key names a node of the settings. The node is given as it is, or as a
scalar of one type if it is one; nothing is converted.
-/
namespace DataMapper.Settings

def appJson (s : AppSettings) : Json :=
  .object [("name", .string s.name), ("environment", .string s.environment)]

def databaseJson (d : DatabaseSettings) : Json :=
  .object [("url", .string d.url), ("min_connections", .integer d.minConnections.toNat),
    ("max_connections", .integer d.maxConnections.toNat),
    ("connect_timeout_secs", .integer d.connectTimeoutSecs.toNat),
    ("idle_timeout_secs", .integer d.idleTimeoutSecs.toNat), ("log_queries", .bool d.logQueries)]

def telemetryJson (t : TelemetrySettings) : Json :=
  .object [("filter", .string t.filter), ("json", .bool t.json), ("with_target", .bool t.withTarget)]

def toJson (s : Settings) : Json :=
  .object [("app", appJson s.app), ("database", databaseJson s.database),
    ("telemetry", telemetryJson s.telemetry)]

def node? (s : Settings) (key : String) : Option Json :=
  (Text.splitAt '.' key).foldlM Json.get? s.toJson

def text? (s : Settings) (key : String) : Option String :=
  match s.node? key with
  | some (.string t) => some t
  | _ => none

def flag? (s : Settings) (key : String) : Option Bool :=
  match s.node? key with
  | some (.bool b) => some b
  | _ => none

def number? (s : Settings) (bound : Nat) (key : String) : Option Nat :=
  match s.node? key with
  | some (.integer n) => if 0 ≤ n ∧ n < bound then some n.toNat else none
  | _ => none

end DataMapper.Settings
