import DataMapper.Failure
import DataMapper.Settings.Format
import DataMapper.Settings.Variables
import DataMapper.Text.Blank
import DataMapper.Text.Split
import DataMapper.Toml.Document

/-! # Loading settings

Settings come from `default.toml`, the file of the environment, `local.toml` and
the variables, in this order. They are checked as a whole, and a loader holds
only settings that passed.
-/
namespace DataMapper.Settings

structure Sources where
  file? : String → Option String
  vars : Variables

inductive Fault where
  /-- A source is malformed, or a value has the wrong type. -/
  | unreadable
  | urlRequired
  | noConnections
  | crossedBounds (min max : UInt32)
deriving DecidableEq

def Fault.message : Fault → String
  | unreadable => "a source cannot be read"
  | urlRequired => "Database URL is required"
  | noConnections => "database.max_connections must be greater than zero"
  | crossedBounds min max =>
    "database.min_connections (" ++ Decimal.ofNat min.toNat
      ++ ") exceeds database.max_connections (" ++ Decimal.ofNat max.toNat ++ ")"

def Fault.failure (f : Fault) : Failure :=
  .configuration f.message

def pathParts (path : String) : List String :=
  (Text.splitAt '/' path).filter fun part => part ≠ "" ∧ part ≠ "."

/-- The file that a name stands for, without parts that lead nowhere. A name without a stem before
its extension stands for none. -/
def fileOfName? (name : String) : Option String :=
  let parts := pathParts (name ++ ".toml")
  if parts.getLast? = some ".toml" then none else some ("/".intercalate parts)

/-- The files of an environment, the last one counting most. -/
def fileNames (environment : String) : List String :=
  ["default", environment, "local"].filterMap fileOfName?

def fileLayer (text : String) : Option Layer :=
  (Toml.parse text).map Tree.ofTomlEntries

/-- The given files and then the variables, in the order in which they are set; missing files do
not count. -/
def layers (sources : Sources) (files : List String) : Option (List Layer) := do
  let files ← (files.filterMap sources.file?).mapM fileLayer
  return files ++ [sources.vars.layer]

def fault? (s : Settings) : Option Fault :=
  let d := s.database
  if Text.isBlank d.url then some .urlRequired
  else if d.maxConnections = 0 then some .noConnections
  else if d.maxConnections < d.minConnections then
    some (.crossedBounds d.minConnections d.maxConnections)
  else none

/-- What every loaded configuration keeps to. -/
structure Valid (s : Settings) : Prop where
  url : Text.isBlank s.database.url = false
  maxConnections : 0 < s.database.maxConnections
  minConnections : s.database.minConnections ≤ s.database.maxConnections

theorem fault?_eq_none_iff {s : Settings} : fault? s = none ↔ s.Valid := by
  have hvalid : s.Valid ↔ ¬ Text.isBlank s.database.url = true ∧ ¬ s.database.maxConnections = 0 ∧
      ¬ s.database.maxConnections < s.database.minConnections := by
    rw [Bool.not_eq_true, UInt32.not_lt, ← ne_eq, ← UInt32.pos_iff_ne_zero]
    exact ⟨fun h => ⟨h.url, h.maxConnections, h.minConnections⟩, fun h => ⟨h.1, h.2.1, h.2.2⟩⟩
  rw [hvalid]
  by_cases hblank : Text.isBlank s.database.url = true
  · simp [fault?, hblank]
  · by_cases hzero : s.database.maxConnections = 0
    · simp [fault?, hblank, hzero]
    · by_cases hcrossed : s.database.maxConnections < s.database.minConnections <;>
        simp [fault?, hblank, hzero, hcrossed]

/-- The settings that given files and the variables make. The name of the environment stands
whatever they say. -/
def loadFiles (sources : Sources) (files : List String) (environment : String) :
    Except Fault Settings :=
  match (layers sources files).bind fun ls => treeFormat.settings? (Layer.merge ls) with
  | none => .error .unreadable
  | some s =>
    let s := { s with app := { s.app with environment } }
    match fault? s with
    | some f => .error f
    | none => .ok s

/-- The settings of an environment. -/
def load (sources : Sources) (environment : String) : Except Fault Settings :=
  loadFiles sources (fileNames environment) environment

/-- Settings in use, with the name of their environment. -/
structure Loader where
  environment : String
  settings : Settings

namespace Loader

def create (sources : Sources) (environment : String) : Except Fault Loader :=
  (load sources environment).map fun s => ⟨environment, s⟩

/-- Reads the sources again; on a fault the settings stay as they are. -/
def reload (l : Loader) (sources : Sources) : Except Fault Unit × Loader :=
  match load sources l.environment with
  | .ok s => (.ok (), { l with settings := s })
  | .error f => (.error f, l)

theorem reload_snd_of_error {l : Loader} {sources : Sources} {f : Fault}
    (h : (l.reload sources).1 = .error f) : (l.reload sources).2 = l := by
  unfold reload at h ⊢
  split <;> simp_all

end Loader
end DataMapper.Settings
