import DataMapper.Proofs.Loading

/-! # Reloading

Between two reloads the files and the variables may change in any way. A loader
has the settings of its last reading that loaded, so they are valid and name its
environment at any time. A reload does what creating a loader anew would do, or
nothing.
-/
namespace DataMapper.Settings

namespace Loader

theorem create_eq_ok_iff {sources : Sources} {environment : String} {l : Loader} :
    create sources environment = .ok l ↔
      l.environment = environment ∧ load sources environment = .ok l.settings := by
  obtain ⟨own, settings⟩ := l
  cases hload : load sources environment with
  | error f => simp [create, hload, Except.map]
  | ok s => simp [create, hload, Except.map, eq_comm]

/-- A reload that succeeds leaves the loader that would be created anew. -/
theorem reload_eq_ok_iff {l fresh : Loader} {sources : Sources} :
    l.reload sources = (.ok (), fresh) ↔ create sources l.environment = .ok fresh := by
  obtain ⟨own, settings⟩ := fresh
  cases hload : load sources l.environment with
  | error f => simp [reload, create, hload, Except.map]
  | ok s => simp [reload, create, hload, Except.map]

/-! ## Runs -/

inductive Event where
  | change (sources : Sources)
  | reload

structure World where
  sources : Sources
  loader : Loader

def World.step (w : World) : Event → World
  | .change sources => { w with sources }
  | .reload => { w with loader := (w.loader.reload w.sources).2 }

def World.run (w : World) (events : List Event) : World :=
  events.foldl step w

def readings : Sources → List Event → List Sources
  | _, [] => []
  | _, .change sources :: events => readings sources events
  | sources, .reload :: events => sources :: readings sources events

def lastLoaded? (environment : String) (read : List Sources) : Option Settings :=
  read.reverse.findSome? fun sources => (load sources environment).toOption

theorem lastLoaded?_append (environment : String) (a b : List Sources) :
    lastLoaded? environment (a ++ b)
      = (lastLoaded? environment b).or (lastLoaded? environment a) := by
  rw [lastLoaded?, List.reverse_append, List.findSome?_append]
  rfl

theorem load_of_lastLoaded? {environment : String} {read : List Sources} {s : Settings}
    (h : lastLoaded? environment read = some s) :
    ∃ sources ∈ read, load sources environment = .ok s := by
  obtain ⟨sources, hsources, hload⟩ := List.exists_of_findSome?_eq_some h
  refine ⟨sources, List.mem_reverse.1 hsources, ?_⟩
  cases hresult : load sources environment with
  | error f => simp [hresult, Except.toOption] at hload
  | ok t => simpa [hresult, Except.toOption] using hload

namespace World

theorem readings_cons (w : World) (e : Event) (events : List Event) :
    readings w.sources (e :: events)
      = readings w.sources [e] ++ readings (w.step e).sources events := by
  cases e <;> rfl

theorem step_environment (w : World) (e : Event) :
    (w.step e).loader.environment = w.loader.environment := by
  cases e with
  | change sources => rfl
  | reload =>
    cases hload : load w.sources w.loader.environment <;> simp [step, reload, hload]

theorem step_settings (w : World) (e : Event) :
    (w.step e).loader.settings
      = (lastLoaded? w.loader.environment (readings w.sources [e])).getD w.loader.settings := by
  cases e with
  | change sources => rfl
  | reload =>
    cases hload : load w.sources w.loader.environment <;>
      simp [step, reload, readings, lastLoaded?, hload, Except.toOption]

theorem run_environment (w : World) (events : List Event) :
    (w.run events).loader.environment = w.loader.environment := by
  induction events generalizing w with
  | nil => rfl
  | cons e events ih => exact (ih (w.step e)).trans (w.step_environment e)

/-- The settings after a run are those of the last reading that loaded, or as they were. -/
theorem run_settings (w : World) (events : List Event) :
    (w.run events).loader.settings
      = (lastLoaded? w.loader.environment (readings w.sources events)).getD
          w.loader.settings := by
  induction events generalizing w with
  | nil => rfl
  | cons e events ih =>
    rw [readings_cons, lastLoaded?_append, Option.getD_or, ← step_settings, ← step_environment w e]
    exact ih (w.step e)

end World

/-! ## Loaders at any time -/

structure Dependable (sources : Sources) (environment : String) (events : List Event) (w : World) :
    Prop where
  valid : w.loader.settings.Valid
  ownName : w.loader.settings.app.environment = environment
  /-- The settings come from one reading as a whole: the last one that loaded. -/
  last : lastLoaded? environment (sources :: readings sources events) = some w.loader.settings
  /-- A reload that fails leaves the loader as it was. -/
  refused : ∀ f, (w.loader.reload w.sources).1 = .error f →
    (w.loader.reload w.sources).2 = w.loader
  /-- A reload succeeds exactly if a fresh loader can be created, and leaves that one. -/
  renewed : ∀ fresh, w.loader.reload w.sources = (.ok (), fresh) ↔
    create w.sources environment = .ok fresh

theorem run_dependable {sources : Sources} {environment : String} {l : Loader}
    (h : create sources environment = .ok l) (events : List Event) :
    Dependable sources environment events (World.run ⟨sources, l⟩ events) := by
  obtain ⟨rfl, hload⟩ := create_eq_ok_iff.1 h
  have henvironment := World.run_environment ⟨sources, l⟩ events
  have hlast : lastLoaded? l.environment (sources :: readings sources events)
      = some (World.run ⟨sources, l⟩ events).loader.settings := by
    rw [← List.singleton_append, lastLoaded?_append, World.run_settings]
    simp [lastLoaded?, hload, Except.toOption]
  obtain ⟨read, -, hread⟩ := load_of_lastLoaded? hlast
  obtain ⟨-, -, hname, hvalid⟩ := loadFiles_eq_ok_iff_read.1 hread
  refine ⟨hvalid, hname, hlast, fun f => reload_snd_of_error, fun fresh => ?_⟩
  rw [reload_eq_ok_iff, henvironment]

end Loader

namespace Shop
open Loader

def broken : Sources where
  file? file := if file = "default.toml" then some "[" else none
  vars := []

def events : List Event :=
  [.change broken, .reload, .change sources]

theorem load_broken : load broken "test" = .error .unreadable := by
  have hlayers : layers broken (fileNames "test") = none := by
    rw [fileNames_test]
    cbv
  rw [load, loadFiles, hlayers]
  rfl

theorem run_dependable_events :
    create sources "test" = .ok ⟨"test", loaded⟩ ∧
    (Loader.mk "test" loaded).reload broken = (.error .unreadable, ⟨"test", loaded⟩) ∧
    Dependable sources "test" events (World.run ⟨sources, ⟨"test", loaded⟩⟩ events) := by
  have hcreate : create sources "test" = .ok ⟨"test", loaded⟩ :=
    create_eq_ok_iff.2 ⟨rfl, load_test⟩
  refine ⟨hcreate, ?_, run_dependable hcreate events⟩
  rw [reload, load_broken]

end Shop
end DataMapper.Settings
