import DataMapper.Proofs.Precedence

/-! # Partly filled sections

Keys that are not set have the defaults of their sections, so that no key of the
database or of the telemetry is required because another one is set. The section
of the application has defaults only as a whole: once a source names it, nothing
loads before its name and its environment are both set, although the name of the
environment is replaced after that.
-/
namespace DataMapper.Settings

/-- The environment in the section of the application, which has to be a text but is not used. -/
def environmentKey : Key :=
  ⟨"app", "environment", treeFormat.text?, (·.app.environment)⟩

theorem exists_readAs {α β : Type} {read : α → Option β} (default : β) {node? : Option α}
    (h : ∀ node ∈ node?, (read node).isSome = true) :
    ∃ v, ReadAs read default node? v := by
  cases node? with
  | none => exact ⟨default, rfl⟩
  | some node => exact Option.isSome_iff_exists.1 (h node rfl)

/-- Keys that are set to something of their type can be completed with the defaults of the others. -/
theorem exists_follows {tree? : Key → Option Tree} (environment : String)
    (h : ∀ key ∈ keys, ∀ t ∈ tree? key, (key.read t).isSome = true) :
    ∃ s : Settings, s.app.environment = environment ∧ ∀ key ∈ keys, key.Follows (tree? key) s := by
  have hread : ∀ key ∈ keys, ∃ v, ReadAs key.read (key.get {}) (tree? key) v :=
    fun key hkey => exists_readAs _ (h key hkey)
  simp only [keys, appKeys, databaseKeys, telemetryKeys, List.cons_append, List.nil_append,
    List.forall_mem_cons] at hread
  obtain ⟨⟨name, hname⟩, ⟨url, hurl⟩, ⟨min, hmin⟩, ⟨max, hmax⟩, ⟨connect, hconnect⟩, ⟨idle, hidle⟩,
    ⟨log, hlog⟩, ⟨filter, hfilter⟩, ⟨json, hjson⟩, ⟨withTarget, hwithTarget⟩, -⟩ := hread
  refine ⟨⟨⟨name, environment⟩, ⟨url, min, max, connect, idle, log⟩, ⟨filter, json, withTarget⟩⟩,
    rfl, ?_⟩
  simp only [keys, appKeys, databaseKeys, telemetryKeys, List.cons_append, List.nil_append,
    List.forall_mem_cons]
  exact ⟨hname, hurl, hmin, hmax, hconnect, hidle, hlog, hfilter, hjson, hwithTarget, by simp⟩

namespace Sources

def WellTyped (sources : Sources) (environment : String) : Prop :=
  ∀ key ∈ environmentKey :: keys, ∀ t ∈ sources.lastValue? environment key.part key.name,
    (key.read t).isSome = true

/-- No source names the section of the application, or both of its keys are set. -/
def AppWhole (sources : Sources) (environment : String) : Prop :=
  ¬ (sources.entries (fileNames environment)).Names "app" ∨
    (sources.lastValue? environment "app" "name").isSome = true ∧
    (sources.lastValue? environment "app" "environment").isSome = true

variable {sources : Sources} {environment : String}

theorem appComplete_iff (h : sources.WellTyped environment) :
    AppComplete (sources.entries (fileNames environment)) ↔ sources.AppWhole environment := by
  have howned : (∃ t own, sources.lastValue? environment "app" "environment" = some t ∧
      treeFormat.text? t = some own) ↔
      (sources.lastValue? environment "app" "environment").isSome = true := by
    rw [Option.isSome_iff_exists]
    constructor
    · rintro ⟨t, -, ht, -⟩
      exact ⟨t, ht⟩
    · rintro ⟨t, ht⟩
      obtain ⟨own, hown⟩ := Option.isSome_iff_exists.1 (h environmentKey List.mem_cons_self t ht)
      exact ⟨t, own, ht, hown⟩
  rw [AppComplete, AppWhole, value?_entries_fileNames, value?_entries_fileNames, howned]

theorem appWhole_of_appFollows {a : AppSettings}
    (h : AppFollows (sources.entries (fileNames environment)) a) : sources.AppWhole environment := by
  rcases h with ⟨hnames, -⟩ | ⟨⟨tname, htname, -⟩, tenvironment, htenvironment, -⟩
  · exact .inl hnames
  · rw [value?_entries_fileNames] at htname htenvironment
    exact .inr ⟨by rw [htname]; rfl, by rw [htenvironment]; rfl⟩

theorem load_eq_unreadable (h : sources.Plain (fileNames environment))
    (hpart : ¬ sources.AppWhole environment) :
    load sources environment = .error .unreadable := by
  obtain ⟨ls, hls, hplain, hflat⟩ := layers_eq_some h
  have hread : treeFormat.settings? (Layer.merge ls) = none := by
    refine Option.eq_none_iff_forall_ne_some.2 fun s hs => hpart ?_
    have happ := ((settings?_merge_eq_some_iff hplain).1 hs).1
    rw [hflat] at happ
    exact appWhole_of_appFollows happ
  simp only [load, loadFiles, hls, Option.bind_some, hread]

end Sources

/-- The settings of the sources, with defaults for what they do not set, and when they load. -/
structure Completion (sources : Sources) (environment : String) (s : Settings) : Prop where
  ownName : s.app.environment = environment
  completed : ∀ key ∈ keys, key.Follows (sources.lastValue? environment key.part key.name) s
  loads : s.Valid → sources.AppWhole environment → load sources environment = .ok s
  refused : ¬ sources.AppWhole environment → load sources environment = .error .unreadable

theorem exists_completion {sources : Sources} {environment : String}
    (h : sources.Plain (fileNames environment)) (htyped : sources.WellTyped environment) :
    ∃ s, Completion sources environment s := by
  obtain ⟨s, hname, hkeys⟩ := exists_follows environment fun key hkey =>
    htyped key (List.mem_cons_of_mem _ hkey)
  refine ⟨s, hname, hkeys, ?_, Sources.load_eq_unreadable h⟩
  intro hvalid hwhole
  refine (loadFiles_eq_ok_iff h).2 ⟨hname, ?_, (Sources.appComplete_iff htyped).2 hwhole, hvalid⟩
  intro key hkey
  rw [Sources.value?_entries_fileNames]
  exact hkeys key hkey

namespace Shop

theorem exists_completion_test :
    sources.Plain (fileNames "test") ∧ sources.WellTyped "test" ∧
    ∃ s, Completion sources "test" s := by
  have hfile : fileOfName? "test" = some "test.toml" := by decide
  have hown : sources.ofEnvironment "test" = sources.contents "test.toml" := by
    rw [Sources.ofEnvironment, hfile, Option.map_some, Option.getD_some]
  have htyped : sources.WellTyped "test" := by
    simp only [Sources.WellTyped, Sources.lastValue?, layer_vars, hown, contents_local,
      contents_test, contents_default]
    decide
  exact ⟨plain, htyped, exists_completion plain htyped⟩

end Shop

namespace Unfinished

def sources : Sources where
  file? file := if file = "default.toml" then some "[app]\nname = \"shop\"\n" else none
  vars := []

def completed : Settings where
  app := { name := "shop", environment := "test" }

theorem contents_default :
    sources.contents "default.toml" = [("app", .table [("name", .text "shop")])] := by
  cbv

theorem contents_eq_nil {file : String} (h : file ≠ "default.toml") :
    sources.contents file = [] := by
  simp [Sources.contents, sources, h]

theorem plain : sources.Plain (fileNames "test") := by
  rw [fileNames_test]
  refine ⟨?_, ?_, by simp [Layer.Plain, sources, Variables.layer]⟩
  · simp only [List.forall_mem_cons]
    refine ⟨?_, ?_, ?_, by simp⟩
    · rintro text ⟨⟩
      cbv
    · rintro text ⟨⟩
    · rintro text ⟨⟩
  · simp only [List.forall_mem_cons, contents_default,
      contents_eq_nil (show "test.toml" ≠ "default.toml" by decide),
      contents_eq_nil (show "local.toml" ≠ "default.toml" by decide)]
    decide

theorem entries_test : sources.entries (fileNames "test")
    = [("app", .table [("name", .text "shop")])] := by
  rw [fileNames_test]
  simp only [Sources.entries, List.flatMap_cons, List.flatMap_nil, contents_default,
    contents_eq_nil (show "test.toml" ≠ "default.toml" by decide),
    contents_eq_nil (show "local.toml" ≠ "default.toml" by decide)]
  rfl

theorem lastValue?_test (part key : String) : sources.lastValue? "test" part key
    = Layer.value? [("app", .table [("name", .text "shop")])] part key := by
  rw [← Sources.value?_entries_fileNames, entries_test]

/-- With the other defaults the settings of the sources are valid, but they do not load. -/
theorem load_unfinished :
    sources.Plain (fileNames "test") ∧ sources.WellTyped "test" ∧
    completed.app.environment = "test" ∧
    (∀ key ∈ keys, key.Follows (sources.lastValue? "test" key.part key.name) completed) ∧
    completed.Valid ∧ load sources "test" = .error .unreadable := by
  refine ⟨plain, ?_, rfl, ?_, fault?_eq_none_iff.1 rfl, Sources.load_eq_unreadable plain ?_⟩
  · simp only [Sources.WellTyped, lastValue?_test]
    decide
  · simp only [lastValue?_test, keys, appKeys, databaseKeys, telemetryKeys, List.cons_append,
      List.nil_append, List.forall_mem_cons]
    refine ⟨?_, ?_, ?_, ?_, ?_, ?_, ?_, ?_, ?_, ?_, by simp⟩ <;> rfl
  · rw [Sources.AppWhole, entries_test, lastValue?_test, lastValue?_test]
    rintro (hnames | ⟨-, hown⟩)
    · exact hnames ⟨_, List.mem_cons_self, by decide⟩
    · cases hown

end Unfinished
end DataMapper.Settings
