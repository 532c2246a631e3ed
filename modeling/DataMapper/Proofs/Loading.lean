import Mathlib
import DataMapper.Proofs.Layering

/-! # Which settings load

Settings have a fixed list of keys, each with a section, a way to be read and a
default. Where sections are tables of scalars, settings load exactly if every
key that is set reads as their value and every other key has its default, the
section of the application is complete, and they are valid.
-/
namespace DataMapper.Settings

/-! ## Keys -/

def ReadAs {α β : Type} (read : α → Option β) (default : β) (node? : Option α) (v : β) : Prop :=
  match node? with
  | some node => read node = some v
  | none => v = default

structure Key where
  part : String
  name : String
  {Value : Type}
  read : Tree → Option Value
  get : Settings → Value

/-- The settings have for a key what a tree reads as, and the default of its section if no tree is
set. -/
def Key.Follows (key : Key) (tree? : Option Tree) (s : Settings) : Prop :=
  ReadAs key.read (key.get {}) tree? (key.get s)

def appKeys : List Key := [
  ⟨"app", "name", treeFormat.text?, (·.app.name)⟩]

def databaseKeys : List Key := [
  ⟨"database", "url", treeFormat.text?, (·.database.url)⟩,
  ⟨"database", "min_connections", treeFormat.uint32?, (·.database.minConnections)⟩,
  ⟨"database", "max_connections", treeFormat.uint32?, (·.database.maxConnections)⟩,
  ⟨"database", "connect_timeout_secs", treeFormat.uint64?, (·.database.connectTimeoutSecs)⟩,
  ⟨"database", "idle_timeout_secs", treeFormat.uint64?, (·.database.idleTimeoutSecs)⟩,
  ⟨"database", "log_queries", treeFormat.flag?, (·.database.logQueries)⟩]

def telemetryKeys : List Key := [
  ⟨"telemetry", "filter", treeFormat.text?, (·.telemetry.filter)⟩,
  ⟨"telemetry", "json", treeFormat.flag?, (·.telemetry.json)⟩,
  ⟨"telemetry", "with_target", treeFormat.flag?, (·.telemetry.withTarget)⟩]

/-- All keys but the name of the environment. -/
def keys : List Key :=
  appKeys ++ databaseKeys ++ telemetryKeys

theorem read_named_eq_some_iff {α β : Type} {es : List (String × α)} {key : String} {index : Nat}
    {read : α → Option β} {default v : β} :
    (Members.named es).read key index read default = some v ↔
      ReadAs read default (es.lookup key) v := by
  simp only [Members.read, Members.get?, ReadAs]
  cases es.lookup key with
  | none => simp [eq_comm]
  | some node => rfl

section Sections
variable {kvs es : List (String × Tree)} {layer : Layer} {s : Settings}

theorem app?_eq_some_iff {a : AppSettings} :
    treeFormat.app? (.table kvs) = some a ↔
      (∃ t, kvs.lookup "name" = some t ∧ treeFormat.text? t = some a.name) ∧
      (∃ t, kvs.lookup "environment" = some t ∧ treeFormat.text? t = some a.environment) := by
  have hmembers : treeFormat.members? 2 (.table kvs) = some (.named kvs) := rfl
  simp only [Format.app?, hmembers, Members.get?, Option.bind_eq_bind, Option.bind_some,
    Option.bind_eq_some_iff]
  constructor
  · rintro ⟨tname, htname, name, hname, tenvironment, htenvironment, environment, henvironment, h⟩
    obtain rfl := Option.some.inj h
    exact ⟨⟨tname, htname, hname⟩, tenvironment, htenvironment, henvironment⟩
  · rintro ⟨⟨tname, htname, hname⟩, tenvironment, htenvironment, henvironment⟩
    exact ⟨tname, htname, _, hname, tenvironment, htenvironment, _, henvironment, rfl⟩

theorem database?_eq_some_iff :
    treeFormat.database? (.table kvs) = some s.database ↔
      ∀ key ∈ databaseKeys, key.Follows (kvs.lookup key.name) s := by
  have hmembers : treeFormat.members? 6 (.table kvs) = some (.named kvs) := rfl
  simp only [Format.database?, hmembers, Option.bind_eq_bind, Option.bind_some,
    Option.bind_eq_some_iff, read_named_eq_some_iff, databaseKeys, List.forall_mem_cons,
    Key.Follows]
  constructor
  · rintro ⟨url, hurl, min, hmin, max, hmax, connect, hconnect, idle, hidle, log, hlog, h⟩
    rw [← Option.some.inj h]
    exact ⟨hurl, hmin, hmax, hconnect, hidle, hlog, by simp⟩
  · rintro ⟨hurl, hmin, hmax, hconnect, hidle, hlog, -⟩
    exact ⟨_, hurl, _, hmin, _, hmax, _, hconnect, _, hidle, _, hlog, rfl⟩

theorem telemetry?_eq_some_iff :
    treeFormat.telemetry? (.table kvs) = some s.telemetry ↔
      ∀ key ∈ telemetryKeys, key.Follows (kvs.lookup key.name) s := by
  have hmembers : treeFormat.members? 3 (.table kvs) = some (.named kvs) := rfl
  simp only [Format.telemetry?, hmembers, Option.bind_eq_bind, Option.bind_some,
    Option.bind_eq_some_iff, read_named_eq_some_iff, telemetryKeys, List.forall_mem_cons,
    Key.Follows]
  constructor
  · rintro ⟨filter, hfilter, json, hjson, withTarget, hwithTarget, h⟩
    rw [← Option.some.inj h]
    exact ⟨hfilter, hjson, hwithTarget, by simp⟩
  · rintro ⟨hfilter, hjson, hwithTarget, -⟩
    exact ⟨_, hfilter, _, hjson, _, hwithTarget, rfl⟩

theorem settings?_eq_some_iff :
    treeFormat.settings? (.table es) = some s ↔
      ReadAs treeFormat.app? {} (es.lookup "app") s.app ∧
      ReadAs treeFormat.database? {} (es.lookup "database") s.database ∧
      ReadAs treeFormat.telemetry? {} (es.lookup "telemetry") s.telemetry := by
  have hmembers : treeFormat.members? 3 (.table es) = some (.named es) := rfl
  simp only [Format.settings?, hmembers, Option.bind_eq_bind, Option.bind_some,
    Option.bind_eq_some_iff, read_named_eq_some_iff]
  constructor
  · rintro ⟨app, happ, database, hdatabase, telemetry, htelemetry, h⟩
    obtain rfl := Option.some.inj h
    exact ⟨happ, hdatabase, htelemetry⟩
  · rintro ⟨happ, hdatabase, htelemetry⟩
    exact ⟨_, happ, _, hdatabase, _, htelemetry, rfl⟩

/-- What is said of the section `app`: both of its keys if any source names it, and else nothing. -/
def AppFollows (layer : Layer) (a : AppSettings) : Prop :=
  (¬ layer.Names "app" ∧ a = {}) ∨
    (∃ t, layer.value? "app" "name" = some t ∧ treeFormat.text? t = some a.name) ∧
    (∃ t, layer.value? "app" "environment" = some t ∧ treeFormat.text? t = some a.environment)

theorem app_follows_iff (h : layer.HeldBy es) {a : AppSettings} :
    ReadAs treeFormat.app? {} (es.lookup "app") a ↔ AppFollows layer a := by
  rcases h "app" (by decide) with ⟨hnone, hnames⟩ | ⟨kvs, hkvs, hnames, hvalues⟩
  · have hvalue := Layer.value?_eq_none_of_not_names hnames
    simp [ReadAs, AppFollows, hnone, hnames, hvalue]
  · simp only [ReadAs, AppFollows, hkvs, hnames, not_true_eq_false, false_and, false_or,
      app?_eq_some_iff, hvalues]

/-- The keys of a section follow the layer exactly if they follow the table that holds it, or all
have their defaults where no table does. -/
theorem follows_iff {α : Type} {part : String} {ks : List Key} {read : Tree → Option α}
    {default v : α} (h : layer.HeldBy es) (hpart : part ∈ sections)
    (hks : ∀ key ∈ ks, key.part = part)
    (htable : ∀ kvs, read (.table kvs) = some v ↔ ∀ key ∈ ks, key.Follows (kvs.lookup key.name) s)
    (hdefault : v = default ↔ ∀ key ∈ ks, key.get s = key.get {}) :
    ReadAs read default (es.lookup part) v ↔
      ∀ key ∈ ks, key.Follows (layer.value? key.part key.name) s := by
  rcases h part hpart with ⟨hnone, hnames⟩ | ⟨kvs, hkvs, -, hvalues⟩
  · rw [hnone]
    refine hdefault.trans (forall₂_congr fun key hkey => ?_)
    rw [hks key hkey, Layer.value?_eq_none_of_not_names hnames]
    rfl
  · rw [hkvs]
    refine (htable kvs).trans (forall₂_congr fun key hkey => ?_)
    rw [hks key hkey, hvalues]

theorem database_follows_iff (h : layer.HeldBy es) :
    ReadAs treeFormat.database? {} (es.lookup "database") s.database ↔
      ∀ key ∈ databaseKeys, key.Follows (layer.value? key.part key.name) s := by
  refine follows_iff h (by decide) (by simp [databaseKeys]) (fun _ => database?_eq_some_iff) ?_
  obtain ⟨app, ⟨url, min, max, connect, idle, log⟩, telemetry⟩ := s
  simp [databaseKeys]

theorem telemetry_follows_iff (h : layer.HeldBy es) :
    ReadAs treeFormat.telemetry? {} (es.lookup "telemetry") s.telemetry ↔
      ∀ key ∈ telemetryKeys, key.Follows (layer.value? key.part key.name) s := by
  refine follows_iff h (by decide) (by simp [telemetryKeys]) (fun _ => telemetry?_eq_some_iff) ?_
  obtain ⟨app, database, ⟨filter, json, withTarget⟩⟩ := s
  simp [telemetryKeys]

theorem settings?_merge_eq_some_iff {layers : List Layer}
    (hplain : ∀ layer ∈ layers, layer.Plain) :
    treeFormat.settings? (Layer.merge layers) = some s ↔
      AppFollows layers.flatten s.app ∧
      ∀ key ∈ databaseKeys ++ telemetryKeys,
        key.Follows (Layer.value? layers.flatten key.part key.name) s := by
  obtain ⟨es, hmerge, hheld⟩ := Layer.merge_heldBy hplain
  rw [hmerge, settings?_eq_some_iff, app_follows_iff hheld, database_follows_iff hheld,
    telemetry_follows_iff hheld, List.forall_mem_append]

end Sections

/-! ## Sources -/

/-- What a file sets; nothing if it is missing or cannot be read. -/
def Sources.contents (sources : Sources) (file : String) : Layer :=
  ((sources.file? file).bind fileLayer).getD []

def Sources.entries (sources : Sources) (files : List String) : Layer :=
  files.flatMap sources.contents ++ sources.vars.layer

/-- The files that are there can be read, and like the variables they say nothing of a section but
what scalars its keys have. -/
structure Sources.Plain (sources : Sources) (files : List String) : Prop where
  readable : ∀ file ∈ files, ∀ text, sources.file? file = some text → (fileLayer text).isSome = true
  contents : ∀ file ∈ files, (sources.contents file).Plain
  vars : sources.vars.layer.Plain

section Loading
variable {sources : Sources} {files : List String} {environment : String} {s : Settings}

/-- Settings load if they are read with any name of the environment and then are valid. -/
theorem loadFiles_eq_ok_iff_read :
    loadFiles sources files environment = .ok s ↔
      ∃ own, ((layers sources files).bind fun ls => treeFormat.settings? (Layer.merge ls))
          = some { s with app := { s.app with environment := own } } ∧
        s.app.environment = environment ∧ s.Valid := by
  rw [loadFiles]
  cases hread : (layers sources files).bind fun ls => treeFormat.settings? (Layer.merge ls) with
  | none => simp
  | some t =>
    obtain ⟨⟨name, own⟩, database, telemetry⟩ := t
    simp only [← fault?_eq_none_iff]
    constructor
    · intro h
      cases hfault : fault? ⟨⟨name, environment⟩, database, telemetry⟩ with
      | some f => simp [hfault] at h
      | none =>
        obtain rfl : (⟨⟨name, environment⟩, database, telemetry⟩ : Settings) = s := by
          simpa [hfault] using h
        exact ⟨own, rfl, rfl, hfault⟩
    · rintro ⟨own', ht, rfl, hvalid⟩
      obtain ⟨⟨name', environment⟩, database', telemetry'⟩ := s
      cases ht
      simp only [hvalid]

theorem mapM_fileLayer (h : sources.Plain files) :
    ∃ ls, (files.filterMap sources.file?).mapM fileLayer = some ls ∧
      (∀ layer ∈ ls, layer.Plain) ∧ ls.flatten = files.flatMap sources.contents := by
  induction files with
  | nil => exact ⟨[], rfl, by simp, rfl⟩
  | cons file files ih =>
    obtain ⟨hread, hreads⟩ := List.forall_mem_cons.1 h.readable
    obtain ⟨hcontents, hrest⟩ := List.forall_mem_cons.1 h.contents
    obtain ⟨ls, hls, hplain, hflat⟩ := ih ⟨hreads, hrest, h.vars⟩
    cases hfile : sources.file? file with
    | none =>
      have hnothing : sources.contents file = [] := by simp [Sources.contents, hfile]
      refine ⟨ls, ?_, hplain, ?_⟩
      · rw [List.filterMap_cons_none hfile, hls]
      · rw [List.flatMap_cons, hnothing, hflat]
        rfl
    | some text =>
      obtain ⟨layer, hlayer⟩ := Option.isSome_iff_exists.1 (hread text hfile)
      have hsets : sources.contents file = layer := by simp [Sources.contents, hfile, hlayer]
      refine ⟨layer :: ls, ?_, ?_, ?_⟩
      · rw [List.filterMap_cons_some hfile, List.mapM_cons, hlayer, hls]
        rfl
      · rw [List.forall_mem_cons, ← hsets]
        exact ⟨hcontents, hplain⟩
      · rw [List.flatMap_cons, List.flatten_cons, hsets, hflat]

theorem layers_eq_some (h : sources.Plain files) :
    ∃ ls, layers sources files = some ls ∧ (∀ layer ∈ ls, layer.Plain) ∧
      ls.flatten = sources.entries files := by
  obtain ⟨ls, hls, hplain, hflat⟩ := mapM_fileLayer h
  refine ⟨ls ++ [sources.vars.layer], ?_, ?_, ?_⟩
  · rw [layers, hls]
    rfl
  · rw [List.forall_mem_append]
    exact ⟨hplain, by simpa using h.vars⟩
  · rw [List.flatten_append, hflat, Sources.entries]
    simp

/-- Sources that set the same trees, and name the section `app` or not, load alike. -/
theorem loadFiles_congr {sources' : Sources} {files' : List String} (h : sources.Plain files)
    (h' : sources'.Plain files')
    (hvalues : ∀ part key,
      (sources.entries files).value? part key = (sources'.entries files').value? part key)
    (hnames : (sources.entries files).Names "app" ↔ (sources'.entries files').Names "app") :
    loadFiles sources files environment = loadFiles sources' files' environment := by
  obtain ⟨ls, hls, hplain, hflat⟩ := layers_eq_some h
  obtain ⟨ls', hls', hplain', hflat'⟩ := layers_eq_some h'
  have hsettings : treeFormat.settings? (Layer.merge ls) = treeFormat.settings? (Layer.merge ls') := by
    ext s
    simp only [settings?_merge_eq_some_iff hplain, settings?_merge_eq_some_iff hplain', hflat,
      hflat', hvalues, AppFollows, hnames]
  simp only [loadFiles, hls, hls', Option.bind_some, hsettings]

/-- The section `app` is complete: no source names it, or both of its keys are set, that of the
environment to something that reads as a text. -/
def AppComplete (layer : Layer) : Prop :=
  ¬ layer.Names "app" ∨ (layer.value? "app" "name").isSome = true ∧
    ∃ t environment, layer.value? "app" "environment" = some t ∧
      treeFormat.text? t = some environment

theorem exists_appFollows_iff {layer : Layer} :
    (∃ own, AppFollows layer { s.app with environment := own }) ↔
      (∀ key ∈ appKeys, key.Follows (layer.value? key.part key.name) s) ∧ AppComplete layer := by
  simp only [appKeys, List.forall_mem_cons, List.not_mem_nil, false_implies, implies_true, and_true,
    Key.Follows, ReadAs]
  by_cases hnames : layer.Names "app"
  · simp only [AppFollows, AppComplete, hnames, not_true_eq_false, false_and, false_or]
    cases hname : layer.value? "app" "name" with
    | none => simp
    | some t =>
      constructor
      · rintro ⟨own, ⟨t', ht', hread⟩, u, hu, hown⟩
        obtain rfl := Option.some.inj ht'
        exact ⟨hread, rfl, u, own, hu, hown⟩
      · rintro ⟨hread, -, u, own, hu, hown⟩
        exact ⟨own, ⟨t, rfl, hread⟩, u, hu, hown⟩
  · have hvalue := Layer.value?_eq_none_of_not_names hnames
    obtain ⟨⟨name, own⟩, database, telemetry⟩ := s
    simp [AppFollows, AppComplete, hnames, hvalue]

/-- The other sections do not depend on the name of the environment. -/
theorem follows_rest_iff (own : String) (tree? : Key → Option Tree) :
    (∀ key ∈ databaseKeys ++ telemetryKeys,
      key.Follows (tree? key) { s with app := { s.app with environment := own } }) ↔
    ∀ key ∈ databaseKeys ++ telemetryKeys, key.Follows (tree? key) s := by
  simp [databaseKeys, telemetryKeys, Key.Follows]

/-- What loads from plain sources, and when. -/
theorem loadFiles_eq_ok_iff (h : sources.Plain files) :
    loadFiles sources files environment = .ok s ↔
      s.app.environment = environment ∧
      (∀ key ∈ keys, key.Follows ((sources.entries files).value? key.part key.name) s) ∧
      AppComplete (sources.entries files) ∧ s.Valid := by
  obtain ⟨ls, hls, hplain, hflat⟩ := layers_eq_some h
  rw [loadFiles_eq_ok_iff_read, hls, keys, List.append_assoc, List.forall_mem_append]
  simp only [Option.bind_some, settings?_merge_eq_some_iff hplain, hflat, follows_rest_iff]
  constructor
  · rintro ⟨own, ⟨happ, hrest⟩, henvironment, hvalid⟩
    obtain ⟨hname, hcomplete⟩ := exists_appFollows_iff.1 ⟨own, happ⟩
    exact ⟨henvironment, ⟨hname, hrest⟩, hcomplete, hvalid⟩
  · rintro ⟨henvironment, ⟨hname, hrest⟩, hcomplete, hvalid⟩
    obtain ⟨own, happ⟩ := exists_appFollows_iff.2 ⟨hname, hcomplete⟩
    exact ⟨own, ⟨happ, hrest⟩, henvironment, hvalid⟩

end Loading

theorem fileNames_test : fileNames "test" = ["default.toml", "test.toml", "local.toml"] := by
  decide

namespace Shop

def sources : Sources where
  file?
    | "default.toml" => some "[database]\nurl = \"d\"\nmax_connections = 4\n"
    | "test.toml" => some "[database]\nurl = \"t\"\n[telemetry]\njson = true\n"
    | _ => none
  vars := [("TABULA__DATABASE__MAX_CONNECTIONS", "7")]

def loaded : Settings where
  app := { environment := "test" }
  database := { url := "t", maxConnections := 7 }
  telemetry := { json := true }

theorem load_test : load sources "test" = .ok loaded := by
  have hlayers : layers sources (fileNames "test") = some [
      [("database", .table [("url", .text "d"), ("max_connections", .int 4)])],
      [("database", .table [("url", .text "t")]), ("telemetry", .table [("json", .bool true)])],
      [("database.max_connections", .int 7)]] := by
    rw [fileNames_test]
    cbv
  have hread : treeFormat.settings? (Layer.merge [
      [("database", .table [("url", .text "d"), ("max_connections", .int 4)])],
      [("database", .table [("url", .text "t")]), ("telemetry", .table [("json", .bool true)])],
      [("database.max_connections", .int 7)]])
      = some { loaded with app := {} } := by
    cbv
  rw [load, loadFiles, hlayers, Option.bind_some, hread]
  rfl

end Shop
end DataMapper.Settings
