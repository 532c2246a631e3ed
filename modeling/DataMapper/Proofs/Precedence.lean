import DataMapper.Proofs.Loading

/-! # The last source counts

Every key of loaded settings comes from the last source that sets it: the
variables, the local file, the file of the environment and the default file, in
this order. A key that no source sets has its default. What an earlier source
says of a key that a later one sets makes no difference, and neither does
reading a file twice. A file that has nothing before its extension is the file
of no environment.
-/
namespace DataMapper.Settings

namespace Sources

def ofEnvironment (sources : Sources) (environment : String) : Layer :=
  ((fileOfName? environment).map sources.contents).getD []

/-- The tree for a key of a section in the last source that sets one. -/
def lastValue? (sources : Sources) (environment part key : String) : Option Tree :=
  sources.vars.layer.value? part key <|>
  (sources.contents "local.toml").value? part key <|>
  (sources.ofEnvironment environment).value? part key <|>
  (sources.contents "default.toml").value? part key

/-- The sources differ in one file, and there in one key of one section. -/
structure EditedAt (a b : Sources) (file part key : String) : Prop where
  vars : a.vars = b.vars
  files : ∀ other, other ≠ file → a.file? other = b.file? other
  values : ∀ p k, (p, k) ≠ (part, key) →
    (a.contents file).value? p k = (b.contents file).value? p k
  names : ∀ p, p ≠ part → ((a.contents file).Names p ↔ (b.contents file).Names p)

def SetsAfter (sources : Sources) (environment file part key : String) : Prop :=
  ∃ before after, fileNames environment = before ++ after ∧ file ∉ after ∧
    ((sources.entries after).value? part key).isSome = true

end Sources

/-! ## Files of an environment -/

/-- A name whose last part is empty has no file, as nothing would stand before the extension. -/
theorem fileOfName?_of_splitAt {name stem : String} {folders : List String}
    (h : Text.splitAt '/' (name ++ ".toml") = folders ++ [stem ++ ".toml"]) :
    fileOfName? name = if stem = "" then none
      else some ("/".intercalate
        (folders.filter (fun part => part ≠ "" ∧ part ≠ ".") ++ [stem ++ ".toml"])) := by
  have hne (s : String) (hs : s.toList.length < 5) : stem ++ ".toml" ≠ s := by
    rintro rfl
    rw [String.toList_append, List.length_append] at hs
    have hextension : (".toml" : String).toList.length = 5 := by decide
    omega
  have hparts : pathParts (name ++ ".toml")
      = folders.filter (fun part => part ≠ "" ∧ part ≠ ".") ++ [stem ++ ".toml"] := by
    rw [pathParts, h, List.filter_append]
    simp [hne "" (by decide), hne "." (by decide)]
  have hstem : stem ++ ".toml" = ".toml" ↔ stem = "" := by
    rw [← String.toList_inj, String.toList_append, List.append_left_eq_self, String.toList_eq_nil_iff]
  rw [fileOfName?, hparts, List.getLast?_concat]
  simp only [Option.some.injEq, hstem]

theorem splitAt_of_not_mem {name : String} (h : '/' ∉ name.toList) :
    Text.splitAt '/' (name ++ ".toml") = [name ++ ".toml"] := by
  have hslash : '/' ∉ (name ++ ".toml").toList := by
    rw [String.toList_append, List.mem_append, not_or]
    exact ⟨h, by decide⟩
  rw [Text.splitAt, Text.splitChars_of_not_mem hslash]
  simp

/-- An environment without a directory in its name has the file of its name. -/
theorem fileOfName?_of_not_mem {environment : String} (hempty : environment ≠ "")
    (hflat : '/' ∉ environment.toList) :
    fileOfName? environment = some (environment ++ ".toml") := by
  have hsplit : Text.splitAt '/' (environment ++ ".toml") = [] ++ [environment ++ ".toml"] :=
    splitAt_of_not_mem hflat
  rw [fileOfName?_of_splitAt hsplit, if_neg hempty]
  exact congrArg some String.intercalate_singleton

/-- The environments without a file. -/
theorem fileOfName?_eq_none_iff {environment : String} :
    fileOfName? environment = none ↔
      environment = "" ∨ environment.toList.getLast? = some '/' := by
  by_cases hflat : '/' ∈ environment.toList
  · obtain ⟨after, before, hreverse, hafter⟩ :=
      List.eq_append_cons_of_mem (List.mem_reverse.2 hflat)
    have hname : environment.toList = before.reverse ++ '/' :: after.reverse := by
      rw [← List.reverse_reverse environment.toList, hreverse]
      simp
    have hsplit : Text.splitAt '/' (environment ++ ".toml")
        = (Text.splitChars '/' before.reverse).map String.ofList
          ++ [String.ofList after.reverse ++ ".toml"] := by
      have hrest : '/' ∉ after.reverse ++ ".toml".toList := by
        rw [List.mem_append, List.mem_reverse, not_or]
        exact ⟨hafter, by decide⟩
      rw [Text.splitAt, String.toList_append, hname, List.append_assoc, List.cons_append,
        Text.splitChars_append, Text.splitChars_of_not_mem hrest, List.map_append]
      simp
    have hne : environment ≠ "" := by
      rintro rfl
      cases hflat
    rw [fileOfName?_of_splitAt hsplit, hname, List.getLast?_append, List.getLast?_cons]
    cases after with
    | nil => simp [hne]
    | cons c after =>
      have hc : c ≠ '/' := fun hc => hafter (hc ▸ List.mem_cons_self)
      simp [hne, hc]
  · have hsplit : Text.splitAt '/' (environment ++ ".toml") = [] ++ [environment ++ ".toml"] :=
      splitAt_of_not_mem hflat
    have hlast : environment.toList.getLast? ≠ some '/' :=
      fun h => hflat (List.mem_of_getLast? h)
    rw [fileOfName?_of_splitAt hsplit]
    simp [hlast]

theorem fileOfName?_default : fileOfName? "default" = some "default.toml" :=
  fileOfName?_of_not_mem (by decide) (by decide)

theorem fileOfName?_local : fileOfName? "local" = some "local.toml" :=
  fileOfName?_of_not_mem (by decide) (by decide)

theorem fileNames_default :
    fileNames "default" = ["default.toml", "default.toml", "local.toml"] := by
  simp [fileNames, fileOfName?_default, fileOfName?_local]

theorem fileNames_local : fileNames "local" = ["default.toml", "local.toml", "local.toml"] := by
  simp [fileNames, fileOfName?_default, fileOfName?_local]

namespace Sources

theorem entries_fileNames (sources : Sources) (environment : String) :
    sources.entries (fileNames environment) =
      sources.contents "default.toml" ++ sources.ofEnvironment environment ++
        sources.contents "local.toml" ++ sources.vars.layer := by
  rw [entries, fileNames, ofEnvironment, List.filterMap_cons_some fileOfName?_default]
  cases henvironment : fileOfName? environment with
  | none => simp [henvironment, fileOfName?_local]
  | some file => simp [henvironment, fileOfName?_local]

theorem value?_entries_fileNames (sources : Sources) (environment part key : String) :
    (sources.entries (fileNames environment)).value? part key =
      sources.lastValue? environment part key := by
  simp only [entries_fileNames, Layer.value?_append, lastValue?, Option.orElse_eq_orElse,
    Option.orElse_eq_or]

end Sources

/-! ## Edits below a later source -/

namespace Layer

theorem value?_flatMap_congr {files : List String} {f g : String → Layer} {part key : String}
    (h : ∀ file ∈ files, (f file).value? part key = (g file).value? part key) :
    Layer.value? (files.flatMap f) part key = Layer.value? (files.flatMap g) part key := by
  induction files with
  | nil => rfl
  | cons file files ih =>
    obtain ⟨hfile, hfiles⟩ := List.forall_mem_cons.1 h
    rw [List.flatMap_cons, List.flatMap_cons, value?_append, value?_append, hfile, ih hfiles]

theorem names_flatMap_congr {files : List String} {f g : String → Layer} {part : String}
    (h : ∀ file ∈ files, ((f file).Names part ↔ (g file).Names part)) :
    Names (files.flatMap f) part ↔ Names (files.flatMap g) part := by
  induction files with
  | nil => rfl
  | cons file files ih =>
    obtain ⟨hfile, hfiles⟩ := List.forall_mem_cons.1 h
    rw [List.flatMap_cons, List.flatMap_cons, names_append, names_append, hfile, ih hfiles]

end Layer

namespace Sources.EditedAt
variable {a b : Sources} {environment file part key : String} {before after : List String}

theorem contents_eq (h : a.EditedAt b file part key) {other : String} (hother : other ≠ file) :
    a.contents other = b.contents other := by
  rw [contents, contents, h.files other hother]

theorem entries_after (h : a.EditedAt b file part key) (hafter : file ∉ after) :
    a.entries after = b.entries after := by
  have hcontents : after.map a.contents = after.map b.contents := by
    refine List.map_congr_left fun other hother => h.contents_eq ?_
    rintro rfl
    exact hafter hother
  rw [entries, entries, List.flatMap_def, List.flatMap_def, hcontents, h.vars]

theorem entries_append (sources : Sources) (before after : List String) :
    sources.entries (before ++ after) = before.flatMap sources.contents ++ sources.entries after := by
  rw [entries, entries, List.flatMap_append, List.append_assoc]

/-- A key that is set after the edited file has its value from there, and every other key the value
that the edit left alone. -/
theorem value?_entries (h : a.EditedAt b file part key) (hafter : file ∉ after)
    (hset : ((a.entries after).value? part key).isSome = true) (p k : String) :
    (a.entries (before ++ after)).value? p k = (b.entries (before ++ after)).value? p k := by
  rw [entries_append, entries_append, Layer.value?_append, Layer.value?_append,
    h.entries_after hafter]
  by_cases hpk : (p, k) = (part, key)
  · obtain ⟨rfl, rfl⟩ := Prod.mk.inj hpk
    rw [h.entries_after hafter] at hset
    obtain ⟨t, ht⟩ := Option.isSome_iff_exists.1 hset
    rw [ht]
    rfl
  · congr 1
    refine Layer.value?_flatMap_congr fun other _ => ?_
    by_cases hother : other = file
    · rw [hother]
      exact h.values p k hpk
    · rw [h.contents_eq hother]

theorem names_entries (h : a.EditedAt b file part key) (hafter : file ∉ after)
    (hset : ((a.entries after).value? part key).isSome = true) (p : String) :
    (a.entries (before ++ after)).Names p ↔ (b.entries (before ++ after)).Names p := by
  rw [entries_append, entries_append, Layer.names_append, Layer.names_append,
    ← h.entries_after hafter]
  by_cases hp : p = part
  · rw [hp]
    simp only [Layer.names_of_value? hset, or_true]
  · refine or_congr_left (Layer.names_flatMap_congr fun other _ => ?_)
    by_cases hother : other = file
    · rw [hother]
      exact h.names p hp
    · rw [h.contents_eq hother]

end Sources.EditedAt

/-! ## The order of the sources -/

structure LastCounts (sources : Sources) (environment : String) : Prop where
  /-- An environment has a file unless nothing of its name would stand before the extension, -/
  nameless : fileOfName? environment = none ↔
    environment = "" ∨ environment.toList.getLast? = some '/'
  /-- and the file has its name. -/
  file : environment ≠ "" → '/' ∉ environment.toList →
    fileOfName? environment = some (environment ++ ".toml")
  /-- Loaded settings name the environment that they were loaded for, -/
  ownName : ∀ s, load sources environment = .ok s → s.app.environment = environment
  /-- and for every other key they have what the last source sets. -/
  last : ∀ s, load sources environment = .ok s → ∀ key ∈ keys,
    key.Follows (sources.lastValue? environment key.part key.name) s
  /-- An edit of a key that a later source sets changes nothing. -/
  edited : ∀ sources' file part key, sources'.Plain (fileNames environment) →
    sources.EditedAt sources' file part key → sources.SetsAfter environment file part key →
      load sources' environment = load sources environment
  /-- The environments that are named like the other files load like these two files. -/
  once : environment = "default" ∨ environment = "local" →
    load sources environment = loadFiles sources ["default.toml", "local.toml"] environment

theorem lastCounts {sources : Sources} {environment : String}
    (h : sources.Plain (fileNames environment)) : LastCounts sources environment := by
  constructor
  case nameless => exact fileOfName?_eq_none_iff
  case file => exact fileOfName?_of_not_mem
  case ownName =>
    intro s hs
    exact ((loadFiles_eq_ok_iff h).1 hs).1
  case last =>
    intro s hs key hkey
    rw [← sources.value?_entries_fileNames]
    exact ((loadFiles_eq_ok_iff h).1 hs).2.1 key hkey
  case edited =>
    rintro sources' file part key h' hedited ⟨before, after, hfiles, hafter, hset⟩
    rw [load, load, hfiles]
    rw [hfiles] at h h'
    refine (loadFiles_congr h h' ?_ ?_).symm
    · exact hedited.value?_entries hafter hset
    · exact hedited.names_entries hafter hset "app"
  case once =>
    intro henvironment
    have hsub : ∀ file ∈ ["default.toml", "local.toml"], file ∈ fileNames environment := by
      rcases henvironment with rfl | rfl
      · simp [fileNames_default]
      · simp [fileNames_local]
    have honce : sources.Plain ["default.toml", "local.toml"] :=
      ⟨fun file hfile => h.readable file (hsub file hfile),
        fun file hfile => h.contents file (hsub file hfile), h.vars⟩
    refine loadFiles_congr h honce ?_ ?_
    · intro part key
      rcases henvironment with rfl | rfl
      · rw [fileNames_default]
        simp only [Sources.entries, List.flatMap_cons, List.flatMap_nil, List.append_nil,
          Layer.value?_append, Option.or_assoc, Option.or_self]
      · rw [fileNames_local]
        simp only [Sources.entries, List.flatMap_cons, List.flatMap_nil, List.append_nil,
          Layer.value?_append, ← Option.or_assoc, Option.or_self]
    · rcases henvironment with rfl | rfl
      · simp [fileNames_default, Sources.entries, Layer.names_append]
      · simp [fileNames_local, Sources.entries, Layer.names_append]

namespace Shop

theorem contents_default : sources.contents "default.toml"
    = [("database", .table [("url", .text "d"), ("max_connections", .int 4)])] := by
  cbv

theorem contents_test : sources.contents "test.toml"
    = [("database", .table [("url", .text "t")]), ("telemetry", .table [("json", .bool true)])] := by
  cbv

theorem contents_local : sources.contents "local.toml" = [] := by
  cbv

theorem layer_vars : sources.vars.layer = [("database.max_connections", .int 7)] := by
  cbv

theorem plain : sources.Plain (fileNames "test") := by
  rw [fileNames_test]
  refine ⟨?_, ?_, ?_⟩
  · simp only [List.forall_mem_cons]
    refine ⟨?_, ?_, ?_, by simp⟩
    · rintro text ⟨⟩
      cbv
    · rintro text ⟨⟩
      cbv
    · rintro text ⟨⟩
  · simp only [List.forall_mem_cons, contents_default, contents_test, contents_local]
    decide
  · rw [layer_vars]
    decide

theorem lastCounts_test :
    load sources "test" = .ok loaded ∧
    ∀ key ∈ keys, key.Follows (sources.lastValue? "test" key.part key.name) loaded :=
  ⟨load_test, (lastCounts plain).last loaded load_test⟩

end Shop

namespace Nameless

def sources : Sources where
  file? file := if file = ".toml" then some "[database]\nurl = \"x\"\n" else none
  vars := []

/-- The file of the empty environment name sets the URL, but the URL that loads is the default. -/
theorem load_nameless :
    (sources.contents ("" ++ ".toml")).value? "database" "url" = some (.text "x") ∧
    sources.contents "local.toml" = [] ∧ sources.vars = [] ∧
    load sources "" = .ok { app := { environment := "" } } := by
  have hcontents : sources.contents ("" ++ ".toml")
      = [("database", .table [("url", .text "x")])] := by
    cbv
  have hfiles : fileNames "" = ["default.toml", "local.toml"] := by decide
  refine ⟨?_, rfl, rfl, ?_⟩
  · rw [hcontents]
    rfl
  · rw [load, hfiles]
    rfl

end Nameless
end DataMapper.Settings
