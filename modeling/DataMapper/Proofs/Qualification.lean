import DataMapper.Proofs.Derivation

/-! # Select lists under a qualifier

A select list names the columns in their order. Asked for under a qualifier, it
puts the qualifier and a dot before every name, and nothing for a blank one.
The list under the name of the table is put together once and has the dots in
any case. So the two are one list exactly if the table has a name that is not
blank, which nothing checks that builds a descriptor.
-/
namespace DataMapper

namespace Text

/-- Longer texts make a longer list. -/
theorem length_intercalate_map_lt (separator : String) {longer : String → String}
    (hlonger : ∀ text, text.length < (longer text).length) {texts : List String}
    (hne : texts ≠ []) :
    (separator.intercalate texts).length < (separator.intercalate (texts.map longer)).length := by
  induction texts with
  | nil => exact absurd rfl hne
  | cons text texts ih =>
    have hhead := hlonger text
    cases texts with
    | nil =>
      rw [List.map_singleton, String.intercalate_singleton, String.intercalate_singleton]
      exact hhead
    | cons next texts =>
      have htail := ih (List.cons_ne_nil next texts)
      rw [List.map_cons] at htail
      rw [List.map_cons, List.map_cons, String.intercalate_cons_cons, String.intercalate_cons_cons]
      simp only [String.length_append]
      omega

end Text

namespace Descriptor
variable {E : EntityType} (d : Descriptor E)

/-- What a select list holds for a column: its name alone under a blank qualifier, and under any
other the name behind the qualifier and a dot. -/
inductive Entry (qualifier name : String) : String → Prop
  | bare (h : Text.isBlank qualifier = true) : Entry qualifier name name
  | qualified (h : Text.isBlank qualifier = false) :
      Entry qualifier name (qualifier ++ "." ++ name)

theorem columnNames_ne_nil : d.columnNames ≠ [] := by
  have hid : d.idColumn.name ∈ d.columnNames := List.mem_map_of_mem d.idColumn_mem.1
  exact List.ne_nil_of_mem hid

/-- A qualifier and a dot show, whatever the qualifier is. -/
theorem qualifiedBy_ne_selectList (qualifier : String) :
    d.qualifiedBy qualifier ≠ d.selectList := by
  have hlonger : ∀ name : String, name.length < (qualifier ++ "." ++ name).length := by
    intro name
    have hdot : ".".length = 1 := rfl
    rw [String.length_append, String.length_append]
    omega
  have hlt := Text.length_intercalate_map_lt ", " hlonger d.columnNames_ne_nil
  intro heq
  rw [← qualifiedBy, ← selectList, heq] at hlt
  exact Nat.lt_irrefl _ hlt

theorem lists_selectListFor (qualifier : String) :
    ∃ entries, List.Forall₂ (Entry qualifier) (d.columns.map (·.name)) entries ∧
      Text.Lists ", " entries (d.selectListFor qualifier) := by
  cases hblank : Text.isBlank qualifier with
  | true =>
    refine ⟨d.columnNames, ?_, ?_⟩
    · rw [← columnNames, List.forall₂_same]
      exact fun name _ => .bare hblank
    · rw [selectListFor, if_pos hblank]
      exact Text.lists_intercalate ", " _
  | false =>
    refine ⟨d.columnNames.map fun name => qualifier ++ "." ++ name, ?_, ?_⟩
    · rw [← columnNames, List.forall₂_map_right_iff, List.forall₂_same]
      exact fun name _ => .qualified hblank
    · rw [selectListFor, hblank]
      exact Text.lists_intercalate ", " _

theorem tableSelectList_eq_iff :
    d.tableSelectList = d.selectListFor d.table ↔ Text.isBlank d.table = false := by
  unfold selectListFor
  cases Text.isBlank d.table with
  | true =>
    simp only [if_true, Bool.true_eq_false, iff_false]
    exact d.qualifiedBy_ne_selectList d.table
  | false =>
    simp only [Bool.false_eq_true, if_false, iff_true]
    rfl

/-- The list under the name of the table is the one asked for under that name exactly if the name
in effect, be it set, declared or made from the type name, is not blank; otherwise the first has an
entry `.column` and the second an entry `column` for each. Under any qualifier the list that is
asked for names the columns of the plain list in their order, each alone or behind a qualifier that
is not blank. -/
theorem selectLists_agree_iff {override? : Option String} (hd : build E override? = .ok d) :
    (d.tableSelectList = d.selectListFor d.table ↔
      Text.isBlank (tableName E override?) = false) ∧
    (Text.isBlank (tableName E override?) = true →
      d.selectListFor d.table = d.selectList ∧
      Text.Lists ", " (d.columns.map fun c => d.table ++ "." ++ c.name) d.tableSelectList) ∧
    Text.Lists ", " (d.columns.map (·.name)) d.selectList ∧
    ∀ qualifier, ∃ entries,
      List.Forall₂ (Entry qualifier) (d.columns.map (·.name)) entries ∧
      Text.Lists ", " entries (d.selectListFor qualifier) := by
  have htable : d.table = tableName E override? := build_eq_ok_iff.1 hd
  have hlists := d.describes
  rw [← htable]
  refine ⟨d.tableSelectList_eq_iff, ?_, hlists.selectList, d.lists_selectListFor⟩
  intro hblank
  refine ⟨?_, hlists.tableSelectList⟩
  rw [selectListFor, if_pos hblank]

end Descriptor

namespace Gauge

theorem selectLists_agree_gauge :
    Descriptor.build gauge none = .ok descriptor ∧
    descriptor.tableSelectList = descriptor.selectListFor "gauge" ∧
    descriptor.selectListFor "g" = "g.gauge_id, g.level, g.open, g.closed" ∧
    descriptor.selectListFor " " = "gauge_id, level, open, closed" := by
  have hbuild : Descriptor.build gauge none = .ok descriptor := rfl
  obtain ⟨hagree, -⟩ := Descriptor.selectLists_agree_iff descriptor hbuild
  exact ⟨hbuild, hagree.2 (by decide), by decide, by decide⟩

end Gauge

namespace BlankTable

def blankTable : EntityType where
  name := "BlankTable"
  table? := some ""
  fields := [
    { name := "id", type := .option .string },
    { name := "label", type := .string }]
  identifier r := r ⟨0, by decide⟩

def descriptor : Descriptor blankTable where
  table := ""
  idColumn := ⟨⟨0, by decide⟩, "blank_table_id", .string⟩
  filter_isId := by decide

/-- A descriptor is built, and the two lists for its table differ. -/
theorem selectLists_differ :
    Descriptor.build blankTable none = .ok descriptor ∧
    descriptor.tableSelectList = ".blank_table_id, .label" ∧
    descriptor.selectListFor descriptor.table = "blank_table_id, label" ∧
    descriptor.tableSelectList ≠ descriptor.selectListFor descriptor.table := by
  refine ⟨rfl, by decide, by decide, ?_⟩
  rw [ne_eq, descriptor.tableSelectList_eq_iff]
  decide

end BlankTable
end DataMapper
