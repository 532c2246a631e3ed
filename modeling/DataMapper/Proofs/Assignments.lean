import DataMapper.Proofs.Derivation
import DataMapper.Proofs.Lookup

/-! # What an update assigns

An update assigns the columns other than that of the identifier, each once and
in their order. How many these are is seen from the declared fields: the mapped
ones that are not named `id`. Without any, nothing stands between `SET` and
`WHERE`, and the text is no update of any columns.
-/
namespace DataMapper

namespace Text.Lists
variable {separator text : String} {texts : List String}

/-- A list of texts is as empty as what it lists. -/
theorem ne_empty (h : Lists separator texts text) (hne : texts ≠ [])
    (hall : ∀ t ∈ texts, t ≠ "") : text ≠ "" := by
  cases h with
  | nil => exact absurd rfl hne
  | single => exact hall text (List.mem_singleton_self text)
  | cons first =>
    intro hempty
    rw [String.append_assoc, String.append_eq_empty_iff] at hempty
    exact hall first List.mem_cons_self hempty.1

end Text.Lists

/-- `UPDATE t SET b=?,c=? WHERE k = ?` for at least one column. -/
structure Statement.Assigns (table key : String) (columns : List String) (sql : String) : Prop where
  nonempty : columns ≠ []
  text : ∃ clause, Text.Lists "," (columns.map (· ++ "=?")) clause ∧
    sql = "UPDATE " ++ table ++ " SET " ++ clause ++ " WHERE " ++ key ++ " = ?"

/-- How many of the mapped fields hold data and not the identifier. -/
def EntityType.assigned (E : EntityType) : Nat :=
  E.fields.countP fun f => f.isMapped && !f.isId

namespace Descriptor
variable {E : EntityType} (d : Descriptor E)

theorem length_updateColumns : d.updateColumns.length = E.assigned := by
  rw [updateColumns, List.length_map, dataColumns, ← List.countP_eq_length_filter]
  exact E.countP_columns fun f => !f.isId

theorem updateColumns_ne_nil_iff : d.updateColumns ≠ [] ↔ E.assigned ≠ 0 := by
  rw [← d.length_updateColumns, ne_eq, ne_eq, List.length_eq_zero_iff]

theorem sql_update (r : E.Rec) : (d.update r).sql
    = "UPDATE " ++ d.table ++ " SET " ++ d.setClause ++ " WHERE " ++ d.idColumn.name ++ " = ?" := by
  simp only [update, idMatches, String.append_assoc]

/-- Only one text can stand where the assignments of an update do. -/
theorem setClause_of_sql {r : E.Rec} {clause : String} (h : (d.update r).sql
    = "UPDATE " ++ d.table ++ " SET " ++ clause ++ " WHERE " ++ d.idColumn.name ++ " = ?") :
    d.setClause = clause := by
  rw [sql_update] at h
  simpa only [String.append_assoc, String.append_right_inj, String.append_left_inj] using h

theorem assigns_update (r : E.Rec) (h : E.assigned ≠ 0) :
    Statement.Assigns d.table d.idColumn.name d.updateColumns (d.update r).sql where
  nonempty := d.updateColumns_ne_nil_iff.2 h
  text := ⟨d.setClause, Text.lists_intercalate "," _, d.sql_update r⟩

theorem setClause_of_assigned_eq_zero (h : E.assigned = 0) : d.setClause = "" := by
  have hnone : d.updateColumns = [] := by
    rw [← List.length_eq_zero_iff, d.length_updateColumns, h]
  rw [setClause, hnone]
  rfl

theorem not_assigns_update (r : E.Rec) (h : E.assigned = 0) (columns : List String) :
    ¬ Statement.Assigns d.table d.idColumn.name columns (d.update r).sql := by
  rintro ⟨hne, clause, hlists, hsql⟩
  have hclause : clause = "" := by
    rw [← d.setClause_of_sql hsql, d.setClause_of_assigned_eq_zero h]
  refine hlists.ne_empty (by simpa using hne) ?_ hclause
  intro text htext
  obtain ⟨column, -, rfl⟩ := List.mem_map.1 htext
  simp [String.append_eq_empty_iff]

end Descriptor

namespace Dao
variable {E : EntityType} {σ : Type} (conn : Connection σ) (dao : Dao E) (slot : Slot E) (s : σ)
  {d : Descriptor E}

theorem calls_update (hd : (dao.resolve slot).1 = .ok d) {r : E.Rec}
    (hid : (E.identifier r).isSome) :
    dao.calls conn (.update r) slot s = [.execute (d.update r)] := by
  obtain ⟨id, hid⟩ := Option.isSome_iff_exists.1 hid
  have hprepare : (Operation.update r).prepare conn.delayedInsert
      = .ok (.mapped fun d => .ok (d.update r)) := Operation.requireId_bind hid _
  exact dao.calls_of_resolve conn slot s hd hprepare rfl

/-- The update of an identified record is sent, and of the columns all but that of the identifier
are in it, in their order. It has the form of an update exactly if there are any, that is if a
field other than the identifier is mapped. If not, it is sent without assignments. -/
theorem update_assigns_iff (hd : (dao.resolve slot).1 = .ok d) {r : E.Rec}
    (hid : (E.identifier r).isSome) :
    dao.calls conn (.update r) slot s = [.execute (d.update r)] ∧
    (∃ before after, d.columns = before ++ d.idColumn :: after ∧
      d.updateColumns = (before ++ after).map (·.name)) ∧
    d.updateColumns.length = E.assigned ∧
    (Statement.Assigns d.table d.idColumn.name d.updateColumns (d.update r).sql ↔
      E.assigned ≠ 0) ∧
    ((∃ columns, Statement.Assigns d.table d.idColumn.name columns (d.update r).sql) ↔
      E.assigned ≠ 0) ∧
    (E.assigned = 0 → (d.update r).sql
      = "UPDATE " ++ d.table ++ " SET  WHERE " ++ d.idColumn.name ++ " = ?") := by
  have hlength := d.length_updateColumns
  refine ⟨dao.calls_update conn slot s hd hid, ?_, hlength, ⟨?_, ?_⟩, ⟨?_, ?_⟩, ?_⟩
  · obtain ⟨before, after, hcolumns, hupdates, -⟩ := d.describes.updates
    exact ⟨before, after, hcolumns, hupdates⟩
  · intro hassigns hzero
    exact d.not_assigns_update r hzero _ hassigns
  · exact d.assigns_update r
  · rintro ⟨columns, hassigns⟩ hzero
    exact d.not_assigns_update r hzero columns hassigns
  · intro h
    exact ⟨_, d.assigns_update r h⟩
  · intro hzero
    rw [d.sql_update, d.setClause_of_assigned_eq_zero hzero]
    simp only [String.append_assoc]
    rfl

end Dao

namespace Gauge

theorem update_assigns_closed :
    (Dao.mk (some descriptor)).calls silent (.update closed) {} ()
      = [.execute ⟨"UPDATE gauge SET level=?,open=?,closed=? WHERE gauge_id = ?",
          [.int (-3), .bool true, .long (-1), .text "G1"]⟩] ∧
    Statement.Assigns "gauge" "gauge_id" ["level", "open", "closed"]
      "UPDATE gauge SET level=?,open=?,closed=? WHERE gauge_id = ?" := by
  have hresolve : ((Dao.mk (some descriptor)).resolve {}).1 = .ok descriptor := rfl
  obtain ⟨hcalls, -, -, hassigns, -⟩ :=
    Dao.update_assigns_iff silent _ {} () hresolve (r := closed) rfl
  have hupdate : descriptor.update closed
      = ⟨"UPDATE gauge SET level=?,open=?,closed=? WHERE gauge_id = ?",
        [.int (-3), .bool true, .long (-1), .text "G1"]⟩ := by
    decide
  rw [hupdate] at hcalls hassigns
  exact ⟨hcalls, hassigns.2 (by decide)⟩

end Gauge

namespace Gadget

def gadget : EntityType where
  name := "Gadget"
  table? := some "gadgets"
  fields := [
    { name := "id", type := .option .string },
    { name := "parts", type := .list String },
    Field.markTransient { name := "note", type := .string }]
  identifier r := r ⟨0, by decide⟩

def descriptor : Descriptor gadget where
  table := "gadgets"
  idColumn := ⟨⟨0, by decide⟩, "gadget_id", .string⟩
  filter_isId := by decide

def listed : gadget.Rec
  | ⟨0, _⟩ => some "G1"
  | ⟨1, _⟩ => []
  | ⟨2, _⟩ => "spare"

/-- A descriptor is built, and an update is sent that assigns nothing. -/
theorem update_listed :
    Descriptor.build gadget none = .ok descriptor ∧
    gadget.identifier listed = some "G1" ∧
    (Dao.mk (some descriptor)).calls Gauge.silent (.update listed) {} ()
      = [.execute ⟨"UPDATE gadgets SET  WHERE gadget_id = ?", [.text "G1"]⟩] ∧
    ∀ columns, ¬ Statement.Assigns "gadgets" "gadget_id" columns
      "UPDATE gadgets SET  WHERE gadget_id = ?" := by
  have hid : gadget.identifier listed = some "G1" := rfl
  have hupdate : descriptor.update listed
      = ⟨"UPDATE gadgets SET  WHERE gadget_id = ?", [.text "G1"]⟩ := by
    decide
  refine ⟨rfl, hid, ?_, fun columns => ?_⟩
  · rw [← hupdate]
    exact Dao.calls_update Gauge.silent _ {} () rfl (Option.isSome_iff_exists.2 ⟨_, hid⟩)
  · have hnone := descriptor.not_assigns_update listed (by decide) columns
    rw [hupdate] at hnone
    exact hnone

end Gadget
end DataMapper
