import DataMapper.Connection
import DataMapper.Proofs.Storable
import Mathlib.Data.List.Forall2

/-! # A connection that keeps a table

Four statements are written for a table with a key column. A connection keeps
the table if it gives them their plain meaning on a collection of rows in no
particular order. Every table has such a connection.
-/
namespace DataMapper

/-- Equality in a condition: integers of both widths compare as numbers, and NULL equals nothing. -/
def SqlValue.equals : SqlValue → SqlValue → Bool
  | text s, text t => s == t
  | bool a, bool b => a == b
  | v, w =>
    match v.asLong, w.asLong with
    | some l, some m => l == m
    | _, _ => false

abbrev StoredRow : Type :=
  String → SqlValue

namespace StoredRow

def assign (columns : List String) (values : List SqlValue) (stored : StoredRow) : StoredRow :=
  fun name => ((Row.mk (columns.zip values)).get? name).getD (stored name)

def nulls : StoredRow :=
  fun _ => .null

end StoredRow

structure Schema where
  table : String
  columns : List String
  key : String

namespace Schema
variable (schema : Schema)

def others : List String :=
  schema.columns.filter fun name => !sameName name schema.key

def insertSql : String :=
  "INSERT INTO " ++ schema.table ++ "(" ++ ",".intercalate schema.columns ++ ") VALUES ("
    ++ ",".intercalate (schema.columns.map fun _ => "?") ++ ")"

def updateSql : String :=
  "UPDATE " ++ schema.table ++ " SET " ++ ",".intercalate (schema.others.map (· ++ "=?"))
    ++ " WHERE " ++ schema.key ++ " = ?"

def deleteSql : String :=
  "DELETE FROM " ++ schema.table ++ " WHERE " ++ schema.key ++ " = ?"

def selectSql : String :=
  "SELECT " ++ ", ".intercalate schema.columns ++ " FROM " ++ schema.table
    ++ " WHERE " ++ schema.key ++ " = ?"

def inserted (values : List SqlValue) : StoredRow :=
  StoredRow.nulls.assign schema.columns values

def keyed (v : SqlValue) (stored : StoredRow) : Bool :=
  (stored schema.key).equals v

def updated (v : SqlValue) (values : List SqlValue) (stored : StoredRow) : StoredRow :=
  if schema.keyed v stored then stored.assign schema.others values else stored

/-- A row of a reply shows a stored one, every value in some database form. -/
def Shows (stored : StoredRow) (row : Row) : Prop :=
  ∃ values, List.Forall₂ SqlValue.DatabaseForm (schema.columns.map stored) values ∧
    row = ⟨schema.columns.zip values⟩

end Schema

namespace Connection
variable {σ : Type}

/-- The four statements of a table have their plain meaning on the rows of a state: an insertion is
refused if its key is present, and the others work on the rows whose key equals the last value. -/
structure Keeps (conn : Connection σ) (schema : Schema) (rows : σ → List StoredRow) : Prop where
  insert_absent : ∀ s values, values.length = schema.columns.length →
    (∀ stored ∈ rows s, schema.keyed (schema.inserted values schema.key) stored = false) →
    (conn.execute ⟨schema.insertSql, values⟩ s).1 = .ok 1 ∧
    (rows (conn.execute ⟨schema.insertSql, values⟩ s).2).Perm (schema.inserted values :: rows s)
  insert_present : ∀ s values, values.length = schema.columns.length →
    (∃ stored ∈ rows s, schema.keyed (schema.inserted values schema.key) stored = true) →
    (∃ fault, (conn.execute ⟨schema.insertSql, values⟩ s).1 = .error fault) ∧
    (rows (conn.execute ⟨schema.insertSql, values⟩ s).2).Perm (rows s)
  update : ∀ s values v, schema.others ≠ [] → values.length = schema.others.length →
    (conn.execute ⟨schema.updateSql, values ++ [v]⟩ s).1
      = .ok (.ofNat ((rows s).filter (schema.keyed v)).length) ∧
    (rows (conn.execute ⟨schema.updateSql, values ++ [v]⟩ s).2).Perm
      ((rows s).map (schema.updated v values))
  delete : ∀ s v,
    (conn.execute ⟨schema.deleteSql, [v]⟩ s).1
      = .ok (.ofNat ((rows s).filter (schema.keyed v)).length) ∧
    (rows (conn.execute ⟨schema.deleteSql, [v]⟩ s).2).Perm
      ((rows s).filter fun stored => !schema.keyed v stored)
  select : ∀ s v,
    (∃ reply found, (conn.query ⟨schema.selectSql, [v]⟩ s).1 = .ok reply ∧
      found.Perm ((rows s).filter (schema.keyed v)) ∧ List.Forall₂ schema.Shows found reply) ∧
    (rows (conn.query ⟨schema.selectSql, [v]⟩ s).2).Perm (rows s)

end Connection

namespace Schema
variable (schema : Schema)

def connection : Connection (List StoredRow) where
  execute statement rows :=
    let values := statement.params.dropLast
    let v := statement.params.getLast?.getD .null
    let count : UInt64 := .ofNat (rows.filter (schema.keyed v)).length
    if statement.sql = schema.insertSql then
      let stored := schema.inserted statement.params
      if rows.any (schema.keyed (stored schema.key)) then (.error (.backend "key in use"), rows)
      else (.ok 1, stored :: rows)
    else if statement.sql = schema.updateSql then
      (.ok count, rows.map (schema.updated v values))
    else if statement.sql = schema.deleteSql then
      (.ok count, rows.filter fun stored => !schema.keyed v stored)
    else (.error (.backend "syntax"), rows)
  query statement rows :=
    let v := statement.params.getLast?.getD .null
    if statement.sql = schema.selectSql then
      (.ok ((rows.filter (schema.keyed v)).map fun stored =>
        ⟨schema.columns.zip (schema.columns.map stored)⟩), rows)
    else (.error (.backend "syntax"), rows)

theorem append_ne_append {a b : String} {first first' : Char} (ha : a.toList.head? = some first)
    (hb : b.toList.head? = some first') (hne : first ≠ first') (x y : String) : a ++ x ≠ b ++ y := by
  intro h
  have hhead := congrArg (fun sql : String => sql.toList.head?) h
  simp only [String.toList_append, List.head?_append, ha, hb, Option.some_or] at hhead
  exact hne (Option.some.inj hhead)

theorem updateSql_ne_insertSql : schema.updateSql ≠ schema.insertSql := by
  unfold updateSql insertSql
  simp only [String.append_assoc]
  exact append_ne_append (show _ = some 'U' from rfl) (show _ = some 'I' from rfl) (by decide) _ _

theorem deleteSql_ne_insertSql : schema.deleteSql ≠ schema.insertSql := by
  unfold deleteSql insertSql
  simp only [String.append_assoc]
  exact append_ne_append (show _ = some 'D' from rfl) (show _ = some 'I' from rfl) (by decide) _ _

theorem deleteSql_ne_updateSql : schema.deleteSql ≠ schema.updateSql := by
  unfold deleteSql updateSql
  simp only [String.append_assoc]
  exact append_ne_append (show _ = some 'D' from rfl) (show _ = some 'U' from rfl) (by decide) _ _

theorem shows_self (stored : StoredRow) :
    schema.Shows stored ⟨schema.columns.zip (schema.columns.map stored)⟩ :=
  ⟨schema.columns.map stored, List.forall₂_same.2 fun v _ => .same v, rfl⟩

theorem keeps_connection : schema.connection.Keeps schema id where
  insert_absent := by
    intro s values _ habsent
    have hany : s.any (schema.keyed (schema.inserted values schema.key)) = false := by
      rw [List.any_eq_false]
      intro stored hstored
      rw [habsent stored hstored]
      exact Bool.false_ne_true
    simp only [connection, if_true, hany, Bool.false_eq_true, if_false]
    exact ⟨trivial, .refl _⟩
  insert_present := by
    rintro s values - ⟨stored, hstored, hkeyed⟩
    have hany : s.any (schema.keyed (schema.inserted values schema.key)) = true :=
      List.any_eq_true.2 ⟨stored, hstored, hkeyed⟩
    simp only [connection, if_true, hany]
    exact ⟨⟨_, rfl⟩, .refl _⟩
  update := by
    intro s values v _ _
    simp only [connection, schema.updateSql_ne_insertSql, if_false, if_true, List.dropLast_concat,
      List.getLast?_concat, Option.getD_some]
    exact ⟨rfl, .refl _⟩
  delete := by
    intro s v
    simp only [connection, schema.deleteSql_ne_insertSql, schema.deleteSql_ne_updateSql, if_false,
      if_true, List.getLast?_singleton, Option.getD_some]
    exact ⟨rfl, .refl _⟩
  select := by
    intro s v
    simp only [connection, if_true]
    refine ⟨⟨_, s.filter (schema.keyed v), rfl, .refl _, ?_⟩, .refl _⟩
    rw [List.forall₂_map_right_iff]
    exact List.forall₂_same.2 fun stored _ => schema.shows_self stored

end Schema
end DataMapper
