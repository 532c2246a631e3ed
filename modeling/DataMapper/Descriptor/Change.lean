import DataMapper.Descriptor.Select

/-! # Changes to the rows of a descriptor

Inserts, updates and deletions. The text is made of the names of the columns
and the values are read from the record, in the same order.
-/
namespace DataMapper.Descriptor
variable {E : EntityType}

/-- `INSERT INTO t(a,b) VALUES (?,?)`, delayed if asked for. -/
def insert (d : Descriptor E) (r : E.Rec) (delayed : Bool) : Statement :=
  let verb := if delayed then "INSERT DELAYED INTO" else "INSERT INTO"
  ⟨verb ++ " " ++ d.table ++ "(" ++ d.insertList ++ ") VALUES (" ++ d.placeholders ++ ")",
    d.insertValues r⟩

/-- `UPDATE t SET b=?,c=? WHERE t_id = ?` -/
def update (d : Descriptor E) (r : E.Rec) : Statement :=
  ⟨"UPDATE " ++ d.table ++ " SET " ++ d.setClause ++ " WHERE " ++ d.idMatches, d.updateValues r⟩

def deleteById (d : Descriptor E) (id : SqlValue) : Statement :=
  ⟨"DELETE FROM " ++ d.table ++ " WHERE " ++ d.idMatches, [id]⟩

/-- `+ n` or `- n`, the sign apart from the magnitude. -/
def signedStep (amount : Int32) : String :=
  (if amount.toInt < 0 then "- " else "+ ") ++ Decimal.ofNat amount.toInt.natAbs

/-- `UPDATE t SET f=f + n WHERE t_id = ?` -/
def increment (d : Descriptor E) (field : String) (amount : Int32) (id : SqlValue) :
    Except Failure Statement := do
  let field ← Argument.text field "field"
  return ⟨"UPDATE " ++ d.table ++ " SET " ++ field ++ "=" ++ field ++ " "
    ++ signedStep amount ++ " WHERE " ++ d.idMatches, [id]⟩

theorem increment_eq_ok_iff {d : Descriptor E} {field : String} {amount : Int32} {id : SqlValue}
    {s : Statement} :
    d.increment field amount id = .ok s ↔ Text.isBlank field = false ∧
      ⟨"UPDATE " ++ d.table ++ " SET " ++ field ++ "=" ++ field ++ " " ++ signedStep amount
        ++ " WHERE " ++ d.idMatches, [id]⟩ = s := by
  unfold increment
  rw [Argument.text_bind_eq_ok_iff]
  simp [pure, Except.pure]

end DataMapper.Descriptor
