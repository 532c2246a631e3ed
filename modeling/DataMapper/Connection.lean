import DataMapper.Row.Integer
import DataMapper.Statement

/-! # Connections

A connection runs statements on some state of its own. Only its two primitive
operations are given; numbers are read from the rows that a query returns.
-/
namespace DataMapper

structure Connection (σ : Type) where
  /-- Runs a mutation and gives the number of affected rows. -/
  execute : Statement → σ → Except ConnectionFault UInt64 × σ
  query : Statement → σ → Except ConnectionFault (List Row) × σ
  delayedInsert : Bool := false

namespace Connection
variable {σ : Type}

def queryScalarLong (conn : Connection σ) (statement : Statement) (s : σ) :
    Except ConnectionFault (Option Int64) × σ :=
  let (reply, s) := conn.query statement s
  (reply >>= Row.scalarLong, s)

def queryScalarInt (conn : Connection σ) (statement : Statement) (s : σ) :
    Except ConnectionFault (Option Int32) × σ :=
  let (reply, s) := conn.query statement s
  (reply >>= Row.scalarInt, s)

inductive Call where
  | execute (statement : Statement)
  | query (statement : Statement)
deriving DecidableEq

/-- The same connection, writing down every call beside its state. -/
def logged (conn : Connection σ) : Connection (List Call × σ) where
  execute statement s :=
    let (reply, t) := conn.execute statement s.2
    (reply, s.1 ++ [.execute statement], t)
  query statement s :=
    let (reply, t) := conn.query statement s.2
    (reply, s.1 ++ [.query statement], t)
  delayedInsert := conn.delayedInsert

end Connection
end DataMapper
