import DataMapper.Connection
import DataMapper.Descriptor.Change
import DataMapper.Entity.Population

/-! # Operations on entities

An operation is prepared into at most one statement, and the reply to that
statement is read as the answer. Some checks come before the mapping of the
entity type is known, some after.
-/
namespace DataMapper

inductive Answer where
  | entity
  | entities
  | affected
  | long
  | int
deriving DecidableEq

namespace Answer

def Value (E : EntityType) : Answer → Type
  | entity => Option E.Rec
  | entities => List E.Rec
  | affected => UInt64
  | long => Int64
  | int => Int32

def records (E : EntityType) (rows : List Row) : List E.Rec :=
  rows.map fun row => (E.ofRow row).record

/-- Sends a statement and reads the reply. Numbers read as 0 when there is none. -/
def send {σ : Type} {E : EntityType} (conn : Connection σ) (statement : Statement) (s : σ) :
    (answer : Answer) → Except ConnectionFault (answer.Value E) × σ
  | affected => conn.execute statement s
  | entity =>
    let (reply, s) := conn.query statement s
    (reply.map fun rows => (records E rows).head?, s)
  | entities =>
    let (reply, s) := conn.query statement s
    (reply.map (records E), s)
  | long =>
    let (reply, s) := conn.queryScalarLong statement s
    (reply.map (·.getD 0), s)
  | int =>
    let (reply, s) := conn.queryScalarInt statement s
    (reply.map (·.getD 0), s)

end Answer

inductive Operation (E : EntityType) : Answer → Type where
  | load (id : String) : Operation E .entity
  | find (criteria : Criteria) : Operation E .entity
  | findMatching (filter : Filter) (window? : Option Window) : Operation E .entity
  | findByText (condition : String) : Operation E .entity
  | findByField (field : String) (value : SqlValue) : Operation E .entity
  | findByFields (fields : List String) (values : List SqlValue) : Operation E .entity
  | findByIds (ids : List String) : Operation E .entities
  | list (criteria : Criteria) : Operation E .entities
  | listByText (condition : String) : Operation E .entities
  | listByField (field : String) (value : SqlValue) : Operation E .entities
  | listByFieldOrdered (field : String) (value : SqlValue) (orderBy : String) :
    Operation E .entities
  | listByFieldPaged (field : String) (value : SqlValue) (orderBy : String)
    (page count : UInt32) : Operation E .entities
  | insert (record : E.Rec) : Operation E .affected
  | insertDelayed (record : E.Rec) : Operation E .affected
  | update (record : E.Rec) : Operation E .affected
  | delete (record : E.Rec) : Operation E .affected
  | deleteById (id : String) : Operation E .affected
  | increment (record : E.Rec) (field : String) : Operation E .affected
  | decrement (record : E.Rec) (field : String) : Operation E .affected
  | incrementBy (record : E.Rec) (field : String) (amount : Int32) : Operation E .affected
  | count (criteria : Criteria) : Operation E .long
  | countSql (text : String) : Operation E .long
  | minInt (field : String) (criteria : Criteria) : Operation E .int
  | maxInt (field : String) (criteria : Criteria) : Operation E .int
  | minLong (field : String) (criteria : Criteria) : Operation E .long
  | maxLong (field : String) (criteria : Criteria) : Operation E .long

/-- What is left to do once the arguments have passed their first check. -/
inductive Prepared (E : EntityType) where
  /-- The statement needs no mapping. -/
  | ready (statement : Statement)
  /-- The statement is made from the descriptor, or refused. -/
  | mapped (build : Descriptor E → Except Failure Statement)

/-- An identifier as bound for its column: a number where the column holds integers and the text
is one, the text itself otherwise. -/
def Descriptor.bindId {E : EntityType} (d : Descriptor E) (id : String) : SqlValue :=
  match d.idColumn.kind with
  | .integer | .long =>
    match (Decimal.readInt id.toList).bind Narrow.int64? with
    | some l => .long l
    | none => .text id
  | _ => .text id

namespace Operation
variable {E : EntityType}

/-- The row count of a listing without pages. -/
def allRows : UInt32 := 2147483647

def requireId (r : E.Rec) : Except Failure String :=
  Argument.present (E.identifier r) "entity.id"

def prepareIncrement (r : E.Rec) (field : String) (amount : Int32) :
    Except Failure (Prepared E) := do
  let _ ← requireId r
  return .mapped fun d => d.increment field amount (d.idColumn.read r)

def prepareAggregate (f : Descriptor.Aggregate) (field : String) (c : Criteria) :
    Except Failure (Prepared E) := do
  let field ← Argument.text field "field"
  return .mapped fun d => .ok (d.aggregate f (some field) c)

/-- Checks the arguments that can be checked without the mapping. `delayed` says whether the
connection honours delayed inserts. -/
def prepare (delayed : Bool) {answer : Answer} :
    Operation E answer → Except Failure (Prepared E)
  | load id => .ok (.mapped fun d => .ok (d.selectById (d.bindId id)))
  | find c => .ok (.mapped fun d => d.selectSingle c)
  | findMatching filter window? => .ok (.mapped fun d => d.selectSingle { filter, window? })
  | findByText condition => .ok (.mapped fun d => d.findByText condition)
  | findByField field value => .ok (.mapped fun d => d.selectByField field value)
  | findByFields fields values => .ok (.mapped fun d => d.selectByFields fields values)
  | findByIds ids => .ok (.mapped fun d => d.selectByIds (ids.map d.bindId))
  | list c => .ok (.mapped fun d => .ok (d.selectCriteria c))
  | listByText condition => .ok (.mapped fun d => d.selectByText condition)
  | listByField field value =>
    .ok (.mapped fun d => d.selectByFieldPaged field value d.idColumn.name 0 allRows)
  | listByFieldOrdered field value orderBy =>
    .ok (.mapped fun d => d.selectByFieldPaged field value orderBy 0 allRows)
  | listByFieldPaged field value orderBy page size =>
    .ok (.mapped fun d => d.selectByFieldPaged field value orderBy page size)
  | insert r => do
    let _ ← requireId r
    return .mapped fun d => .ok (d.insert r false)
  | insertDelayed r => do
    let _ ← requireId r
    return .mapped fun d => .ok (d.insert r delayed)
  | update r => do
    let _ ← requireId r
    return .mapped fun d => .ok (d.update r)
  | delete _ => .error (.unsupported (.deleteEntity E.name))
  | deleteById id => .ok (.mapped fun d => .ok (d.deleteById (d.bindId id)))
  | increment r field => prepareIncrement r field 1
  | decrement r field => prepareIncrement r field (-1)
  | incrementBy r field amount => prepareIncrement r field amount
  | count c => .ok (.mapped fun d => .ok (d.aggregate .count none c))
  | countSql text => do
    let text ← Argument.text text "sql"
    return .ready (.raw text)
  | minInt field c => prepareAggregate .min field c
  | maxInt field c => prepareAggregate .max field c
  | minLong field c => prepareAggregate .min field c
  | maxLong field c => prepareAggregate .max field c

/-- Sends the one statement of an operation. A failure reports what was sent. -/
def perform {σ : Type} (conn : Connection σ) {answer : Answer} (statement : Statement) (s : σ) :
    Except Failure (answer.Value E) × σ :=
  let (reply, s) := answer.send conn statement s
  (reply.mapError (.dataAccess statement), s)

end Operation
end DataMapper
