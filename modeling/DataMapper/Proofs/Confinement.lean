import DataMapper.Proofs.RegistryLaw
import DataMapper.Proofs.RoundTrip

/-! # Values stay out of the text

Two calls of one operation are alike if they differ in nothing but data: the
values of records, identifiers and conditions. Whatever alike calls send has
one text. Only a listing by a field looks at its value, and there only at
whether it asks for the absence of one.
-/
namespace DataMapper

/-! ## Calls that differ in data -/

inductive Condition.Alike : Condition → Condition → Prop
  | compare (column : String) (op : Comparison) (v w : SqlValue) :
    Alike (.compare column op v) (.compare column op w)
  | isNull (column : String) : Alike (.isNull column) (.isNull column)
  | isNotNull (column : String) : Alike (.isNotNull column) (.isNotNull column)

def Filter.Alike (f g : Filter) : Prop :=
  List.Forall₂ Condition.Alike f.conditions g.conditions

structure Criteria.Alike (c c' : Criteria) : Prop where
  filter : c.filter.Alike c'.filter
  order : c.order = c'.order
  window? : c.window? = c'.window?

/-- The values for which a listing asks for the absence of one. -/
def SqlValue.AsksForNull (v : SqlValue) : Prop :=
  v = .null ∨ v = .text "NULL"

/-- Calls of one operation with the same names, texts, windows and amounts. The identifiers of a list
are as many, and the values to list by ask both for the absence of one or both for themselves. -/
inductive Operation.Alike {E : EntityType} :
    {answer : Answer} → Operation E answer → Operation E answer → Prop
  | load (id id' : String) : Alike (.load id) (.load id')
  | find {c c' : Criteria} (h : c.Alike c') : Alike (.find c) (.find c')
  | findMatching {f f' : Filter} (h : f.Alike f') (window? : Option Window) :
    Alike (.findMatching f window?) (.findMatching f' window?)
  | findByText (condition : String) : Alike (.findByText condition) (.findByText condition)
  | findByField (field : String) (v w : SqlValue) :
    Alike (.findByField field v) (.findByField field w)
  | findByFields (fields : List String) (vs ws : List SqlValue) :
    Alike (.findByFields fields vs) (.findByFields fields ws)
  | findByIds {ids ids' : List String} (h : ids.length = ids'.length) :
    Alike (.findByIds ids) (.findByIds ids')
  | list {c c' : Criteria} (h : c.Alike c') : Alike (.list c) (.list c')
  | listByText (condition : String) : Alike (.listByText condition) (.listByText condition)
  | listByField (field : String) {v w : SqlValue} (h : v.AsksForNull ↔ w.AsksForNull) :
    Alike (.listByField field v) (.listByField field w)
  | listByFieldOrdered (field : String) {v w : SqlValue} (h : v.AsksForNull ↔ w.AsksForNull)
    (orderBy : String) :
    Alike (.listByFieldOrdered field v orderBy) (.listByFieldOrdered field w orderBy)
  | listByFieldPaged (field : String) {v w : SqlValue} (h : v.AsksForNull ↔ w.AsksForNull)
    (orderBy : String) (page count : UInt32) :
    Alike (.listByFieldPaged field v orderBy page count)
      (.listByFieldPaged field w orderBy page count)
  | insert (r r' : E.Rec) : Alike (.insert r) (.insert r')
  | insertDelayed (r r' : E.Rec) : Alike (.insertDelayed r) (.insertDelayed r')
  | update (r r' : E.Rec) : Alike (.update r) (.update r')
  | delete (r r' : E.Rec) : Alike (.delete r) (.delete r')
  | deleteById (id id' : String) : Alike (.deleteById id) (.deleteById id')
  | increment (r r' : E.Rec) (field : String) : Alike (.increment r field) (.increment r' field)
  | decrement (r r' : E.Rec) (field : String) : Alike (.decrement r field) (.decrement r' field)
  | incrementBy (r r' : E.Rec) (field : String) (amount : Int32) :
    Alike (.incrementBy r field amount) (.incrementBy r' field amount)
  | count {c c' : Criteria} (h : c.Alike c') : Alike (.count c) (.count c')
  | countSql (text : String) : Alike (.countSql text) (.countSql text)
  | minInt (field : String) {c c' : Criteria} (h : c.Alike c') :
    Alike (.minInt field c) (.minInt field c')
  | maxInt (field : String) {c c' : Criteria} (h : c.Alike c') :
    Alike (.maxInt field c) (.maxInt field c')
  | minLong (field : String) {c c' : Criteria} (h : c.Alike c') :
    Alike (.minLong field c) (.minLong field c')
  | maxLong (field : String) {c c' : Criteria} (h : c.Alike c') :
    Alike (.maxLong field c) (.maxLong field c')

/-! ## Statements with one text -/

def Related {α β : Type u} (R : α → β → Prop) (x : Except Failure α) (y : Except Failure β) :
    Prop :=
  ∀ a b, x = .ok a → y = .ok b → R a b

namespace Related
variable {α β γ δ : Type u} {R : α → β → Prop} {S : γ → δ → Prop}

theorem ok {a : α} {b : β} (h : R a b) : Related R (.ok a) (.ok b) := by
  intro a' b' ha hb
  cases ha
  cases hb
  exact h

theorem bind {x : Except Failure α} {y : Except Failure β} {f : α → Except Failure γ}
    {g : β → Except Failure δ} (h : Related R x y) (hfg : ∀ a b, R a b → Related S (f a) (g b)) :
    Related S (x >>= f) (y >>= g) := by
  intro c d hc hd
  obtain ⟨a, ha, hc⟩ := Argument.bind_eq_ok_iff.1 hc
  obtain ⟨b, hb, hd⟩ := Argument.bind_eq_ok_iff.1 hd
  exact hfg a b (h a b ha hb) c d hc hd

theorem refl {R : α → α → Prop} (hR : ∀ a, R a a) (x : Except Failure α) : Related R x x := by
  intro a b ha hb
  obtain rfl : a = b := Except.ok.inj (ha.symm.trans hb)
  exact hR a

theorem trivial (x : Except Failure α) (y : Except Failure β) : Related (fun _ _ => True) x y :=
  fun _ _ _ _ => True.intro

end Related

def Statement.SameSql (s t : Statement) : Prop :=
  s.sql = t.sql

theorem Statement.SameSql.refl (s : Statement) : s.SameSql s := rfl

theorem Condition.Alike.sql_eq {c c' : Condition} (h : c.Alike c') : c.sql = c'.sql := by
  cases h <;> rfl

theorem Condition.map_sql_eq {cs cs' : List Condition} (h : List.Forall₂ Condition.Alike cs cs') :
    cs.map Condition.sql = cs'.map Condition.sql := by
  induction h with
  | nil => rfl
  | cons hc _ ih => rw [List.map_cons, List.map_cons, hc.sql_eq, ih]

theorem Filter.Alike.sql_eq {f g : Filter} (h : f.Alike g) : f.sql = g.sql := by
  have hsqls := Condition.map_sql_eq h
  have hempty : f.isEmpty = g.isEmpty := by
    rw [isEmpty, isEmpty, ← List.isEmpty_map, hsqls, List.isEmpty_map]
  rw [sql, sql, hempty, hsqls]

namespace Descriptor
variable {E : EntityType} (d : Descriptor E)

theorem sameSql_selectWithin {c c' : Criteria} (h : c.Alike c') (window? : Option Window) :
    (d.selectWithin c window?).SameSql (d.selectWithin c' window?) := by
  have horder : c.orderSql = c'.orderSql := by
    rw [Criteria.orderSql, Criteria.orderSql, h.order]
  rw [Statement.SameSql, selectWithin, selectWithin, h.filter.sql_eq, horder]

theorem sameSql_selectCriteria {c c' : Criteria} (h : c.Alike c') :
    (d.selectCriteria c).SameSql (d.selectCriteria c') := by
  rw [selectCriteria, selectCriteria, h.window?]
  exact d.sameSql_selectWithin h c'.window?

theorem sameSql_selectSingle {c c' : Criteria} (h : c.Alike c') :
    Related Statement.SameSql (d.selectSingle c) (d.selectSingle c') := by
  intro s t hs ht
  obtain ⟨w, hw, rfl⟩ := selectSingle_eq_ok_iff.1 hs
  obtain ⟨w', hw', rfl⟩ := selectSingle_eq_ok_iff.1 ht
  have hwindow : singleWindow c = singleWindow c' := by
    rw [singleWindow, singleWindow, h.window?]
  obtain rfl : w = w' := Except.ok.inj (hw.symm.trans (hwindow.trans hw'))
  exact d.sameSql_selectWithin h (some w)

theorem sameSql_selectByField (field : String) (v w : SqlValue) :
    Related Statement.SameSql (d.selectByField field v) (d.selectByField field w) := by
  intro s t hs ht
  obtain ⟨-, rfl⟩ := selectByField_eq_ok_iff.1 hs
  obtain ⟨-, rfl⟩ := selectByField_eq_ok_iff.1 ht
  rfl

theorem sameSql_fieldMatches (field : String) {v w : SqlValue}
    (h : v.AsksForNull ↔ w.AsksForNull) :
    (fieldMatches field v).SameSql (fieldMatches field w) := by
  unfold SqlValue.AsksForNull at h
  unfold fieldMatches
  by_cases hv : v = .null ∨ v = .text "NULL"
  · rw [if_pos hv, if_pos (h.1 hv)]
    rfl
  · rw [if_neg hv, if_neg (fun hw => hv (h.2 hw))]
    rfl

theorem sameSql_selectByFieldPaged (field : String) {v w : SqlValue}
    (h : v.AsksForNull ↔ w.AsksForNull) (orderBy : String) (page count : UInt32) :
    Related Statement.SameSql (d.selectByFieldPaged field v orderBy page count)
      (d.selectByFieldPaged field w orderBy page count) := by
  intro s t hs ht
  obtain ⟨-, -, rfl⟩ := selectByFieldPaged_eq_ok_iff.1 hs
  obtain ⟨-, -, rfl⟩ := selectByFieldPaged_eq_ok_iff.1 ht
  have hsql : (fieldMatches field v).sql = (fieldMatches field w).sql :=
    sameSql_fieldMatches field h
  simp only [Statement.SameSql, hsql]

theorem sameSql_selectByFields (fields : List String) (vs ws : List SqlValue) :
    Related Statement.SameSql (d.selectByFields fields vs) (d.selectByFields fields ws) := by
  intro s t hs ht
  obtain ⟨-, -, -, -, rfl⟩ := selectByFields_eq_ok_iff.1 hs
  obtain ⟨-, -, -, -, rfl⟩ := selectByFields_eq_ok_iff.1 ht
  rfl

theorem sameSql_selectByIds {ids ids' : List SqlValue} (h : ids.length = ids'.length) :
    Related Statement.SameSql (d.selectByIds ids) (d.selectByIds ids') := by
  intro s t hs ht
  obtain ⟨-, rfl⟩ := selectByIds_eq_ok_iff.1 hs
  obtain ⟨-, rfl⟩ := selectByIds_eq_ok_iff.1 ht
  rw [Statement.SameSql, h]

theorem sameSql_increment (field : String) (amount : Int32) (id id' : SqlValue) :
    Related Statement.SameSql (d.increment field amount id) (d.increment field amount id') := by
  intro s t hs ht
  obtain ⟨-, rfl⟩ := increment_eq_ok_iff.1 hs
  obtain ⟨-, rfl⟩ := increment_eq_ok_iff.1 ht
  rfl

theorem sameSql_aggregate (f : Aggregate) (field? : Option String) {c c' : Criteria}
    (h : c.Alike c') : (d.aggregate f field? c).SameSql (d.aggregate f field? c') := by
  rw [Statement.SameSql, aggregate, aggregate, h.filter.sql_eq]

end Descriptor

/-! ## Operations -/

def Prepared.SameSql {E : EntityType} : Prepared E → Prepared E → Prop
  | .ready s, .ready t => s.SameSql t
  | .mapped f, .mapped g => ∀ d, Related Statement.SameSql (f d) (g d)
  | _, _ => False

namespace Operation
variable {E : EntityType} {answer : Answer} {op op' : Operation E answer}

theorem sameSql_prepareIncrement (r r' : E.Rec) (field : String) (amount : Int32) :
    Related Prepared.SameSql (prepareIncrement r field amount)
      (prepareIncrement r' field amount) :=
  (Related.trivial _ _).bind fun _ _ _ => .ok fun d => d.sameSql_increment field amount _ _

theorem sameSql_prepareAggregate (f : Descriptor.Aggregate) (field : String) {c c' : Criteria}
    (h : c.Alike c') :
    Related Prepared.SameSql (prepareAggregate (E := E) f field c)
      (prepareAggregate f field c') := by
  refine Related.bind (R := Eq) (.refl (fun _ => rfl) _) ?_
  rintro field _ rfl
  exact .ok fun d => .ok (d.sameSql_aggregate f (some field) h)

/-- One case for each operation: the statements are built by the same builder from arguments that
differ in data only. -/
theorem Alike.prepare (h : op.Alike op') (delayed : Bool) :
    Related Prepared.SameSql (op.prepare delayed) (op'.prepare delayed) := by
  cases h with
  | load | deleteById => exact .ok fun d => .ok rfl
  | find h => exact .ok fun d => d.sameSql_selectSingle h
  | findMatching h window? => exact .ok fun d => d.sameSql_selectSingle ⟨h, rfl, rfl⟩
  | findByText condition => exact .ok fun d => .refl .refl _
  | findByField field v w => exact .ok fun d => d.sameSql_selectByField field v w
  | findByFields fields vs ws => exact .ok fun d => d.sameSql_selectByFields fields vs ws
  | findByIds h => exact .ok fun d => d.sameSql_selectByIds (by simpa using h)
  | list h => exact .ok fun d => .ok (d.sameSql_selectCriteria h)
  | listByText condition => exact .ok fun d => .refl .refl _
  | listByField field h => exact .ok fun d => d.sameSql_selectByFieldPaged field h _ _ _
  | listByFieldOrdered field h orderBy =>
    exact .ok fun d => d.sameSql_selectByFieldPaged field h orderBy _ _
  | listByFieldPaged field h orderBy page count =>
    exact .ok fun d => d.sameSql_selectByFieldPaged field h orderBy page count
  | insert | insertDelayed | update =>
    exact (Related.trivial _ _).bind fun _ _ _ => .ok fun d => .ok rfl
  | delete r r' => exact fun _ _ hs => by cases hs
  | increment r r' field => exact sameSql_prepareIncrement r r' field 1
  | decrement r r' field => exact sameSql_prepareIncrement r r' field (-1)
  | incrementBy r r' field amount => exact sameSql_prepareIncrement r r' field amount
  | count h => exact .ok fun d => .ok (d.sameSql_aggregate .count none h)
  | countSql text =>
    refine Related.bind (R := Eq) (.refl (fun _ => rfl) _) ?_
    rintro text _ rfl
    exact .ok rfl
  | minInt field h | minLong field h => exact sameSql_prepareAggregate .min field h
  | maxInt field h | maxLong field h => exact sameSql_prepareAggregate .max field h

end Operation

namespace Dao
variable {E : EntityType} {σ : Type} {answer : Answer}

theorem sameSql_plan {op op' : Operation E answer} (h : op.Alike op') (delayed : Bool)
    {dao dao' : Dao E} {slot : Slot E} (hresolve : (dao.resolve slot).1 = (dao'.resolve slot).1) :
    Related Statement.SameSql (dao.plan delayed op slot).1 (dao'.plan delayed op' slot).1 := by
  have hprepare := h.prepare delayed
  unfold plan
  cases hp : op.prepare delayed with
  | error e =>
    intro s t hs
    cases hs
  | ok p =>
    cases hp' : op'.prepare delayed with
    | error e =>
      intro s t _ ht
      cases ht
    | ok p' =>
      have hsame := hprepare p p' hp hp'
      cases p with
      | ready s =>
        cases p' with
        | ready t => exact .ok hsame
        | mapped g => exact hsame.elim
      | mapped f =>
        cases p' with
        | ready t => exact hsame.elim
        | mapped g =>
          simp only [hresolve]
          refine Related.bind (R := Eq) (.refl (fun _ => rfl) _) ?_
          rintro d _ rfl
          exact hsame d

theorem plan_of_mem_calls {conn : Connection σ} {op : Operation E answer} {dao : Dao E}
    {slot : Slot E} {s : σ} {call : Connection.Call} (h : call ∈ dao.calls conn op slot s) :
    (dao.plan conn.delayedInsert op slot).1 = .ok call.statement := by
  cases hplan : (dao.plan conn.delayedInsert op slot).1 with
  | error e =>
    rw [dao.calls_of_plan_error conn op slot s hplan] at h
    cases h
  | ok statement =>
    rw [dao.calls_of_plan_ok conn op slot s hplan] at h
    obtain rfl := List.mem_singleton.1 h
    rw [Answer.statement_call]

end Dao

namespace Session
variable {ι σ : Type} {catalog : ι → EntityType} [DecidableEq ι]

def sent (s : Session catalog σ) (conn : Connection σ) (i : ι) (n : Nat) {answer : Answer}
    (op : Operation (catalog i) answer) (db : σ) : List Connection.Call :=
  (s.daos i n).calls conn op (s.registry i) db

/-- Alike calls that both send a statement send the same text, after whatever was done before,
through whichever objects and whatever the database holds. -/
theorem sent_sql_eq (conn : Connection σ) (start : σ) (steps : List (Step catalog)) (i : ι)
    {answer : Answer} {op op' : Operation (catalog i) answer} (h : op.Alike op') (n n' : Nat)
    (db db' : σ) {call call' : Connection.Call}
    (hcall : call ∈ (({ state := start } : Session catalog σ).after conn steps).sent conn i n op db)
    (hcall' : call' ∈
      (({ state := start } : Session catalog σ).after conn steps).sent conn i n' op' db') :
    call.statement.sql = call'.statement.sql := by
  have recorded : Recorded conn (({ state := start } : Session catalog σ).history conn steps)
      (({ state := start } : Session catalog σ).after conn steps) i :=
    (Recorded.initial start i).run steps
  refine Dao.sameSql_plan h conn.delayedInsert ?_ _ _ (Dao.plan_of_mem_calls hcall)
    (Dao.plan_of_mem_calls hcall')
  rw [(recorded.follows n).resolve_eq recorded.sound,
    (recorded.follows n').resolve_eq recorded.sound]

end Session

namespace Gauge

def silent : Connection Unit where
  execute _ s := (.ok 0, s)
  query _ s := (.ok [], s)

def renamed : Session (fun _ : Unit => gauge) Unit :=
  ({ state := () } : Session (fun _ : Unit => gauge) Unit).after silent [.setTable () "readings"]

/-- A number and a text that looks like a condition are listed by with one text. -/
theorem sent_sql_eq_listed :
    let sent (n : Nat) (v : SqlValue) := renamed.sent silent () n (.listByField "level" v) ()
    let sql := "SELECT gauge_id, level, open, closed FROM readings WHERE level = ? " ++
      "ORDER BY gauge_id LIMIT 0,2147483647"
    sent 0 (.text "1 OR 1=1") = [.query ⟨sql, [.text "1 OR 1=1"]⟩] ∧
    sent 1 (.int 7) = [.query ⟨sql, [.int 7]⟩] ∧
    ∀ call ∈ sent 0 (.text "1 OR 1=1"), ∀ call' ∈ sent 1 (.int 7),
      call.statement.sql = call'.statement.sql := by
  have halike : (Operation.listByField (E := gauge) "level" (.text "1 OR 1=1")).Alike
      (.listByField "level" (.int 7)) := .listByField "level" (by simp [SqlValue.AsksForNull])
  refine ⟨by decide, by decide, ?_⟩
  intro call hcall call' hcall'
  exact Session.sent_sql_eq silent () [.setTable () "readings"] () halike 0 1 () () hcall hcall'

end Gauge
end DataMapper
