import DataMapper.Proofs.Rendering
import DataMapper.Proofs.Repopulation

/-! # Singular lookups, listings and aggregates

A singular lookup asks for what the listing of the same criteria asks for, only
for one row: the first one of the listing. Both build a record from every row of
the reply on its own. Aggregates keep the condition of the listing and drop its
order and row window.
-/
namespace DataMapper

def Window.rowsIn {α : Type} (window? : Option Window) (all : List α) : List α :=
  (window?.map fun w => w.rows all).getD all

namespace Descriptor
variable {E : EntityType} (d : Descriptor E) {c : Criteria}

theorem singleWindow_eq_error_iff {e : Failure} :
    singleWindow c = .error e ↔ ∃ w, c.window? = some w ∧ 1 < w.count ∧
      e = .invalidArgument (.windowTooWide w.count) := by
  unfold singleWindow
  cases c.window? with
  | none => simp
  | some w =>
    by_cases hwide : 1 < w.count <;> simp [hwide, eq_comm]

theorem rows_singleWindow {α : Type} {w : Window} (h : singleWindow c = .ok w) (all : List α) :
    w.rows all = (Window.rowsIn c.window? all).take 1 := by
  unfold singleWindow at h
  cases hwindow : c.window? with
  | none =>
    rw [hwindow] at h
    obtain rfl := Except.ok.inj h
    rfl
  | some asked =>
    rw [hwindow] at h
    by_cases hwide : 1 < asked.count
    · simp [hwide] at h
    · simp only [hwide, if_false, Except.ok.injEq] at h
      subst h
      have hcount : asked.count.toNat ≤ 1 := by
        have hle := UInt64.not_lt.1 hwide
        simpa using UInt64.le_iff_toNat_le.1 hle
      have hrows : Window.rowsIn (some asked) all = asked.rows all := rfl
      rw [hrows, Window.rows, List.take_take, Nat.min_eq_right hcount]

def aggregateText (f : Aggregate) (target : String) : String :=
  "SELECT " ++ f.function ++ "(" ++ target ++ ") FROM " ++ d.table

theorem aggregate_eq (f : Aggregate) (field? : Option String) (c : Criteria) :
    d.aggregate f field? c =
      ⟨d.aggregateText f (aggregateTarget field?) ++ Statement.clause c.filter.sql,
        c.filter.values⟩ := by
  have hhead : d.aggregateText f (aggregateTarget field?) ≠ "" := by
    intro h
    simp only [aggregateText, String.append_assoc] at h
    exact absurd (String.append_eq_empty_iff.1 h).1 (by decide)
  have hall : d.aggregateText f (aggregateTarget field?) ++ Statement.clause c.filter.sql ≠ "" :=
    fun h => hhead (String.append_eq_empty_iff.1 h).1
  rw [aggregate, ← aggregateText, Statement.joinClauses_cons_cons hhead,
    Statement.joinClauses_singleton hall]

end Descriptor

namespace Dao
variable {E : EntityType} {σ : Type} {answer : Answer} (conn : Connection σ) (dao : Dao E)
  (slot : Slot E) (s : σ)

/-! ## Replies -/

theorem run_fst_of_calls {op : Operation E answer} {call : Connection.Call}
    (h : dao.calls conn op slot s = [call]) :
    (dao.run conn op slot s).1
      = (Operation.perform conn call.statement s : Except Failure (answer.Value E) × σ).1 := by
  have hplan := plan_of_mem_calls (h ▸ List.mem_singleton_self call)
  rw [dao.run_of_plan_ok conn op slot s hplan]

theorem run_entities {op : Operation E .entities} {statement : Statement} {rows : List Row}
    (hcall : dao.calls conn op slot s = [.query statement])
    (hrows : (conn.query statement s).1 = .ok rows) :
    (dao.run conn op slot s).1 = .ok (rows.map fun row => (E.ofRow row).record) := by
  rw [dao.run_fst_of_calls conn slot s hcall]
  change ((conn.query statement s).1.map _).mapError _ = _
  rw [hrows]
  rfl

theorem run_entity {op : Operation E .entity} {statement : Statement} {rows : List Row}
    (hcall : dao.calls conn op slot s = [.query statement])
    (hrows : (conn.query statement s).1 = .ok rows) :
    (dao.run conn op slot s).1 = .ok (rows.map fun row => (E.ofRow row).record).head? := by
  rw [dao.run_fst_of_calls conn slot s hcall]
  change ((conn.query statement s).1.map _).mapError _ = _
  rw [hrows]
  rfl

/-! ## Statements -/

section Resolved
variable {d : Descriptor E} (hd : (dao.resolve slot).1 = .ok d)
include hd

theorem calls_of_resolve {op : Operation E answer} {build : Descriptor E → Except Failure Statement}
    {statement : Statement} (hprepare : op.prepare conn.delayedInsert = .ok (.mapped build))
    (hbuild : build d = .ok statement) : dao.calls conn op slot s = [answer.call statement] := by
  have hplan := plan_of_resolve hd hprepare
  exact dao.calls_of_plan_ok conn op slot s (hplan ▸ hbuild)

theorem calls_list (c : Criteria) :
    dao.calls conn (.list c) slot s
      = [.query ⟨d.queryText c ++ Window.clause c.window?, c.filter.values⟩] := by
  rw [← d.selectWithin_eq]
  exact dao.calls_of_resolve conn slot s hd rfl rfl

theorem calls_find {c : Criteria} {w : Window} (hw : Descriptor.singleWindow c = .ok w) :
    dao.calls conn (.find c) slot s
      = [.query ⟨d.queryText c ++ Window.clause (some w), c.filter.values⟩] := by
  rw [← d.selectWithin_eq]
  exact dao.calls_of_resolve conn slot s hd rfl
    (Descriptor.selectSingle_eq_ok_iff.2 ⟨w, hw, rfl⟩)

theorem run_find_eq_invalidArgument_iff (c : Criteria) :
    (∃ fault, (dao.run conn (.find c) slot s).1 = .error (.invalidArgument fault)) ↔
      ∃ w, c.window? = some w ∧ 1 < w.count := by
  have hplan : (dao.plan conn.delayedInsert (.find c) slot).1 = d.selectSingle c := by
    rw [plan_of_resolve hd rfl]
  cases hw : Descriptor.singleWindow c with
  | error e =>
    obtain ⟨w, hwindow, hwide, rfl⟩ := Descriptor.singleWindow_eq_error_iff.1 hw
    have herror : d.selectSingle c = .error (.invalidArgument (.windowTooWide w.count)) := by
      rw [Descriptor.selectSingle, hw]
      rfl
    rw [dao.run_of_plan_error conn (.find c) slot s (hplan.trans herror)]
    exact ⟨fun _ => ⟨w, hwindow, hwide⟩, fun _ => ⟨_, rfl⟩⟩
  | ok w =>
    have hok : d.selectSingle c = .ok (d.selectWithin c (some w)) :=
      Descriptor.selectSingle_eq_ok_iff.2 ⟨w, hw, rfl⟩
    rw [dao.run_of_plan_ok conn (.find c) slot s (hplan.trans hok)]
    constructor
    · rintro ⟨fault, hfault⟩
      obtain ⟨source, hsource⟩ := perform_eq_error conn s hfault
      cases hsource
    · rintro ⟨asked, hwindow, hwide⟩
      rw [Descriptor.singleWindow_eq_error_iff.2 ⟨asked, hwindow, hwide, rfl⟩] at hw
      cases hw

theorem calls_count (c : Criteria) :
    dao.calls conn (.count c) slot s
      = [.query ⟨d.aggregateText .count "*" ++ Statement.clause c.filter.sql, c.filter.values⟩] := by
  refine dao.calls_of_resolve conn slot s hd rfl ?_
  rw [Except.ok.injEq]
  exact d.aggregate_eq .count none c

theorem calls_of_prepareAggregate {op : Operation E answer} {f : Descriptor.Aggregate}
    {field : String} (hfield : Text.isBlank field = false) {c : Criteria}
    (hop : op.prepare conn.delayedInsert = Operation.prepareAggregate f field c) :
    dao.calls conn op slot s = [answer.call
      ⟨d.aggregateText f field ++ Statement.clause c.filter.sql, c.filter.values⟩] := by
  have hprepare : Operation.prepareAggregate (E := E) f field c
      = .ok (.mapped fun d => .ok (d.aggregate f (some field) c)) := by
    simp only [Operation.prepareAggregate, Argument.text, hfield, Bool.false_eq_true, if_false]
    rfl
  refine dao.calls_of_resolve conn slot s hd (hop.trans hprepare) ?_
  have htarget : Descriptor.aggregateTarget (some field) = field := by
    simp [Descriptor.aggregateTarget, hfield]
  rw [Except.ok.injEq, d.aggregate_eq, htarget]

/-- A singular lookup is refused exactly when it asks for more than one row. Otherwise it sends what
the listing of the same criteria sends, but for the window, which holds the first row of the
listing's window if there is one. Every row of a reply gives a record, whatever the others hold: a
listing returns all of them in order, a singular lookup the first. Aggregates are sent with the
condition and the values of the listing, and without its order and window. -/
theorem find_first_of_list (c : Criteria) :
    ((∃ fault, (dao.run conn (.find c) slot s).1 = .error (.invalidArgument fault)) ↔
      ∃ w, c.window? = some w ∧ 1 < w.count) ∧
    dao.calls conn (.list c) slot s
      = [.query ⟨d.queryText c ++ Window.clause c.window?, c.filter.values⟩] ∧
    ((¬∃ w, c.window? = some w ∧ 1 < w.count) → ∃ w : Window,
      dao.calls conn (.find c) slot s
        = [.query ⟨d.queryText c ++ Window.clause (some w), c.filter.values⟩] ∧
      ∀ (α : Type) (all : List α), w.rows all = (Window.rowsIn c.window? all).take 1) ∧
    (∀ (op : Operation E .entities) (statement : Statement) (rows : List Row),
      dao.calls conn op slot s = [.query statement] → (conn.query statement s).1 = .ok rows →
      (dao.run conn op slot s).1 = .ok (rows.map fun row => (E.ofRow row).record)) ∧
    (∀ (op : Operation E .entity) (statement : Statement) (rows : List Row),
      dao.calls conn op slot s = [.query statement] → (conn.query statement s).1 = .ok rows →
      (dao.run conn op slot s).1 = .ok (rows.map fun row => (E.ofRow row).record).head?) ∧
    dao.calls conn (.count c) slot s
      = [.query ⟨d.aggregateText .count "*" ++ Statement.clause c.filter.sql, c.filter.values⟩] ∧
    ∀ field, Text.isBlank field = false →
      let least : Statement :=
        ⟨d.aggregateText .min field ++ Statement.clause c.filter.sql, c.filter.values⟩
      let greatest : Statement :=
        ⟨d.aggregateText .max field ++ Statement.clause c.filter.sql, c.filter.values⟩
      dao.calls conn (.minInt field c) slot s = [.query least] ∧
      dao.calls conn (.minLong field c) slot s = [.query least] ∧
      dao.calls conn (.maxInt field c) slot s = [.query greatest] ∧
      dao.calls conn (.maxLong field c) slot s = [.query greatest] := by
  refine ⟨dao.run_find_eq_invalidArgument_iff conn slot s hd c, dao.calls_list conn slot s hd c,
    ?_, fun op statement rows => dao.run_entities conn slot s,
    fun op statement rows => dao.run_entity conn slot s, dao.calls_count conn slot s hd c, ?_⟩
  · intro hnarrow
    cases hw : Descriptor.singleWindow c with
    | error e =>
      obtain ⟨w, hwindow, hwide, -⟩ := Descriptor.singleWindow_eq_error_iff.1 hw
      exact absurd ⟨w, hwindow, hwide⟩ hnarrow
    | ok w =>
      exact ⟨w, dao.calls_find conn slot s hd hw, fun α all => Descriptor.rows_singleWindow hw all⟩
  · intro field hfield
    refine ⟨?_, ?_, ?_, ?_⟩
    all_goals exact dao.calls_of_prepareAggregate conn slot s hd hfield rfl

end Resolved

end Dao

namespace Gauge

def answering : Connection Unit where
  execute _ s := (.ok 0, s)
  query _ s := (.ok [reopened, garbled], s)

def latest : Criteria where
  filter := ⟨[.compare "level" .ge (.int 2)]⟩
  order := [⟨"closed", .desc⟩]

theorem find_first_of_list_latest :
    let dao : Dao gauge := ⟨some descriptor⟩
    let text :=
      "SELECT gauge_id, level, open, closed FROM gauge WHERE level >= ? ORDER BY closed DESC"
    dao.calls answering (.list latest) {} () = [.query ⟨text, [.int 2]⟩] ∧
    dao.calls answering (.find latest) {} () = [.query ⟨text ++ " LIMIT 0,1", [.int 2]⟩] ∧
    (dao.run answering (.list latest) {} ()).1
      = .ok [(gauge.ofRow reopened).record, (gauge.ofRow garbled).record] ∧
    (dao.run answering (.find latest) {} ()).1 = .ok (some (gauge.ofRow reopened).record) ∧
    dao.calls answering (.maxInt "level" latest) {} ()
      = [.query ⟨"SELECT MAX(level) FROM gauge WHERE level >= ?", [.int 2]⟩] ∧
    ∃ fault, (dao.run answering (.find { latest with window? := some ⟨0, 2⟩ }) {} ()).1
      = .error (.invalidArgument fault) := by
  intro dao text
  have hd : (dao.resolve {}).1 = .ok descriptor := rfl
  obtain ⟨-, -, -, hlist, hfind, -, haggregate⟩ :=
    dao.find_first_of_list answering {} () hd latest
  have hrefused := (dao.find_first_of_list answering {} () hd
    { latest with window? := some ⟨0, 2⟩ }).1
  refine ⟨by decide, by decide, hlist _ ⟨text, [.int 2]⟩ _ (by decide) rfl,
    hfind _ ⟨text ++ " LIMIT 0,1", [.int 2]⟩ _ (by decide) rfl,
    (haggregate "level" (by decide)).2.2.1.trans (by decide), ?_⟩
  exact hrefused.2 ⟨⟨0, 2⟩, rfl, by decide⟩

end Gauge
end DataMapper
