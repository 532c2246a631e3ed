import DataMapper.Proofs.Representation
import DataMapper.Proofs.Resolution

/-! # A stored entity type as a map

On a connection that keeps the table of a descriptor, a data access object is a
map from identifiers to records: every request is answered as by the map that
the accepted writes before it have made.
-/
namespace DataMapper

def foundCount {α : Type} (found : Option α) : UInt64 :=
  if found.isSome then 1 else 0

theorem ofNat_length_toList {α : Type} (found : Option α) :
    UInt64.ofNat found.toList.length = foundCount found := by
  cases found <;> rfl

namespace Descriptor.Represents
variable {E : EntityType} {d : Descriptor E} {kept : E.Keeping}
  {σ : Type} {conn : Connection σ} {rows : σ → List StoredRow}
  (hkeeps : conn.Keeps d.schema rows) (law : d.Lawful kept) {m : Contents E} {s : σ}
  (h : d.Represents (rows s) m)
include hkeeps law h

theorem execute_insert_of_none {r : E.Rec} {id : String} (hid : E.identifier r = some id)
    (hnone : m id = none) :
    (conn.execute (d.insert r false) s).1 = .ok 1 ∧
    d.Represents (rows (conn.execute (d.insert r false) s).2) (m.enter r) := by
  obtain ⟨hkey, rfl⟩ := law.keyForm hid
  have habsent : ∀ stored ∈ rows s,
      d.schema.keyed (d.schema.inserted (d.insertValues r) d.schema.key) stored = false := by
    intro stored hmem
    have hnil := h.filter_keyed hkey (.same _)
    rw [h.rowsAt_eq_nil hkey hnone] at hnil
    rw [inserted_key law.names]
    exact Bool.eq_false_iff.2 (List.filter_eq_nil_iff.1 hnil stored hmem)
  rw [d.insert_eq]
  obtain ⟨hreply, hrows⟩ := hkeeps.insert_absent s _ (length_insertValues r) habsent
  exact ⟨hreply, (h.cons hkey hid hnone (stores_inserted law.names r)).perm hrows⟩

theorem execute_insert_of_some {r known : E.Rec} {id : String} (hid : E.identifier r = some id)
    (hsome : m id = some known) :
    (∃ fault, (conn.execute (d.insert r false) s).1 = .error fault) ∧
    d.Represents (rows (conn.execute (d.insert r false) s).2) m := by
  obtain ⟨hkey, rfl⟩ := law.keyForm hid
  have hpresent : ∃ stored ∈ rows s,
      d.schema.keyed (d.schema.inserted (d.insertValues r) d.schema.key) stored = true := by
    obtain ⟨stored, hat, -⟩ := h.rowsAt_eq_singleton hkey hsome
    have hmem : stored ∈ (rows s).filter (d.schema.keyed (d.idColumn.read r)) := by
      rw [h.filter_keyed hkey (.same _), hat]
      exact List.mem_cons_self
    rw [inserted_key law.names]
    exact ⟨stored, List.mem_filter.1 hmem⟩
  rw [d.insert_eq]
  obtain ⟨hreply, hrows⟩ := hkeeps.insert_present s _ (length_insertValues r) hpresent
  exact ⟨hreply, h.perm hrows⟩

theorem execute_update {r : E.Rec} {id : String} (hid : E.identifier r = some id) :
    (conn.execute (d.update r) s).1 = .ok (foundCount (m id)) ∧
    d.Represents (rows (conn.execute (d.update r) s).2)
      (if (m id).isSome then m.enter r else m) := by
  obtain ⟨hkey, rfl⟩ := law.keyForm hid
  have hothers := others_schema law.names
  rw [update_eq law.names]
  obtain ⟨hreply, hrows⟩ := hkeeps.update s (d.dataColumns.map (·.read r)) (d.idColumn.read r)
    (by simpa [hothers, updateColumns] using law.dataColumns_ne_nil)
    (by simp [hothers, updateColumns])
  refine ⟨?_, (h.map_updated law.names hkey hid).perm hrows⟩
  rw [← ofNat_length_toList, ← h.length_filter_keyed hkey (.same _)]
  exact hreply

omit law in
theorem execute_deleteById {w : SqlValue} (hw : KeyForm d.idColumn.kind w) :
    (conn.execute (d.deleteById (d.bindId w.display)) s).1 = .ok (foundCount (m w.display)) ∧
    d.Represents (rows (conn.execute (d.deleteById (d.bindId w.display)) s).2)
      (m.remove w.display) := by
  have hform := hw.databaseForm_bindId
  rw [d.deleteById_eq]
  obtain ⟨hreply, hrows⟩ := hkeeps.delete s (d.bindId w.display)
  refine ⟨?_, (h.filter_not_keyed hw hform).perm hrows⟩
  rw [← ofNat_length_toList, ← h.length_filter_keyed hw hform]
  exact hreply

theorem query_selectById {w : SqlValue} (hw : KeyForm d.idColumn.kind w) :
    (∃ reply, (conn.query (d.selectById (d.bindId w.display)) s).1 = .ok reply ∧
      (Answer.records E reply).head? = (m w.display).map (d.restored kept)) ∧
    d.Represents (rows (conn.query (d.selectById (d.bindId w.display)) s).2) m := by
  rw [d.selectById_eq]
  obtain ⟨⟨reply, found, hreply, hfound, hshows⟩, hrows⟩ := hkeeps.select s (d.bindId w.display)
  refine ⟨⟨reply, hreply, ?_⟩, h.perm hrows⟩
  rw [h.filter_keyed hw hw.databaseForm_bindId] at hfound
  obtain rfl := eq_of_perm_of_forall₂_toList (h.stores w hw) hfound
  cases hm : m w.display with
  | none =>
    rw [h.rowsAt_eq_nil hw hm] at hshows
    cases hshows
    rfl
  | some r =>
    obtain ⟨stored, hat, hstored⟩ := h.rowsAt_eq_singleton hw hm
    rw [hat] at hshows
    obtain ⟨row, rest, hrow, -, rfl⟩ := List.forall₂_cons_left_iff.1 hshows
    exact congrArg some (ofRow_of_shows law.names law.storable hstored hrow)

end Descriptor.Represents

/-! ## Requests in a row -/

inductive Request (E : EntityType) where
  | insert (r : E.Rec)
  | update (r : E.Rec)
  | deleteById (id : String)
  | load (id : String)

inductive Exchange (E : EntityType) where
  | insert (r : E.Rec) (reply : Except Failure UInt64)
  | update (r : E.Rec) (reply : Except Failure UInt64)
  | deleteById (id : String) (reply : Except Failure UInt64)
  | load (id : String) (reply : Except Failure (Option E.Rec))

/-- Records have an identifier, and other identifiers are texts of values that their column holds. -/
def Request.Identified {E : EntityType} (d : Descriptor E) : Request E → Prop
  | insert r | update r => (E.identifier r).isSome
  | deleteById id | load id => ∃ w, KeyForm d.idColumn.kind w ∧ w.display = id

namespace Exchange
variable {E : EntityType}

def request : Exchange E → Request E
  | insert r _ => .insert r
  | update r _ => .update r
  | deleteById id _ => .deleteById id
  | load id _ => .load id

/-- The records known after an exchange. An accepted insertion enters its record, and so does an
update that affects a row; an accepted deletion removes one. -/
def after (m : Contents E) : Exchange E → Contents E
  | insert r (.ok _) => m.enter r
  | update r (.ok n) => if n = 0 then m else m.enter r
  | deleteById id (.ok _) => m.remove id
  | _ => m

def contents (history : List (Exchange E)) : Contents E :=
  history.foldl after fun _ => none

/-- The reply is the one of a map from identifiers to records. Only an insertion under a known
identifier fails, and records are loaded as they are kept. -/
def Follows (d : Descriptor E) (kept : E.Keeping)
    (m : Contents E) : Exchange E → Prop
  | insert r reply => ∀ id, E.identifier r = some id →
      (m id = none → reply = .ok 1) ∧
      (m id ≠ none → ∃ fault, reply = .error (.dataAccess (d.insert r false) fault))
  | update r reply => ∀ id, E.identifier r = some id → reply = .ok (foundCount (m id))
  | deleteById id reply => reply = .ok (foundCount (m id))
  | load id reply => reply = .ok ((m id).map (d.restored kept))

end Exchange

namespace Dao
variable {E : EntityType} {σ : Type} (conn : Connection σ)

def answer (dao : Dao E) (slot : Slot E) (s : σ) :
    Request E → Exchange E × Dao E × Slot E × σ
  | .insert r =>
    let run := dao.run conn (.insert r) slot s
    (.insert r run.1, run.2)
  | .update r =>
    let run := dao.run conn (.update r) slot s
    (.update r run.1, run.2)
  | .deleteById id =>
    let run := dao.run conn (.deleteById id) slot s
    (.deleteById id run.1, run.2)
  | .load id =>
    let run := dao.run conn (.load id) slot s
    (.load id run.1, run.2)

def serve : List (Request E) → Dao E → Slot E → σ → List (Exchange E)
  | [], _, _, _ => []
  | q :: qs, dao, slot, s =>
    let (x, dao, slot, s) := dao.answer conn slot s q
    x :: serve qs dao slot s

theorem serve_cons (q : Request E) (qs : List (Request E)) (dao : Dao E) (slot : Slot E) (s : σ) :
    serve conn (q :: qs) dao slot s =
      (dao.answer conn slot s q).1 :: serve conn qs (dao.answer conn slot s q).2.1
        (dao.answer conn slot s q).2.2.1 (dao.answer conn slot s q).2.2.2 :=
  rfl

variable {conn} {d : Descriptor E} {kept : E.Keeping}
  {rows : σ → List StoredRow} {dao : Dao E} {slot : Slot E} {s : σ} {m : Contents E}

theorem perform_affected {statement : Statement} {n : UInt64}
    (h : (conn.execute statement s).1 = .ok n) :
    (Operation.perform conn statement s : Except Failure (Answer.affected.Value E) × σ)
      = (.ok n, (conn.execute statement s).2) := by
  change ((conn.execute statement s).1.mapError _, _) = _
  rw [h]
  rfl

theorem perform_affected_of_error {statement : Statement} {fault : ConnectionFault}
    (h : (conn.execute statement s).1 = .error fault) :
    (Operation.perform conn statement s : Except Failure (Answer.affected.Value E) × σ)
      = (.error (.dataAccess statement fault), (conn.execute statement s).2) := by
  change ((conn.execute statement s).1.mapError _, _) = _
  rw [h]
  rfl

theorem perform_entity {statement : Statement} {reply : List Row}
    (h : (conn.query statement s).1 = .ok reply) :
    (Operation.perform conn statement s : Except Failure (Answer.entity.Value E) × σ)
      = (.ok (Answer.records E reply).head?, (conn.query statement s).2) := by
  change (((conn.query statement s).1.map _).mapError _, _) = _
  rw [h]
  rfl

structure Refines (d : Descriptor E) (kept : E.Keeping)
    (rows : σ → List StoredRow) (m : Contents E) (served : Exchange E × Dao E × Slot E × σ) :
    Prop where
  follows : served.1.Follows d kept m
  resolve : (served.2.1.resolve served.2.2.1).1 = .ok d
  represents : d.Represents (rows served.2.2.2) (served.1.after m)

section Step
variable (hkeeps : conn.Keeps d.schema rows) (law : d.Lawful kept)
  (hd : (dao.resolve slot).1 = .ok d) (h : d.Represents (rows s) m)
include hkeeps law hd h

theorem answer_insert {r : E.Rec} {id : String} (hid : E.identifier r = some id) :
    Refines d kept rows m (dao.answer conn slot s (.insert r)) := by
  have hprepare : (Operation.insert r).prepare conn.delayedInsert
      = .ok (.mapped fun d => .ok (d.insert r false)) := by
    simp only [Operation.prepare, Operation.requireId, hid]
    rfl
  have hrun := dao.run_of_resolve conn slot s hd hprepare rfl
  cases hm : m id with
  | none =>
    obtain ⟨hreply, hafter⟩ := h.execute_insert_of_none hkeeps law hid hm
    rw [perform_affected hreply] at hrun
    simp only [answer, hrun]
    refine ⟨?_, resolve_resolve dao slot hd, hafter⟩
    intro id' hid'
    obtain rfl : id = id' := Option.some.inj (hid.symm.trans hid')
    exact ⟨fun _ => rfl, fun hne => absurd hm hne⟩
  | some known =>
    obtain ⟨⟨fault, hreply⟩, hafter⟩ := h.execute_insert_of_some hkeeps law hid hm
    rw [perform_affected_of_error hreply] at hrun
    simp only [answer, hrun]
    refine ⟨?_, resolve_resolve dao slot hd, hafter⟩
    intro id' hid'
    obtain rfl : id = id' := Option.some.inj (hid.symm.trans hid')
    exact ⟨fun hnone => absurd (hm.symm.trans hnone) (by simp), fun _ => ⟨fault, rfl⟩⟩

theorem answer_update {r : E.Rec} {id : String} (hid : E.identifier r = some id) :
    Refines d kept rows m (dao.answer conn slot s (.update r)) := by
  have hprepare : (Operation.update r).prepare conn.delayedInsert
      = .ok (.mapped fun d => .ok (d.update r)) := by
    simp only [Operation.prepare, Operation.requireId, hid]
    rfl
  have hrun := dao.run_of_resolve conn slot s hd hprepare rfl
  obtain ⟨hreply, hafter⟩ := h.execute_update hkeeps law hid
  rw [perform_affected hreply] at hrun
  simp only [answer, hrun]
  refine ⟨?_, resolve_resolve dao slot hd, ?_⟩
  · intro id' hid'
    obtain rfl : id = id' := Option.some.inj (hid.symm.trans hid')
    rfl
  · -- the count in the reply tells whether the map has changed
    cases hm : m id with
    | none => simpa [Exchange.after, foundCount, hm] using hafter
    | some known => simpa [Exchange.after, foundCount, hm] using hafter

omit law in
theorem answer_deleteById {w : SqlValue} (hw : KeyForm d.idColumn.kind w) :
    Refines d kept rows m (dao.answer conn slot s (.deleteById w.display)) := by
  have hprepare : (Operation.deleteById (E := E) w.display).prepare conn.delayedInsert
      = .ok (.mapped fun d => .ok (d.deleteById (d.bindId w.display))) := rfl
  have hrun := dao.run_of_resolve conn slot s hd hprepare rfl
  obtain ⟨hreply, hafter⟩ := h.execute_deleteById hkeeps hw
  rw [perform_affected hreply] at hrun
  simp only [answer, hrun]
  exact ⟨rfl, resolve_resolve dao slot hd, hafter⟩

theorem answer_load {w : SqlValue} (hw : KeyForm d.idColumn.kind w) :
    Refines d kept rows m (dao.answer conn slot s (.load w.display)) := by
  have hprepare : (Operation.load (E := E) w.display).prepare conn.delayedInsert
      = .ok (.mapped fun d => .ok (d.selectById (d.bindId w.display))) := rfl
  have hrun := dao.run_of_resolve conn slot s hd hprepare rfl
  obtain ⟨⟨reply, hreply, hfound⟩, hafter⟩ := h.query_selectById hkeeps law hw
  rw [perform_entity hreply, hfound] at hrun
  simp only [answer, hrun]
  exact ⟨rfl, resolve_resolve dao slot hd, hafter⟩

theorem answer_refines {q : Request E} (hq : q.Identified d) :
    Refines d kept rows m (dao.answer conn slot s q) := by
  cases q with
  | insert r =>
    obtain ⟨id, hid⟩ := Option.isSome_iff_exists.1 hq
    exact answer_insert hkeeps law hd h hid
  | update r =>
    obtain ⟨id, hid⟩ := Option.isSome_iff_exists.1 hq
    exact answer_update hkeeps law hd h hid
  | deleteById id =>
    obtain ⟨w, hw, rfl⟩ := hq
    exact answer_deleteById hkeeps hd h hw
  | load id =>
    obtain ⟨w, hw, rfl⟩ := hq
    exact answer_load hkeeps law hd h hw

end Step

theorem request_answer (dao : Dao E) (slot : Slot E) (s : σ) (q : Request E) :
    (dao.answer conn slot s q).1.request = q := by
  cases q <;> rfl

theorem map_request_serve (qs : List (Request E)) (dao : Dao E) (slot : Slot E) (s : σ) :
    (serve conn qs dao slot s).map Exchange.request = qs := by
  induction qs generalizing dao slot s with
  | nil => rfl
  | cons q qs ih => exact congrArg₂ List.cons (request_answer dao slot s q) (ih _ _ _)

theorem follows_of_mem_serve (hkeeps : conn.Keeps d.schema rows) (law : d.Lawful kept)
    (hd : (dao.resolve slot).1 = .ok d) (h : d.Represents (rows s) m) {qs : List (Request E)}
    (hqs : ∀ q ∈ qs, q.Identified d) {before rest : List (Exchange E)} {x : Exchange E}
    (hserve : serve conn qs dao slot s = before ++ x :: rest) :
    x.Follows d kept (before.foldl Exchange.after m) := by
  -- over the requests; the rows represent the map that the exchanges so far have made
  induction qs generalizing dao slot s m before with
  | nil => exact absurd hserve (by simp [serve])
  | cons q qs ih =>
    obtain ⟨hq, hrest⟩ := List.forall_mem_cons.1 hqs
    obtain ⟨hfollows, hresolve, hrepresents⟩ := answer_refines hkeeps law hd h hq
    rw [serve_cons] at hserve
    cases before with
    | nil =>
      obtain ⟨rfl, -⟩ := List.cons.inj hserve
      exact hfollows
    | cons y before =>
      obtain ⟨rfl, htail⟩ := List.cons.inj hserve
      exact ih hresolve hrepresents hrest htail

/-- From an empty table on, every reply is the one of the map that the accepted writes before it
have made. In particular a record is loaded as the last one that was accepted under its identifier
and not deleted since. -/
theorem serve_follows (hkeeps : conn.Keeps d.schema rows) (law : d.Lawful kept)
    (hd : (dao.resolve slot).1 = .ok d) (hempty : rows s = []) {qs : List (Request E)}
    (hqs : ∀ q ∈ qs, q.Identified d) :
    (serve conn qs dao slot s).map Exchange.request = qs ∧
    ∀ before x rest, serve conn qs dao slot s = before ++ x :: rest →
      x.Follows d kept (Exchange.contents before) := by
  have h : d.Represents (rows s) fun _ => none := by
    rw [hempty]
    exact Descriptor.represents_nil
  refine ⟨map_request_serve qs dao slot s, ?_⟩
  intro before x rest hserve
  exact follows_of_mem_serve hkeeps law hd h hqs hserve

end Dao

namespace Gauge

theorem lawful : descriptor.Lawful kept where
  names := distinctNames
  storable c _ := storable c.index
  identifying := trivial
  dataColumns_ne_nil := by decide
  read_identifier r id hid := by
    have hread : descriptor.idColumn.read r = .text id := congrArg (SqlValue.ofOption .text) hid
    rw [hread]
    exact ⟨by simp, rfl⟩

theorem serve_closed :
    Dao.serve descriptor.schema.connection [.insert closed, .load "G1"] {} {} []
      = [.insert closed (.ok 1), .load "G1" (.ok (some (descriptor.restored kept closed)))] := by
  have hbuild : Descriptor.build gauge none = .ok descriptor :=
    Descriptor.build_eq_ok_iff.2 (by decide)
  have hresolve : (Dao.resolve (E := gauge) {} {}).1 = .ok descriptor := by
    simp only [Dao.resolve, Slot.resolve, hbuild]
  have hidentified : ∀ q ∈ [Request.insert closed, .load "G1"], q.Identified descriptor := by
    intro q hq
    rcases List.mem_cons.1 hq with rfl | hq
    · rfl
    · obtain rfl := List.mem_singleton.1 hq
      exact ⟨.text "G1", .text (show ColumnKind.string.TakesText from trivial) _, rfl⟩
  obtain ⟨hrequests, hfollows⟩ :=
    Dao.serve_follows descriptor.schema.keeps_connection lawful hresolve rfl hidentified
  obtain ⟨x, rest, hserve, hx, hrest⟩ := List.map_eq_cons_iff.1 hrequests
  obtain ⟨y, rest, rfl, hy, hnil⟩ := List.map_eq_cons_iff.1 hrest
  obtain rfl := List.map_eq_nil_iff.1 hnil
  have hfirst := hfollows [] x [y] hserve
  have hsecond := hfollows [x] y [] hserve
  rw [hserve]
  cases x with
  | insert r reply =>
    obtain rfl : r = closed := Request.insert.inj hx
    obtain rfl : reply = .ok 1 := (hfirst "G1" rfl).1 rfl
    cases y with
    | load id reply =>
      obtain rfl : id = "G1" := Request.load.inj hy
      obtain rfl : reply = .ok (some (descriptor.restored kept closed)) := hsecond
      rfl
    | insert | update | deleteById => cases hy
  | update | deleteById | load => cases hx

end Gauge
end DataMapper
