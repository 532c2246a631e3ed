import DataMapper.Proofs.StoredRecord

/-! # Rows that represent a map

The rows of a table represent a map from identifiers to records if the rows
with a given key are the row of the record known under it, or none. New rows,
updates and deletions lead to rows that represent the map after them.
-/
namespace DataMapper

abbrev Contents (E : EntityType) : Type :=
  String → Option E.Rec

namespace Contents
variable {E : EntityType} (m : Contents E)

def enter (r : E.Rec) : Contents E :=
  fun id => if E.identifier r = some id then some r else m id

def remove (id : String) : Contents E :=
  fun other => if other = id then none else m other

variable {kind : ColumnKind} {v w : SqlValue}

theorem enter_display {r : E.Rec} (hid : E.identifier r = some w.display) (hw : KeyForm kind w)
    (hv : KeyForm kind v) : m.enter r v.display = if v = w then some r else m v.display := by
  unfold enter
  refine if_congr ?_ rfl rfl
  rw [hid, Option.some.injEq, hw.display_inj hv]
  exact eq_comm

theorem remove_display (hw : KeyForm kind w) (hv : KeyForm kind v) :
    m.remove w.display v.display = if v = w then none else m v.display :=
  if_congr (hv.display_inj hw) rfl rfl

end Contents

theorem eq_of_perm_of_forall₂_toList {α β : Type*} {rel : α → β → Prop} {l l' : List α}
    {o : Option β} (h : List.Forall₂ rel l o.toList) (hp : l'.Perm l) : l' = l := by
  cases o with
  | none =>
    obtain rfl := List.forall₂_nil_right_iff.1 h
    exact hp.eq_nil
  | some b =>
    obtain ⟨a, l, -, hl, rfl⟩ := List.forall₂_cons_right_iff.1 h
    obtain rfl := List.forall₂_nil_right_iff.1 hl
    exact List.perm_singleton.1 hp

namespace Descriptor
variable {E : EntityType} {d : Descriptor E} {kept : E.Keeping}
  {rows rows' : List StoredRow} {m : Contents E} {v w : SqlValue}

/-- What the round trip of a record asks of its type, with an identifier that displays as the value
that its column binds, and something to update. -/
structure Lawful (d : Descriptor E) (kept : E.Keeping) : Prop where
  names : DistinctNames d.columnNames
  storable : d.StorableAs kept
  identifying : d.idColumn.kind.Identifying
  dataColumns_ne_nil : d.dataColumns ≠ []
  read_identifier : ∀ r id, E.identifier r = some id →
    d.idColumn.read r ≠ .null ∧ (d.idColumn.read r).display = id

theorem Lawful.keyForm (law : d.Lawful kept) {r : E.Rec} {id : String}
    (hid : E.identifier r = some id) :
    KeyForm d.idColumn.kind (d.idColumn.read r) ∧ (d.idColumn.read r).display = id := by
  obtain ⟨hne, hdisplay⟩ := law.read_identifier r id hid
  obtain ⟨hmem, -⟩ := d.idColumn_mem
  have hkind := EntityType.kind_of_mem_columns hmem
  exact ⟨(law.storable _ hmem).keyForm hkind law.identifying hne, hdisplay⟩

def rowsAt (d : Descriptor E) (w : SqlValue) (rows : List StoredRow) : List StoredRow :=
  rows.filter fun stored => stored d.idColumn.name == w

theorem rowsAt_cons (stored : StoredRow) : d.rowsAt w (stored :: rows)
    = if stored d.idColumn.name = w then stored :: d.rowsAt w rows else d.rowsAt w rows := by
  simp only [rowsAt, List.filter_cons, beq_iff_eq]

structure Represents (d : Descriptor E) (rows : List StoredRow) (m : Contents E) : Prop where
  keys : ∀ stored ∈ rows, KeyForm d.idColumn.kind (stored d.idColumn.name)
  stores : ∀ w, KeyForm d.idColumn.kind w →
    List.Forall₂ d.Stores (d.rowsAt w rows) (m w.display).toList

theorem represents_nil : d.Represents [] fun _ => none where
  keys _ h := by cases h
  stores _ _ := .nil

namespace Represents

theorem perm (h : d.Represents rows m) (hp : rows'.Perm rows) : d.Represents rows' m where
  keys stored hstored := h.keys stored (hp.subset hstored)
  stores w hw := by
    have hsame : d.rowsAt w rows' = d.rowsAt w rows :=
      eq_of_perm_of_forall₂_toList (h.stores w hw) (hp.filter _)
    rw [hsame]
    exact h.stores w hw

/-- A condition on the key selects the rows with that key, in whatever form it is bound. -/
theorem keyed_eq (h : d.Represents rows m) (hw : KeyForm d.idColumn.kind w)
    (hform : w.DatabaseForm v) {stored : StoredRow} (hstored : stored ∈ rows) :
    d.schema.keyed v stored = (stored d.idColumn.name == w) := by
  rw [Bool.eq_iff_iff, beq_iff_eq]
  exact (h.keys stored hstored).equals_iff hw hform

theorem filter_keyed (h : d.Represents rows m) (hw : KeyForm d.idColumn.kind w)
    (hform : w.DatabaseForm v) : rows.filter (d.schema.keyed v) = d.rowsAt w rows :=
  List.filter_congr fun _ hstored => h.keyed_eq hw hform hstored

theorem length_filter_keyed (h : d.Represents rows m) (hw : KeyForm d.idColumn.kind w)
    (hform : w.DatabaseForm v) :
    (rows.filter (d.schema.keyed v)).length = (m w.display).toList.length := by
  rw [h.filter_keyed hw hform]
  exact (h.stores w hw).length_eq

theorem rowsAt_eq_nil (h : d.Represents rows m) (hw : KeyForm d.idColumn.kind w)
    (hnone : m w.display = none) : d.rowsAt w rows = [] := by
  have hstores := h.stores w hw
  rw [hnone] at hstores
  exact List.forall₂_nil_right_iff.1 hstores

theorem rowsAt_eq_singleton (h : d.Represents rows m) (hw : KeyForm d.idColumn.kind w) {r : E.Rec}
    (hsome : m w.display = some r) : ∃ stored, d.rowsAt w rows = [stored] ∧ d.Stores stored r := by
  have hstores := h.stores w hw
  rw [hsome] at hstores
  obtain ⟨stored, rest, hstored, hrest, hrows⟩ := List.forall₂_cons_right_iff.1 hstores
  obtain rfl := List.forall₂_nil_right_iff.1 hrest
  exact ⟨stored, hrows, hstored⟩

/-- A new row enters its record. -/
theorem cons (h : d.Represents rows m) {r : E.Rec} {stored : StoredRow}
    (hkey : KeyForm d.idColumn.kind (d.idColumn.read r))
    (hid : E.identifier r = some (d.idColumn.read r).display)
    (hnone : m (d.idColumn.read r).display = none) (hstored : d.Stores stored r) :
    d.Represents (stored :: rows) (m.enter r) where
  keys other hother := by
    rcases List.mem_cons.1 hother with rfl | hother
    · rw [hstored.key]
      exact hkey
    · exact h.keys other hother
  stores w hw := by
    rw [m.enter_display hid hkey hw, rowsAt_cons, hstored.key]
    by_cases hsame : w = d.idColumn.read r
    · rw [if_pos hsame, if_pos hsame.symm, hsame, h.rowsAt_eq_nil hkey hnone]
      exact .cons hstored .nil
    · rw [if_neg hsame, if_neg (Ne.symm hsame)]
      exact h.stores w hw

theorem rowsAt_map_updated (h : d.Represents rows m) (names : DistinctNames d.columnNames)
    (hw : KeyForm d.idColumn.kind w) (values : List SqlValue) (v : SqlValue) :
    d.rowsAt v (rows.map (d.schema.updated w values))
      = if v = w then (d.rowsAt w rows).map (·.assign d.schema.others values)
        else d.rowsAt v rows := by
  have hmap : d.rowsAt v (rows.map (d.schema.updated w values))
      = (d.rowsAt v rows).map (d.schema.updated w values) := by
    unfold rowsAt
    rw [List.filter_map]
    refine congrArg (List.map _) (List.filter_congr ?_)
    intro stored _
    rw [Function.comp_apply, updated_idColumn names]
  -- among rows with one key the condition of the update holds of all or of none
  have hupdated : ∀ stored ∈ d.rowsAt v rows, d.schema.updated w values stored
      = if v = w then stored.assign d.schema.others values else stored := by
    intro stored hstored
    obtain ⟨hmem, hat⟩ := List.mem_filter.1 hstored
    rw [beq_iff_eq] at hat
    unfold Schema.updated
    rw [h.keyed_eq hw (.same w) hmem, hat]
    exact if_congr beq_iff_eq rfl rfl
  rw [hmap, List.map_congr_left hupdated]
  by_cases hsame : v = w
  · subst hsame
    simp only [if_true]
  · simp only [if_neg hsame, List.map_id']

/-- An update enters its record if the identifier is known. -/
theorem map_updated (h : d.Represents rows m) (names : DistinctNames d.columnNames) {r : E.Rec}
    (hkey : KeyForm d.idColumn.kind (d.idColumn.read r))
    (hid : E.identifier r = some (d.idColumn.read r).display) :
    d.Represents
      (rows.map (d.schema.updated (d.idColumn.read r) (d.dataColumns.map (·.read r))))
      (if (m (d.idColumn.read r).display).isSome then m.enter r else m) where
  keys updated hupdated := by
    obtain ⟨stored, hstored, rfl⟩ := List.mem_map.1 hupdated
    rw [updated_idColumn names]
    exact h.keys stored hstored
  stores w hw := by
    have hrows := h.stores w hw
    rw [h.rowsAt_map_updated names hkey]
    cases hm : m (d.idColumn.read r).display with
    | none =>
      -- no row has the key, so none is changed
      rw [h.rowsAt_eq_nil hkey hm]
      by_cases hsame : w = d.idColumn.read r
      · rw [if_pos hsame, hsame]
        simp [hm]
      · rw [if_neg hsame]
        exact hrows
    | some known =>
      rw [Option.isSome_some, if_pos rfl, m.enter_display hid hkey hw]
      by_cases hsame : w = d.idColumn.read r
      · rw [if_pos hsame, if_pos hsame]
        obtain ⟨stored, hat, -⟩ := h.rowsAt_eq_singleton hkey hm
        have hstored : stored ∈ d.rowsAt (d.idColumn.read r) rows := by simp [hat]
        rw [hat]
        refine .cons (stores_assign_others names ?_) .nil
        exact beq_iff_eq.1 (List.mem_filter.1 hstored).2
      · rw [if_neg hsame, if_neg hsame]
        exact hrows

theorem rowsAt_filter_not_keyed (h : d.Represents rows m) (hw : KeyForm d.idColumn.kind w)
    (hform : w.DatabaseForm v) (u : SqlValue) :
    d.rowsAt u (rows.filter fun stored => !d.schema.keyed v stored)
      = if u = w then [] else d.rowsAt u rows := by
  unfold rowsAt
  rw [List.filter_filter]
  by_cases hsame : u = w
  · rw [if_pos hsame, List.filter_eq_nil_iff]
    intro stored hstored
    rw [h.keyed_eq hw hform hstored, hsame, Bool.and_not_self]
    exact Bool.false_ne_true
  · rw [if_neg hsame]
    refine List.filter_congr ?_
    intro stored hstored
    rw [h.keyed_eq hw hform hstored]
    cases hu : stored d.idColumn.name == u with
    | false => rfl
    | true => simp [beq_iff_eq.1 hu, hsame]

theorem filter_not_keyed (h : d.Represents rows m) (hw : KeyForm d.idColumn.kind w)
    (hform : w.DatabaseForm v) :
    d.Represents (rows.filter fun stored => !d.schema.keyed v stored) (m.remove w.display) where
  keys stored hstored := h.keys stored (List.mem_filter.1 hstored).1
  stores u hu := by
    rw [m.remove_display hw hu, h.rowsAt_filter_not_keyed hw hform]
    by_cases hsame : u = w
    · rw [if_pos hsame, if_pos hsame]
      exact .nil
    · rw [if_neg hsame, if_neg hsame]
      exact h.stores u hu

end Represents
end Descriptor
end DataMapper
