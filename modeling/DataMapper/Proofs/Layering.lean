import DataMapper.Settings.Loader

/-! # What layers set

An entry of a layer is about a section as a whole or about one key of it. Where
sections are tables of scalars, the merged tree holds for every key what the
last entry about it sets, and a section is there once any entry names it.
-/
namespace DataMapper.Settings

def sections : List String :=
  ["app", "database", "telemetry"]

def Tree.isScalar : Tree → Bool
  | bool _ | int _ | float _ | text _ => true
  | absent | list _ | table _ => false

def Tree.isFlat : Tree → Bool
  | table es => es.all fun e => e.2.isScalar
  | _ => false

theorem Tree.isFlat_iff {t : Tree} :
    t.isFlat = true ↔ ∃ es, t = table es ∧ ∀ e ∈ es, e.2.isScalar = true := by
  cases t <;> simp [isFlat]

namespace KeyPath

/-- What a path sets, if it leads to a section, is a table of scalars or a scalar for a key. -/
def isPlain (part : String) (t : Tree) : KeyPath → Bool
  | [.name p] => p != part || t.isFlat
  | [.name p, .name _] => p != part || t.isScalar
  | .name p :: _ => p != part
  | _ => true

/-- The tree that a path sets for a key of a section: the last one of the key in a whole section, or
the tree itself. -/
def value? (part key : String) (t : Tree) : KeyPath → Option Tree
  | [.name p] => if p = part then t.entries.reverse.lookup key else none
  | [.name p, .name k] => if p = part ∧ k = key then some t else none
  | _ => none

theorem value?_of_head?_ne {path : KeyPath} {part : String}
    (h : path.head? ≠ some (.name part)) (key : String) (t : Tree) :
    path.value? part key t = none := by
  unfold value?
  split
  · next p =>
    have hp : p ≠ part := fun hp => h (congrArg (fun q => some (Segment.name q)) hp)
    exact if_neg hp
  · next p k =>
    have hp : p ≠ part := fun hp => h (congrArg (fun q => some (Segment.name q)) hp)
    exact if_neg fun hpk => hp hpk.1
  · rfl

theorem ofKey_eq_name_cons (key : String) : ∃ name rest, ofKey key = .name name :: rest := by
  unfold ofKey readName
  by_cases h : (key.toList.takeWhile isNameChar).isEmpty = true
  · exact ⟨key, [], by simp [h]⟩
  · simp only [h, Bool.false_eq_true, if_false, Option.bind_eq_bind, Option.bind_some]
    cases readSegments ((key.toList.dropWhile isNameChar).length + 1)
        (key.toList.dropWhile isNameChar) with
    | none => exact ⟨key, [], rfl⟩
    | some rest => exact ⟨_, rest, rfl⟩

end KeyPath

namespace Layer

def Plain (layer : Layer) : Prop :=
  ∀ e ∈ layer, ∀ part ∈ sections, (KeyPath.ofKey e.1).isPlain part e.2 = true

instance (layer : Layer) : Decidable layer.Plain :=
  inferInstanceAs (Decidable (∀ e ∈ layer, ∀ part ∈ sections, _))

def value? (layer : Layer) (part key : String) : Option Tree :=
  layer.reverse.findSome? fun e => (KeyPath.ofKey e.1).value? part key e.2

def Names (layer : Layer) (part : String) : Prop :=
  ∃ e ∈ layer, (KeyPath.ofKey e.1).head? = some (.name part)

theorem value?_append (a b : Layer) (part key : String) :
    (a ++ b : Layer).value? part key = (b.value? part key).or (a.value? part key) := by
  rw [value?, List.reverse_append, List.findSome?_append]
  rfl

theorem names_append {a b : Layer} {part : String} :
    (a ++ b : Layer).Names part ↔ a.Names part ∨ b.Names part := by
  simp only [Names, List.mem_append, or_and_right, exists_or]

theorem value?_eq_none_of_not_names {layer : Layer} {part : String} (h : ¬ layer.Names part)
    (key : String) : layer.value? part key = none := by
  refine List.findSome?_eq_none_iff.2 ?_
  intro e he
  exact KeyPath.value?_of_head?_ne (fun hhead => h ⟨e, List.mem_reverse.1 he, hhead⟩) key e.2

theorem names_of_value? {layer : Layer} {part key : String}
    (h : (layer.value? part key).isSome = true) : layer.Names part := by
  refine Classical.byContradiction fun hnames => ?_
  rw [value?_eq_none_of_not_names hnames] at h
  cases h

end Layer

/-! ## Setting one entry -/

namespace Tree
variable {es incoming : List (String × Tree)} {t : Tree}

theorem put_of_isScalar (h : t.isScalar = true) (key : String) (es : List (String × Tree)) :
    put key t es = insert key t es := by
  cases t <;> first | rfl | cases h

theorem lookup_put_of_ne {key k : String} (h : k ≠ key) :
    (put key t es).lookup k = es.lookup k := by
  have hb : (k == key) = false := beq_eq_false_iff_ne.2 h
  unfold put
  split
  · split
    · rfl
    · rw [List.lookup_append]
      simp [List.lookup_cons, hb]
  · rw [lookup_insert, if_neg h]
  · rw [lookup_insert, if_neg h]

theorem lookup_putAll (h : ∀ e ∈ incoming, e.2.isScalar = true) (es : List (String × Tree))
    (k : String) : (putAll incoming es).lookup k
      = (incoming.reverse.lookup k).or (es.lookup k) := by
  induction incoming generalizing es with
  | nil => rfl
  | cons e rest ih =>
    obtain ⟨key, t⟩ := e
    obtain ⟨ht, hrest⟩ := List.forall_mem_cons.1 h
    rw [putAll, ih hrest, put_of_isScalar ht, lookup_insert, List.reverse_cons, List.lookup_append,
      Option.or_assoc]
    by_cases hk : k = key
    · simp [hk]
    · have hb : (k == key) = false := beq_eq_false_iff_ne.2 hk
      simp [hk, List.lookup_cons, hb]

/-- A table of scalars is merged key by key, in whatever table stood there. -/
theorem lookup_put_table {key : String} (h : ∀ e ∈ incoming, e.2.isScalar = true)
    (hes : ∀ u, es.lookup key = some u → ∃ kvs, u = table kvs) :
    ∃ kvs, (put key (table incoming) es).lookup key = some (table kvs) ∧
      ∀ k, kvs.lookup k
        = (incoming.reverse.lookup k).or (((es.lookup key).getD absent).entries.lookup k) := by
  cases incoming with
  | nil =>
    cases hlookup : es.lookup key with
    | none =>
      refine ⟨[], ?_, fun k => rfl⟩
      rw [put, hlookup, if_neg (by simp), List.lookup_append, hlookup]
      simp
    | some u =>
      obtain ⟨kvs, rfl⟩ := hes u hlookup
      refine ⟨kvs, ?_, fun k => rfl⟩
      rw [put, hlookup, if_pos Option.isSome_some, hlookup]
  | cons e rest =>
    refine ⟨_, ?_, lookup_putAll h _⟩
    rw [put, lookup_insert, if_pos rfl]

end Tree

namespace KeyPath
variable {path : KeyPath} {es : List (String × Tree)} {part : String} {t : Tree}

/-- Setting a path changes the tables of a root, and none but that of the path's first name. -/
theorem set_name_cons (name : String) (rest : KeyPath) (t : Tree) (es : List (String × Tree)) :
    ∃ es', set (.name name :: rest) t (.table es) = .table es' ∧
      ∀ part, part ≠ name → es'.lookup part = es.lookup part := by
  cases rest with
  | nil =>
    refine ⟨Tree.put name t es, rfl, ?_⟩
    intro part hpart
    exact Tree.lookup_put_of_ne hpart
  | cons next rest =>
    refine ⟨_, rfl, ?_⟩
    intro part hpart
    rw [Tree.lookup_insert, if_neg hpart]
    rfl

/-- Setting a plain path to a section makes it a table, where the values of the path stand before
the earlier ones. -/
theorem lookup_set (hplain : path.isPlain part t = true) (hhead : path.head? = some (.name part))
    (hes : ∀ u, es.lookup part = some u → ∃ kvs, u = .table kvs) :
    ∃ es' kvs, set path t (.table es) = .table es' ∧ es'.lookup part = some (.table kvs) ∧
      ∀ key, kvs.lookup key = (path.value? part key t).or
        (((es.lookup part).getD .absent).entries.lookup key) := by
  match path, hplain, hhead with
  | [.name p], hplain, hhead =>
    obtain rfl : p = part := by simpa using hhead
    obtain ⟨incoming, rfl, hscalar⟩ := Tree.isFlat_iff.1 (by simpa [isPlain] using hplain)
    obtain ⟨kvs, hlookup, hvalues⟩ := Tree.lookup_put_table hscalar hes
    refine ⟨_, kvs, rfl, hlookup, ?_⟩
    intro key
    rw [hvalues, value?, if_pos rfl]
    rfl
  | [.name p, .name k], hplain, hhead =>
    obtain rfl : p = part := by simpa using hhead
    have hscalar : t.isScalar = true := by simpa [isPlain] using hplain
    refine ⟨_, Tree.put k t ((es.lookup p).getD .absent).entries, rfl, ?_, ?_⟩
    · rw [Tree.lookup_insert, if_pos rfl, set]
      rfl
    · intro key
      rw [Tree.put_of_isScalar hscalar, Tree.lookup_insert, value?]
      by_cases hk : key = k
      · simp [hk]
      · simp only [hk, Ne.symm hk, and_false, if_false, Option.none_or]
  | .name p :: .name _ :: _ :: _, hplain, hhead
  | .name p :: .index _ :: _, hplain, hhead =>
    obtain rfl : p = part := by simpa using hhead
    simp [isPlain] at hplain

end KeyPath

/-! ## Setting a whole layer -/

/-- The root of a tree holds of every section what a layer sets: nothing if the layer does not name
it, and otherwise a table with the last tree for every key. -/
def Layer.HeldBy (layer : Layer) (es : List (String × Tree)) : Prop :=
  ∀ part ∈ sections,
    (es.lookup part = none ∧ ¬ layer.Names part) ∨
    ∃ kvs, es.lookup part = some (.table kvs) ∧ layer.Names part ∧
      ∀ key, kvs.lookup key = layer.value? part key

namespace Layer

theorem heldBy_nil : HeldBy [] [] := by
  intro part _
  refine .inl ⟨rfl, ?_⟩
  rintro ⟨e, he, -⟩
  cases he

section Held
variable {layer : Layer} {es : List (String × Tree)} {part : String}

theorem HeldBy.table_of_lookup (h : layer.HeldBy es) (hpart : part ∈ sections) {t : Tree}
    (ht : es.lookup part = some t) : ∃ kvs, t = .table kvs := by
  rcases h part hpart with ⟨hnone, -⟩ | ⟨kvs, hkvs, -⟩
  · rw [hnone] at ht
    cases ht
  · exact ⟨kvs, Option.some.inj (ht.symm.trans hkvs)⟩

theorem HeldBy.lookup_entries (h : layer.HeldBy es) (hpart : part ∈ sections) (key : String) :
    ((es.lookup part).getD .absent).entries.lookup key = layer.value? part key := by
  rcases h part hpart with ⟨hnone, hnames⟩ | ⟨kvs, hkvs, -, hvalues⟩
  · rw [hnone, value?_eq_none_of_not_names hnames]
    rfl
  · rw [hkvs, ← hvalues]
    rfl

theorem HeldBy.set (h : layer.HeldBy es) {e : String × Tree} (hplain : Plain [e]) :
    ∃ es', (KeyPath.ofKey e.1).set e.2 (.table es) = .table es' ∧ HeldBy (layer ++ [e]) es' := by
  have hlast : ∀ part key, Layer.value? [e] part key = (KeyPath.ofKey e.1).value? part key e.2 := by
    intro part key
    simp [Layer.value?, List.findSome?_singleton]
  have hnames : ∀ part, Names [e] part ↔ (KeyPath.ofKey e.1).head? = some (.name part) := by
    intro part
    simp [Names]
  obtain ⟨name, rest, hpath⟩ := KeyPath.ofKey_eq_name_cons e.1
  obtain ⟨es', hset, hothers⟩ := KeyPath.set_name_cons name rest e.2 es
  refine ⟨es', hpath ▸ hset, ?_⟩
  intro part hpart
  rw [names_append, hnames]
  by_cases hname : part = name
  · subst hname
    have hhead : (KeyPath.ofKey e.1).head? = some (.name part) := by rw [hpath]; rfl
    obtain ⟨es'', kvs, hset', hlookup, hvalues⟩ :=
      KeyPath.lookup_set (hplain e List.mem_cons_self part hpart) hhead
        fun _ => h.table_of_lookup hpart
    rw [hpath, hset] at hset'
    cases hset'
    refine .inr ⟨kvs, hlookup, .inr hhead, ?_⟩
    intro key
    rw [hvalues, value?_append, hlast, h.lookup_entries hpart]
  · have hhead : (KeyPath.ofKey e.1).head? ≠ some (.name part) := by
      rw [hpath]
      simpa using Ne.symm hname
    have hvalue : ∀ key, Layer.value? (layer ++ [e]) part key = layer.value? part key := by
      intro key
      rw [value?_append, hlast, KeyPath.value?_of_head?_ne hhead, Option.none_or]
    simp only [hothers part hname, hvalue, hhead, or_false]
    exact h part hpart

theorem HeldBy.onto {rest : Layer} (h : layer.HeldBy es) (hplain : rest.Plain) :
    ∃ es', rest.onto (.table es) = .table es' ∧ HeldBy (layer ++ rest) es' := by
  -- each entry moves from the rest to the end of the layer that is already held
  induction rest generalizing layer es with
  | nil =>
    refine ⟨es, rfl, ?_⟩
    rw [List.append_nil]
    exact h
  | cons e rest ih =>
    obtain ⟨he, hrest⟩ := List.forall_mem_cons.1 hplain
    obtain ⟨es₁, hset, h₁⟩ := h.set (e := e) (by simpa [Plain] using he)
    obtain ⟨es₂, honto, h₂⟩ := ih h₁ hrest
    refine ⟨es₂, ?_, ?_⟩
    · rw [← honto, ← hset]
      rfl
    · rwa [List.append_assoc] at h₂

end Held

/-- Merging plain layers gives a tree that holds what they set, one after the other. -/
theorem merge_heldBy {layers : List Layer} (hplain : ∀ layer ∈ layers, layer.Plain) :
    ∃ es, merge layers = .table es ∧ HeldBy layers.flatten es := by
  have hall : Layer.Plain layers.flatten := by
    intro e he
    obtain ⟨layer, hlayer, he⟩ := List.mem_flatten.1 he
    exact hplain layer hlayer e he
  obtain ⟨es, honto, hheld⟩ := heldBy_nil.onto hall
  refine ⟨es, ?_, hheld⟩
  rw [← honto]
  exact List.foldl_flatten.symm

end Layer
end DataMapper.Settings
