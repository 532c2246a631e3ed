import DataMapper.Proofs.Binding
import DataMapper.Proofs.Confinement

/-! # Rendering of criteria

A query text is the select text with one clause for each part of the criteria
that is not empty. If no name holds a blank, each clause shows where it ends, and
the whole text together with the bound values determines the criteria: two
criteria with one statement are the same.
-/
namespace DataMapper

/-! ## Clauses -/

namespace Statement

def clause (text : String) : String :=
  if text = "" then "" else " " ++ text

@[simp] theorem clause_empty : clause "" = "" := rfl

theorem clause_of_ne {text : String} (h : text ≠ "") : clause text = " " ++ text :=
  if_neg h

theorem joinClauses_singleton {head : String} (h : head ≠ "") : joinClauses [head] = head := by
  simp [joinClauses, h]

theorem joinClauses_cons_cons {head : String} (h : head ≠ "") (part : String)
    (parts : List String) :
    joinClauses (head :: part :: parts) = joinClauses ((head ++ clause part) :: parts) := by
  have hne : head ++ clause part ≠ "" := fun hempty => h (String.append_eq_empty_iff.1 hempty).1
  by_cases hpart : part = ""
  · subst hpart
    simp [joinClauses, h]
  · rw [clause_of_ne hpart]
    simp only [joinClauses, ne_eq, decide_not]
    rw [List.filter_cons_of_pos (by simpa using h), List.filter_cons_of_pos (by simpa using hpart),
      List.filter_cons_of_pos (by simp)]
    cases parts.filter fun part => !decide (part = "") with
    | nil => simp [String.append_assoc]
    | cons next rest => simp only [String.intercalate_cons_cons, String.append_assoc]

end Statement

namespace Window

def clause (window? : Option Window) : String :=
  Statement.clause ((window?.map sql).getD "")

@[simp] theorem clause_none : clause none = "" := rfl

@[simp] theorem clause_some (w : Window) : clause (some w) = " " ++ w.sql := by
  refine Statement.clause_of_ne fun h => ?_
  simp only [Option.map_some, Option.getD_some, sql, String.append_assoc] at h
  exact absurd (String.append_eq_empty_iff.1 h).1 (by decide)

end Window

namespace Descriptor
variable {E : EntityType} (d : Descriptor E)

theorem selectFrom_ne_empty : d.selectFrom ≠ "" := by
  intro h
  simp only [selectFrom, String.append_assoc] at h
  exact absurd (String.append_eq_empty_iff.1 h).1 (by decide)

def queryText (c : Criteria) : String :=
  d.selectFrom ++ Statement.clause c.filter.sql ++ Statement.clause c.orderSql

theorem selectWithin_eq (c : Criteria) (window? : Option Window) :
    d.selectWithin c window? =
      ⟨d.queryText c ++ Window.clause window?, c.filter.values⟩ := by
  have hselect := d.selectFrom_ne_empty
  have hfilter : d.selectFrom ++ Statement.clause c.filter.sql ≠ "" := fun h =>
    hselect (String.append_eq_empty_iff.1 h).1
  have hquery : d.queryText c ≠ "" := fun h => hfilter (String.append_eq_empty_iff.1 h).1
  have hall : d.queryText c ++ Window.clause window? ≠ "" := fun h =>
    hquery (String.append_eq_empty_iff.1 h).1
  rw [selectWithin, Statement.joinClauses_cons_cons hselect,
    Statement.joinClauses_cons_cons hfilter, ← queryText,
    Statement.joinClauses_cons_cons hquery, ← Window.clause,
    Statement.joinClauses_singleton hall]

end Descriptor

/-! ## Where a part of a text ends -/

/-- Two texts with a mark after a part that does not hold it have this part in common. -/
theorem Text.append_cons_inj {mark : Char} {a b x y : List Char} (ha : mark ∉ a) (hb : mark ∉ b)
    (h : a ++ mark :: x = b ++ mark :: y) : a = b ∧ x = y := by
  have hsplit := congrArg (Text.splitChars mark) h
  rw [Text.splitChars_append_cons ha, Text.splitChars_append_cons hb] at hsplit
  have hab : a = b := (List.cons.inj hsplit).1
  subst hab
  exact ⟨rfl, (List.cons.inj (List.append_cancel_left h)).2⟩

/-- Read from its beginning on, a text shows which item it begins with, as far as `R` tells items
apart, and where the item ends. -/
def SelfDelimiting {α : Type} (P : α → Prop) (text : α → String) (R : α → α → Prop) : Prop :=
  ∀ a b, P a → P b → ∀ r r', (text a).toList ++ r = (text b).toList ++ r' → R a b ∧ r = r'

def listed {α : Type} (keyword separator : String) (text : α → String) (as : List α) : String :=
  if as.isEmpty then "" else keyword ++ separator.intercalate (as.map text)

section Lists
variable {α : Type} {P : α → Prop} {text : α → String} {R : α → α → Prop}
  {keyword separator : String} {as bs : List α} {r r' : List Char}

theorem toList_intercalate_cons (separator : String) (text : α → String) (a : α) (as : List α) :
    (separator.intercalate ((a :: as).map text)).toList
      = (text a).toList ++ as.flatMap fun b => separator.toList ++ (text b).toList := by
  induction as generalizing a with
  | nil => simp
  | cons b as ih =>
    have hrest := ih b
    simp only [List.map_cons] at hrest
    simp only [List.map_cons, String.intercalate_cons_cons, String.toList_append, hrest,
      List.flatMap_cons, List.append_assoc]

/-- The list goes on as long as a separator follows. -/
theorem SelfDelimiting.further (h : SelfDelimiting P text R) (has : ∀ a ∈ as, P a)
    (hbs : ∀ b ∈ bs, P b) (hr : ¬separator.toList <+: r) (hr' : ¬separator.toList <+: r')
    (heq : (as.flatMap fun a => separator.toList ++ (text a).toList) ++ r
      = (bs.flatMap fun b => separator.toList ++ (text b).toList) ++ r') :
    List.Forall₂ R as bs ∧ r = r' := by
  induction as generalizing bs with
  | nil =>
    cases bs with
    | nil => exact ⟨.nil, heq⟩
    | cons b bs =>
      simp only [List.flatMap_nil, List.nil_append, List.flatMap_cons, List.append_assoc] at heq
      exact absurd (heq ▸ List.prefix_append _ _) hr
  | cons a as ih =>
    cases bs with
    | nil =>
      simp only [List.flatMap_nil, List.nil_append, List.flatMap_cons, List.append_assoc] at heq
      exact absurd (heq ▸ List.prefix_append _ _) hr'
    | cons b bs =>
      obtain ⟨ha, has⟩ := List.forall_mem_cons.1 has
      obtain ⟨hb, hbs⟩ := List.forall_mem_cons.1 hbs
      simp only [List.flatMap_cons, List.append_assoc] at heq
      obtain ⟨hab, heq⟩ := h a b ha hb _ _ (List.append_cancel_left heq)
      obtain ⟨hrest, hr⟩ := ih has hbs heq
      exact ⟨.cons hab hrest, hr⟩

variable (keyword separator) in
/-- A clause that lists items shows all of them, if what follows is neither such a clause nor one
item more. -/
theorem SelfDelimiting.clause_listed (h : SelfDelimiting P text R) (hkeyword : keyword ≠ "")
    (has : ∀ a ∈ as, P a) (hbs : ∀ b ∈ bs, P b)
    (hr : ¬(" " ++ keyword).toList <+: r ∧ ¬separator.toList <+: r)
    (hr' : ¬(" " ++ keyword).toList <+: r' ∧ ¬separator.toList <+: r')
    (heq : (Statement.clause (listed keyword separator text as)).toList ++ r
      = (Statement.clause (listed keyword separator text bs)).toList ++ r') :
    List.Forall₂ R as bs ∧ r = r' := by
  have hcons : ∀ (a : α) (as : List α) (r : List Char),
      (Statement.clause (listed keyword separator text (a :: as))).toList ++ r
        = (" " ++ keyword).toList ++ ((text a).toList ++
          ((as.flatMap fun b => separator.toList ++ (text b).toList) ++ r)) := by
    intro a as r
    have hne : keyword ++ separator.intercalate ((a :: as).map text) ≠ "" := fun hempty =>
      hkeyword (String.append_eq_empty_iff.1 hempty).1
    simp only [listed, List.isEmpty_cons, Bool.false_eq_true, if_false, Statement.clause_of_ne hne,
      String.toList_append, toList_intercalate_cons, List.append_assoc]
  cases as with
  | nil =>
    cases bs with
    | nil => exact ⟨.nil, by simpa using heq⟩
    | cons b bs =>
      rw [hcons] at heq
      have hnil : (Statement.clause (listed keyword separator text [])).toList = [] := rfl
      rw [hnil, List.nil_append] at heq
      exact absurd (heq ▸ List.prefix_append _ _) hr.1
  | cons a as =>
    cases bs with
    | nil =>
      rw [hcons] at heq
      have hnil : (Statement.clause (listed keyword separator text [])).toList = [] := rfl
      rw [hnil, List.nil_append] at heq
      exact absurd (heq ▸ List.prefix_append _ _) hr'.1
    | cons b bs =>
      rw [hcons, hcons] at heq
      obtain ⟨ha, has⟩ := List.forall_mem_cons.1 has
      obtain ⟨hb, hbs⟩ := List.forall_mem_cons.1 hbs
      obtain ⟨hab, heq⟩ := h a b ha hb _ _ (List.append_cancel_left heq)
      obtain ⟨hrest, hrr'⟩ := h.further has hbs hr.2 hr'.2 heq
      exact ⟨.cons hab hrest, hrr'⟩

end Lists

/-! ## Conditions -/

theorem Comparison.blank_not_mem_symbol (op : Comparison) : ' ' ∉ op.symbol.toList := by
  cases op <;> decide

theorem Comparison.symbol_inj {op op' : Comparison} (h : op.symbol = op'.symbol) : op = op' := by
  revert h
  cases op <;> cases op' <;> decide

theorem Comparison.symbol_ne_is (op : Comparison) : op.symbol ≠ "IS" := by
  cases op <;> decide

namespace Condition

def operator : Condition → String
  | compare _ op _ => op.symbol
  | isNull _ | isNotNull _ => "IS"

def operand : Condition → String
  | compare .. => "?"
  | isNull _ => "NULL"
  | isNotNull _ => "NOT NULL"

theorem toList_sql (c : Condition) :
    c.sql.toList = c.column.toList ++ ' ' :: (c.operator.toList ++ ' ' :: c.operand.toList) := by
  cases c <;> simp [sql, column, operator, operand, String.toList_append]

theorem blank_not_mem_operator (c : Condition) : ' ' ∉ c.operator.toList := by
  cases c with
  | compare column op value => exact op.blank_not_mem_symbol
  | isNull | isNotNull => exact (by decide : ' ' ∉ "IS".toList)

/-- The text of a condition shows all of it but the value. -/
theorem selfDelimiting_sql :
    SelfDelimiting (fun c : Condition => ' ' ∉ c.column.toList) sql Alike := by
  intro c c' hc hc' r r' h
  simp only [toList_sql, List.append_assoc, List.cons_append] at h
  obtain ⟨hcolumn, h⟩ := Text.append_cons_inj hc hc' h
  obtain ⟨hoperator, h⟩ :=
    Text.append_cons_inj c.blank_not_mem_operator c'.blank_not_mem_operator h
  replace hcolumn := String.toList_inj.1 hcolumn
  replace hoperator := String.toList_inj.1 hoperator
  cases c with
  | compare column op value =>
    cases c' with
    | compare column' op' value' =>
      obtain rfl : column = column' := hcolumn
      obtain rfl : op = op' := Comparison.symbol_inj hoperator
      exact ⟨.compare column op value value', List.append_cancel_left h⟩
    | isNull | isNotNull => exact absurd hoperator op.symbol_ne_is
  | isNull column =>
    cases c' with
    | compare column' op' value' => exact absurd hoperator.symm op'.symbol_ne_is
    | isNull column' =>
      obtain rfl : column = column' := hcolumn
      exact ⟨.isNull column, List.append_cancel_left h⟩
    | isNotNull column' => simp [operand] at h
  | isNotNull column =>
    cases c' with
    | compare column' op' value' => exact absurd hoperator.symm op'.symbol_ne_is
    | isNull column' => simp [operand] at h
    | isNotNull column' =>
      obtain rfl : column = column' := hcolumn
      exact ⟨.isNotNull column, List.append_cancel_left h⟩

theorem eq_of_alike {cs cs' : List Condition} (h : List.Forall₂ Alike cs cs')
    (hvalues : cs.filterMap value? = cs'.filterMap value?) : cs = cs' := by
  induction h with
  | nil => rfl
  | cons hc _ ih =>
    cases hc with
    | compare column op v w =>
      obtain ⟨rfl, hrest⟩ := List.cons.inj hvalues
      rw [ih hrest]
    | isNull | isNotNull => rw [ih hvalues]

end Condition

/-! ## Sort terms and windows -/

theorem OrderTerm.selfDelimiting_sql :
    SelfDelimiting (fun t : OrderTerm => ' ' ∉ t.column.toList) OrderTerm.sql Eq := by
  rintro ⟨column, direction⟩ ⟨column', direction'⟩ hc hc' r r' h
  simp only [OrderTerm.sql, String.toList_append, List.append_assoc] at h
  obtain ⟨hcolumn, h⟩ := Text.append_cons_inj hc hc' h
  obtain rfl : column = column' := String.toList_inj.1 hcolumn
  cases direction <;> cases direction' <;> simp_all [Direction.keyword]

theorem Window.sql_inj {w w' : Window} (h : w.sql = w'.sql) : w = w' := by
  have hcomma : ∀ n, ',' ∉ (Decimal.ofNat n).toList := fun n hmem =>
    absurd (Decimal.isDigit_of_mem_ofNat hmem) (by decide)
  have htext := congrArg String.toList h
  simp only [Window.sql, String.toList_append, List.append_assoc] at htext
  obtain ⟨hoffset, hcount⟩ :=
    Text.append_cons_inj (hcomma _) (hcomma _) (List.append_cancel_left htext)
  replace hoffset := Decimal.ofNat_inj (String.toList_inj.1 hoffset)
  replace hcount := Decimal.ofNat_inj (String.toList_inj.1 hcount)
  cases w
  cases w'
  simp only [Window.mk.injEq]
  exact ⟨UInt64.toNat_inj.1 hoffset, UInt64.toNat_inj.1 hcount⟩

/-! ## Whole queries -/

def ClausesFrom (letters r : List Char) : Prop :=
  r = [] ∨ ∃ k ∈ letters, [' ', k] <+: r

theorem ClausesFrom.not_prefix {letters r p : List Char} (h : ClausesFrom letters r)
    (hlength : 2 ≤ p.length) (hp : p.take 2 ∉ letters.map fun k => [' ', k]) : ¬p <+: r := by
  intro hprefix
  obtain rfl | ⟨k, hk, hletter⟩ := h
  · have hnil : p = [] := List.prefix_nil.1 hprefix
    simp [hnil] at hlength
  · have hstart := List.prefix_of_prefix_length_le hletter hprefix hlength
    exact hp (List.mem_map.2 ⟨k, hk, List.prefix_iff_eq_take.1 hstart⟩)

namespace Window

theorem clausesFrom_clause (window? : Option Window) :
    ClausesFrom ['L'] (clause window?).toList := by
  cases window? with
  | none => exact .inl rfl
  | some w => exact .inr ⟨'L', by simp, by simp [sql, String.toList_append]⟩

theorem clause_inj {w? w?' : Option Window} (h : clause w? = clause w?') : w? = w?' := by
  cases w? with
  | none =>
    cases w?' with
    | none => rfl
    | some w' => simp at h
  | some w =>
    cases w?' with
    | none => simp at h
    | some w' =>
      rw [clause_some, clause_some, String.append_right_inj] at h
      rw [sql_inj h]

end Window

namespace Criteria

def Plain (c : Criteria) : Prop :=
  (∀ x ∈ c.filter.conditions, ' ' ∉ x.column.toList) ∧ ∀ t ∈ c.order, ' ' ∉ t.column.toList

theorem clausesFrom_order (c : Criteria) (window? : Option Window) :
    ClausesFrom ['O', 'L']
      ((Statement.clause c.orderSql).toList ++ (Window.clause window?).toList) := by
  unfold orderSql
  cases c.order with
  | nil =>
    obtain hnil | ⟨k, hk, hletter⟩ := Window.clausesFrom_clause window?
    · exact .inl hnil
    · exact .inr ⟨k, List.mem_cons_of_mem _ hk, hletter⟩
  | cons t ts =>
    have hne : "ORDER BY " ++ ", ".intercalate ((t :: ts).map OrderTerm.sql) ≠ "" := fun h =>
      absurd (String.append_eq_empty_iff.1 h).1 (by decide)
    simp only [List.isEmpty_cons, Bool.false_eq_true, if_false, Statement.clause_of_ne hne]
    exact .inr ⟨'O', by simp, by simp [String.toList_append]⟩

/-- The clauses and the values determine the criteria, read from left to right. -/
theorem eq_of_clauses {c c' : Criteria} (hc : c.Plain) (hc' : c'.Plain) {w? w?' : Option Window}
    (h : Statement.clause c.filter.sql ++ Statement.clause c.orderSql ++ Window.clause w?
      = Statement.clause c'.filter.sql ++ Statement.clause c'.orderSql ++ Window.clause w?')
    (hvalues : c.filter.values = c'.filter.values) :
    c.filter = c'.filter ∧ c.order = c'.order ∧ w? = w?' := by
  have htext := congrArg String.toList h
  simp only [String.toList_append, List.append_assoc] at htext
  have hrest := c.clausesFrom_order w?
  have hrest' := c'.clausesFrom_order w?'
  obtain ⟨hconditions, horders⟩ := Condition.selfDelimiting_sql.clause_listed "WHERE " " AND "
    (by decide) hc.1 hc'.1
    ⟨hrest.not_prefix (by decide) (by decide), hrest.not_prefix (by decide) (by decide)⟩
    ⟨hrest'.not_prefix (by decide) (by decide), hrest'.not_prefix (by decide) (by decide)⟩ htext
  have hwindow := Window.clausesFrom_clause w?
  have hwindow' := Window.clausesFrom_clause w?'
  obtain ⟨hterms, hwindows⟩ := OrderTerm.selfDelimiting_sql.clause_listed "ORDER BY " ", "
    (by decide) hc.2 hc'.2
    ⟨hwindow.not_prefix (by decide) (by decide), hwindow.not_prefix (by decide) (by decide)⟩
    ⟨hwindow'.not_prefix (by decide) (by decide), hwindow'.not_prefix (by decide) (by decide)⟩
    horders
  refine ⟨?_, List.forall₂_eq_eq_eq ▸ hterms, Window.clause_inj (String.toList_inj.1 hwindows)⟩
  rw [Filter.mk.injEq]
  exact Condition.eq_of_alike hconditions hvalues

end Criteria

theorem Descriptor.selectCriteria_inj {E : EntityType} (d : Descriptor E) {c c' : Criteria}
    (hc : c.Plain) (hc' : c'.Plain) : d.selectCriteria c = d.selectCriteria c' ↔ c = c' := by
  refine ⟨fun h => ?_, fun h => by rw [h]⟩
  simp only [selectCriteria, selectWithin_eq, queryText, Statement.mk.injEq, String.append_assoc,
    String.append_right_inj] at h
  obtain ⟨hsql, hvalues⟩ := h
  obtain ⟨hfilter, horder, hwindow⟩ :=
    Criteria.eq_of_clauses hc hc' (by simpa [String.append_assoc] using hsql) hvalues
  cases c
  cases c'
  simp_all

end DataMapper
