import Mathlib.Algebra.Group.Nat.Defs
import DataMapper.Proofs.Rendering

/-! # Pages

A query text that ends in a row window shows as many rows as counted from the
offset on, both read off the text. The pages of one size cut the rows into pieces
that follow each other. An offset beyond 64 bits is rendered as the last 64-bit
number, where no list of fewer than `2 ^ 64` rows has a row left.
-/
namespace DataMapper

/-! ## Reading the window at the end of a text -/

namespace Window

/-- The numeral at the end of a text, which is kept backwards, and the text before it. -/
def numeral? (seen : List Char) : Option (Nat × List Char) :=
  (Decimal.readNat (seen.takeWhile Char.isDigit).reverse).map fun n =>
    (n, seen.dropWhile Char.isDigit)

def atEnd? (sql : String) : Option (Nat × Nat) :=
  match numeral? sql.toList.reverse with
  | some (count, ',' :: rest) =>
    match numeral? rest with
    | some (offset, rest) => if " TIMIL".toList <+: rest then some (offset, count) else none
    | none => none
  | _ => none

theorem numeral?_append (n : Nat) {mark : Char} (hmark : mark.isDigit = false)
    (rest : List Char) :
    numeral? ((Decimal.ofNat n).toList.reverse ++ mark :: rest) = some (n, mark :: rest) := by
  have hdigits : ∀ c ∈ (Decimal.ofNat n).toList.reverse, c.isDigit = true := by
    intro c hc
    exact Decimal.isDigit_of_mem_ofNat (List.mem_reverse.1 hc)
  have hread : Decimal.readNat (Decimal.ofNat n).toList = some n := by
    rw [Decimal.ofNat, String.toList_ofList]
    exact Decimal.readNat_toDigits n
  rw [numeral?, List.takeWhile_append_of_pos hdigits, List.dropWhile_append_of_pos hdigits]
  simp [hmark, hread]

theorem atEnd?_append_sql (before : String) (w : Window) :
    atEnd? (before ++ w.sql) = some (w.offset.toNat, w.count.toNat) := by
  have htext : (before ++ w.sql).toList.reverse
      = (Decimal.ofNat w.count.toNat).toList.reverse ++ ',' ::
        ((Decimal.ofNat w.offset.toNat).toList.reverse ++ ' ' ::
          ("TIMIL".toList ++ before.toList.reverse)) := by
    simp [sql, String.toList_append]
  rw [atEnd?, htext, numeral?_append _ (by decide)]
  simp only
  rw [numeral?_append _ (by decide)]
  simp

end Window

/-- The rows that a query shows of those that match: the ones in the window that its text ends in,
or all. -/
def Statement.shown {α : Type} (s : Statement) (all : List α) : List α :=
  match Window.atEnd? s.sql with
  | some (offset, count) => (all.drop offset).take count
  | none => all

theorem Statement.shown_append_sql {α : Type} (before : String) (w : Window)
    (params : List SqlValue) (all : List α) :
    Statement.shown ⟨before ++ w.sql, params⟩ all = w.rows all := by
  simp only [shown, Window.atEnd?_append_sql]
  rfl

/-! ## Windows of pages -/

def pageRows {α : Type} (number size : Nat) (all : List α) : List α :=
  (all.zipIdx.filter fun row => number * size ≤ row.2 ∧ row.2 < number * size + size).map Prod.fst

theorem map_fst_filter_zipIdx {α : Type} (first last n : Nat) (all : List α) :
    ((all.zipIdx n).filter fun row => first ≤ row.2 ∧ row.2 < last).map Prod.fst
      = (all.take (last - n)).drop (first - n) := by
  induction all generalizing n with
  | nil => simp
  | cons a all ih =>
    rw [List.zipIdx_cons, List.filter_cons]
    by_cases hlast : n < last
    · have htake : last - n = last - (n + 1) + 1 := by omega
      rw [htake, List.take_succ_cons]
      by_cases hfirst : first ≤ n
      · have hzero : first - n = 0 := by omega
        have hzero' : first - (n + 1) = 0 := by omega
        rw [if_pos (by simp [hfirst, hlast]), List.map_cons, ih, hzero, hzero', List.drop_zero,
          List.drop_zero]
      · have hdrop : first - n = first - (n + 1) + 1 := by omega
        rw [if_neg (by simp [hfirst]), ih, hdrop, List.drop_succ_cons]
    · have hzero : last - n = 0 := by omega
      have hzero' : last - (n + 1) = 0 := by omega
      rw [if_neg (by simp [hlast]), ih, hzero, hzero', List.take_zero, List.take_zero,
        List.drop_nil, List.drop_nil]

theorem pageRows_eq {α : Type} (number size : Nat) (all : List α) :
    pageRows number size all = (all.drop (number * size)).take size := by
  rw [pageRows, map_fst_filter_zipIdx, Nat.sub_zero, Nat.sub_zero, List.drop_take]
  congr 1
  omega

theorem flatMap_pageRows {α : Type} (k size : Nat) (all : List α) :
    (List.range k).flatMap (fun number => pageRows number size all) = all.take (k * size) := by
  induction k with
  | zero => simp
  | succ k ih =>
    rw [List.range_succ, List.flatMap_append, ih, Nat.succ_mul, List.take_add]
    simp [pageRows_eq]

theorem Window.toNat_offset_ofPage (page size : UInt64) :
    (ofPage page size).offset.toNat = min (page.toNat * size.toNat) (2 ^ 64 - 1) := by
  have hlt : min (page.toNat * size.toNat) (UInt64.size - 1) < 2 ^ 64 := by
    simp only [UInt64.size]
    omega
  rw [ofPage]
  exact UInt64.toNat_ofNat_of_lt' hlt

/-- The offset that can be rendered selects the rows of the exact one. -/
theorem Window.rows_ofPage {α : Type} (page size : UInt64) {all : List α}
    (hall : all.length < 2 ^ 64) :
    (ofPage page size).rows all = pageRows page.toNat size.toNat all := by
  rw [pageRows_eq, rows, toNat_offset_ofPage]
  by_cases hfits : page.toNat * size.toNat ≤ 2 ^ 64 - 1
  · rw [Nat.min_eq_left hfits]
    rfl
  · -- both offsets are behind every row
    have hexact : all.length ≤ page.toNat * size.toNat := by omega
    have hlast : all.length ≤ 2 ^ 64 - 1 := by omega
    rw [Nat.min_eq_right (by omega), List.drop_eq_nil_of_le hexact, List.drop_eq_nil_of_le hlast]
    simp

namespace Descriptor

theorem page_mul_count_lt (page count : UInt32) : page.toNat * count.toNat < 2 ^ 64 := by
  have hpage := page.toNat_lt
  have hcount := count.toNat_lt
  have hproduct : page.toNat * count.toNat ≤ (2 ^ 32 - 1) * (2 ^ 32 - 1) :=
    Nat.mul_le_mul (by omega) (by omega)
  omega

theorem toNat_offset_pageWindow (page count : UInt32) :
    (pageWindow page count).offset.toNat = page.toNat * count.toNat := by
  rw [pageWindow, UInt64.toNat_mul, UInt32.toNat_toUInt64, UInt32.toNat_toUInt64]
  exact Nat.mod_eq_of_lt (page_mul_count_lt page count)

theorem pageWindow_eq_ofPage (page count : UInt32) :
    pageWindow page count = .ofPage page.toUInt64 count.toUInt64 := by
  have hproduct := page_mul_count_lt page count
  have hoffset : (pageWindow page count).offset
      = (Window.ofPage page.toUInt64 count.toUInt64).offset := by
    apply UInt64.toNat_inj.1
    rw [toNat_offset_pageWindow, Window.toNat_offset_ofPage, UInt32.toNat_toUInt64,
      UInt32.toNat_toUInt64, Nat.min_eq_left (by omega)]
  rw [Window.ofPage, Window.mk.injEq]
  exact ⟨hoffset, rfl⟩

variable {E : EntityType} (d : Descriptor E) {α : Type} {all : List α}

theorem shown_selectCriteria_page (hall : all.length < 2 ^ 64) (c : Criteria)
    (page size : UInt64) :
    (d.selectCriteria (c.page page size)).shown all = pageRows page.toNat size.toNat all := by
  have hwindow : (c.page page size).window? = some (.ofPage page size) := rfl
  rw [selectCriteria, hwindow, selectWithin_eq, Window.clause_some, ← String.append_assoc,
    Statement.shown_append_sql, Window.rows_ofPage page size hall]

theorem shown_selectByFieldPaged (hall : all.length < 2 ^ 64) {field orderBy : String}
    {value : SqlValue} {page count : UInt32} {s : Statement}
    (h : d.selectByFieldPaged field value orderBy page count = .ok s) :
    s.shown all = pageRows page.toNat count.toNat all := by
  obtain ⟨-, -, rfl⟩ := selectByFieldPaged_eq_ok_iff.1 h
  rw [Statement.shown_append_sql, pageWindow_eq_ofPage, Window.rows_ofPage _ _ hall,
    UInt32.toNat_toUInt64, UInt32.toNat_toUInt64]

theorem exists_selectByFieldPaged {field orderBy : String} (value : SqlValue)
    (page count : UInt32) (hfield : Text.isBlank field = false)
    (horder : Text.isBlank orderBy = false) :
    ∃ s, d.selectByFieldPaged field value orderBy page count = .ok s :=
  ⟨_, selectByFieldPaged_eq_ok_iff.2 ⟨hfield, horder, rfl⟩⟩

/-- The statements for the first pages of a listing show the rows from the first one on. -/
theorem exists_pages (hall : all.length < 2 ^ 64) {field orderBy : String} (value : SqlValue)
    (count : UInt32) (hfield : Text.isBlank field = false) (horder : Text.isBlank orderBy = false)
    {k : Nat} (hk : k ≤ 2 ^ 32) :
    ∃ statements,
      (List.range k).mapM (fun page => d.selectByFieldPaged field value orderBy (.ofNat page) count)
        = .ok statements ∧
      statements.flatMap (·.shown all) = all.take (k * count.toNat) := by
  have hbuilt := fun page : Nat =>
    d.exists_selectByFieldPaged value (.ofNat page) count hfield horder
  choose statement hstatement using hbuilt
  refine ⟨(List.range k).map statement, ?_, ?_⟩
  · simp only [hstatement]
    exact List.mapM_pure
  · rw [List.flatMap_map, ← flatMap_pageRows]
    apply List.flatMap_congr
    intro page hpage
    have hlt : page < 2 ^ 32 := by
      have hrange := List.mem_range.1 hpage
      omega
    rw [d.shown_selectByFieldPaged hall (hstatement page), UInt32.toNat_ofNat_of_lt' hlt]

/-- A page shows the rows whose index lies in it, also where its offset is not rendered exactly, and
the pages of one size follow each other from the first row on. The offset of 32-bit pages is exact,
and rendered as for 64-bit ones. -/
theorem shown_pages (hall : all.length < 2 ^ 64) :
    (∀ (c : Criteria) (page size : UInt64),
      (d.selectCriteria (c.page page size)).shown all = pageRows page.toNat size.toNat all) ∧
    (∀ (field orderBy : String) (value : SqlValue) (page count : UInt32),
      Text.isBlank field = false → Text.isBlank orderBy = false →
      ∃ s, d.selectByFieldPaged field value orderBy page count = .ok s ∧
        s.shown all = pageRows page.toNat count.toNat all) ∧
    (∀ (c : Criteria) (size : UInt64) (k : Nat), k ≤ 2 ^ 64 →
      (List.range k).flatMap (fun page => (d.selectCriteria (c.page (.ofNat page) size)).shown all)
        = all.take (k * size.toNat)) ∧
    (∀ (field orderBy : String) (value : SqlValue) (count : UInt32) (k : Nat),
      Text.isBlank field = false → Text.isBlank orderBy = false → k ≤ 2 ^ 32 →
      ∃ statements,
        (List.range k).mapM
          (fun page => d.selectByFieldPaged field value orderBy (.ofNat page) count)
          = .ok statements ∧
        statements.flatMap (·.shown all) = all.take (k * count.toNat)) ∧
    (∀ page count : UInt32,
      (pageWindow page count).offset.toNat = page.toNat * count.toNat ∧
      (pageWindow page count).sql = (Window.ofPage page.toUInt64 count.toUInt64).sql) := by
  refine ⟨fun c page size => d.shown_selectCriteria_page hall c page size, ?_, ?_, ?_, ?_⟩
  · intro field orderBy value page count hfield horder
    obtain ⟨s, hs⟩ := d.exists_selectByFieldPaged value page count hfield horder
    exact ⟨s, hs, d.shown_selectByFieldPaged hall hs⟩
  · intro c size k hk
    rw [← flatMap_pageRows]
    apply List.flatMap_congr
    intro page hpage
    have hlt : page < 2 ^ 64 := by
      have hrange := List.mem_range.1 hpage
      omega
    rw [d.shown_selectCriteria_page hall, UInt64.toNat_ofNat_of_lt' hlt]
  · intro field orderBy value count k hfield horder hk
    exact d.exists_pages hall value count hfield horder hk
  · intro page count
    exact ⟨toNat_offset_pageWindow page count, by rw [pageWindow_eq_ofPage]⟩

end Descriptor

namespace Gauge

def five : List String :=
  ["a", "b", "c", "d", "e"]

/-- The exact offset of the last page is `2 ^ 64`. -/
theorem shown_pages_five :
    (descriptor.selectCriteria (Criteria.page {} 1 2)).shown five = ["c", "d"] ∧
    (List.range 3).flatMap
      (fun page => (descriptor.selectCriteria (Criteria.page {} (.ofNat page) 2)).shown five)
        = five ∧
    (descriptor.selectCriteria (Criteria.page {} 9223372036854775808 2)).sql =
      "SELECT gauge_id, level, open, closed FROM gauge LIMIT 18446744073709551615,2" ∧
    (descriptor.selectCriteria (Criteria.page {} 9223372036854775808 2)).shown five = [] := by
  have hfive : five.length < 2 ^ 64 := by decide
  obtain ⟨hpage, -, hpages, -, -⟩ := descriptor.shown_pages hfive
  refine ⟨(hpage {} 1 2).trans (by decide), ?_, by decide, ?_⟩
  · exact (hpages {} 2 3 (by decide)).trans (by decide)
  · exact (hpage {} 9223372036854775808 2).trans (by decide)

end Gauge
end DataMapper
