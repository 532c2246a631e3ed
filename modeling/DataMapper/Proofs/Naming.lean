import DataMapper.Entity.Column
import DataMapper.Proofs.WordSeparators

/-! # Names that two fields share

A column is named by its field in words, by the entity type, or explicitly. No
way keeps the names of different fields apart: words may differ in case alone, a
date loses its ending, a field may be called what the identifier column is
called, and an explicit name may be any. Names that are not explicit have no
ASCII capitals, so among them only equal ones agree.
-/
namespace DataMapper

/-! ## Names without capitals -/

def InLowerCase (name : String) : Prop :=
  ∀ c ∈ name.toList, c.toLower = c

section InLowerCase
variable {a b : String}

theorem inLowerCase_append : InLowerCase (a ++ b) ↔ InLowerCase a ∧ InLowerCase b := by
  unfold InLowerCase
  rw [String.toList_append, List.forall_mem_append]

theorem inLowerCase_snakeCase (name : String) : InLowerCase (Text.snakeCase name) :=
  fun _ hc => Text.toLower_of_mem_snakeCase hc

theorem InLowerCase.map_toLower (h : InLowerCase a) : a.toList.map Char.toLower = a.toList :=
  (List.map_congr_left h).trans (List.map_id _)

theorem InLowerCase.eq_of_sameName (ha : InLowerCase a) (hb : InLowerCase b)
    (h : sameName a b = true) : a = b := by
  rw [sameName_iff, ha.map_toLower, hb.map_toLower] at h
  exact String.toList_inj.1 h

end InLowerCase

namespace Field

/-! ## The name of a column -/

theorem withoutDate_append {stem : String} (h : stem ≠ "") :
    withoutDate (stem ++ "_date") = stem := by
  have hstem : 0 < stem.toList.length := by
    rw [List.length_pos_iff, ne_eq, String.toList_eq_nil_iff]
    exact h
  have hsuffix : "_date".toList.isSuffixOf (stem ++ "_date").toList = true := by
    rw [List.isSuffixOf_iff_suffix, String.toList_append]
    exact List.suffix_append _ _
  have hlength : (stem ++ "_date").toList.length = stem.toList.length + 5 := by
    rw [String.toList_append, List.length_append]
    rfl
  have hlong : 5 < (stem ++ "_date").toList.length := by omega
  simp only [withoutDate, hsuffix, hlong, decide_true, Bool.and_self, if_true]
  rw [hlength, Nat.add_sub_cancel, String.toList_append, List.take_left, String.ofList_toList]

theorem withoutDate_of_forall_ne {name : String} (h : ∀ stem, stem ≠ "" → name ≠ stem ++ "_date") :
    withoutDate name = name := by
  refine if_neg ?_
  intro hending
  obtain ⟨hsuffix, hlong⟩ := Bool.and_eq_true_iff.1 hending
  obtain ⟨stem, hstem⟩ := List.isSuffixOf_iff_suffix.1 hsuffix
  refine h (String.ofList stem) ?_ ?_
  · intro hempty
    have hnil : stem = [] := by simpa using hempty
    rw [← hstem, hnil] at hlong
    exact absurd hlong (by decide)
  · rw [← String.toList_inj, String.toList_append, String.toList_ofList, hstem]

variable {f g : Field} {entity : String} {kind kind' : ColumnKind}

def EndsInDate (f : Field) (kind : ColumnKind) : Prop :=
  kind = .date ∧ ∃ stem, stem ≠ "" ∧ Text.snakeCase f.name = stem ++ "_date"

/-- The column is named by the words of the field. -/
def InWords (f : Field) : Prop :=
  f.column? = none ∧ f.isId = false

theorem columnName_of_column? {name : String} (h : f.column? = some name) :
    f.columnName entity kind = name := by
  simp only [columnName, h]

theorem columnName_of_isId (h : f.column? = none) (hid : f.isId = true) :
    f.columnName entity kind = Text.snakeCase entity ++ "_id" := by
  simp only [columnName, h, hid, if_true]

theorem InWords.columnName_append_date (entity : String) (h : f.InWords)
    (hdate : f.EndsInDate kind) : f.columnName entity kind ++ "_date" = Text.snakeCase f.name := by
  obtain ⟨rfl, stem, hstem, hname⟩ := hdate
  simp only [columnName, h.1, h.2, hname, withoutDate_append hstem, if_true, Bool.false_eq_true,
    if_false]

theorem InWords.columnName_eq (h : f.InWords) (hdate : ¬ f.EndsInDate kind) :
    f.columnName entity kind = Text.snakeCase f.name := by
  simp only [columnName, h.1, h.2, Bool.false_eq_true, if_false]
  split
  · next hkind =>
    apply withoutDate_of_forall_ne
    intro stem hstem hname
    exact hdate ⟨hkind, stem, hstem, hname⟩
  · rfl

theorem InWords.columnName_eq_iff (h : f.InWords) {name : String} :
    f.columnName entity kind = name ↔
      f.EndsInDate kind ∧ Text.snakeCase f.name = name ++ "_date" ∨
      ¬ f.EndsInDate kind ∧ Text.snakeCase f.name = name := by
  by_cases hdate : f.EndsInDate kind
  · rw [← h.columnName_append_date entity hdate]
    simp [hdate]
  · rw [h.columnName_eq hdate]
    simp [hdate]

theorem inLowerCase_columnName (h : f.column? = none) : InLowerCase (f.columnName entity kind) := by
  cases hid : f.isId with
  | true =>
    rw [columnName_of_isId h hid]
    exact inLowerCase_append.2 ⟨inLowerCase_snakeCase entity, by simp [InLowerCase]⟩
  | false =>
    have hwords : f.InWords := ⟨h, hid⟩
    by_cases hdate : f.EndsInDate kind
    · have hname := inLowerCase_snakeCase f.name
      rw [← hwords.columnName_append_date entity hdate] at hname
      exact (inLowerCase_append.1 hname).1
    · rw [hwords.columnName_eq hdate]
      exact inLowerCase_snakeCase f.name

/-! ## One name for two fields -/

/-- The ways in which two fields come to one column name, up to an exchange of the two. -/
inductive Clash (entity : String) (f : Field) (kind : ColumnKind) (g : Field) (kind' : ColumnKind) :
    Prop
  | explicit {name : String} (named : f.column? = some name)
      (same : sameName name (g.columnName entity kind') = true)
  | identifier (unnamed : f.column? = none) (id : f.isId = true) (words : g.InWords)
      (same : Text.snakeCase g.name = Text.snakeCase entity ++ "_id")
  | identifierDate (unnamed : f.column? = none) (id : f.isId = true) (words : g.InWords)
      (date : kind' = .date) (same : Text.snakeCase g.name = Text.snakeCase entity ++ "_id_date")
  | words (words : f.InWords) (words' : g.InWords)
      (alike : f.EndsInDate kind ↔ g.EndsInDate kind')
      (same : Text.snakeCase f.name = Text.snakeCase g.name)
  | date (words : f.InWords) (words' : g.InWords) (ends : f.EndsInDate kind)
      (whole : ¬ g.EndsInDate kind')
      (same : Text.snakeCase f.name = Text.snakeCase g.name ++ "_date")

theorem not_endsInDate_of_id {stem : String} (h : Text.snakeCase f.name = stem ++ "_id") :
    ¬ f.EndsInDate kind := by
  rintro ⟨-, stem', -, hdate⟩
  have hlast := congrArg (fun name => name.toList.getLast?) (h.symm.trans hdate)
  simp at hlast

theorem endsInDate_of_id {stem : String} (hkind : kind = .date)
    (h : Text.snakeCase f.name = stem ++ "_id_date") : f.EndsInDate kind := by
  refine ⟨hkind, stem ++ "_id", ?_, ?_⟩
  · simp
  · rw [h, String.append_assoc]
    rfl

theorem Clash.sameName (h : Clash entity f kind g kind') :
    sameName (f.columnName entity kind) (g.columnName entity kind') = true := by
  cases h with
  | explicit named same => rwa [columnName_of_column? named]
  | identifier unnamed id words same =>
    rw [columnName_of_isId unnamed id, words.columnName_eq (not_endsInDate_of_id same), same,
      sameName_self]
  | identifierDate unnamed id words date same =>
    have hname : g.columnName entity kind' = Text.snakeCase entity ++ "_id" := by
      refine words.columnName_eq_iff.2 (.inl ⟨endsInDate_of_id date same, ?_⟩)
      rw [same, String.append_assoc]
      rfl
    rw [columnName_of_isId unnamed id, hname, sameName_self]
  | words words words' alike same =>
    have hname : f.columnName entity kind = g.columnName entity kind' := by
      rw [words.columnName_eq_iff, alike, same, ← words'.columnName_eq_iff]
    rw [hname, sameName_self]
  | date words words' ends whole same =>
    have hname : f.columnName entity kind = g.columnName entity kind' := by
      rw [words.columnName_eq_iff, words'.columnName_eq whole]
      exact .inl ⟨ends, same⟩
    rw [hname, sameName_self]

/-- The column of the identifier against one that is named in words. -/
theorem clash_of_isId (unnamed : f.column? = none) (id : f.isId = true) (words : g.InWords)
    (h : g.columnName entity kind' = Text.snakeCase entity ++ "_id") :
    Clash entity f kind g kind' := by
  rcases words.columnName_eq_iff.1 h with ⟨hdate, hname⟩ | ⟨-, hname⟩
  · rw [String.append_assoc] at hname
    exact .identifierDate unnamed id words hdate.1 hname
  · exact .identifier unnamed id words hname

theorem InWords.clash_of_eq (words : f.InWords) (words' : g.InWords)
    (h : f.columnName entity kind = g.columnName entity kind') :
    Clash entity f kind g kind' ∨ Clash entity g kind' f kind := by
  by_cases hdate' : g.EndsInDate kind'
  · have hname' := words'.columnName_append_date entity hdate'
    rcases words.columnName_eq_iff.1 h with ⟨hdate, hname⟩ | ⟨hdate, hname⟩
    · left
      exact .words words words' (iff_of_true hdate hdate') (hname.trans hname')
    · right
      exact .date words' words hdate' hdate (hname ▸ hname'.symm)
  · rw [words'.columnName_eq hdate', words.columnName_eq_iff] at h
    left
    rcases h with ⟨hdate, hname⟩ | ⟨hdate, hname⟩
    · exact .date words words' hdate hdate' hname
    · exact .words words words' (iff_of_false hdate hdate') hname

/-- Two fields of which not both identify the entity have the same name for their columns, whatever
the case of its letters, exactly if they clash. -/
theorem sameName_columnName_iff (hid : ¬ (f.isId = true ∧ g.isId = true)) :
    sameName (f.columnName entity kind) (g.columnName entity kind') = true ↔
      Clash entity f kind g kind' ∨ Clash entity g kind' f kind := by
  constructor
  · intro h
    cases hf : f.column? with
    | some name =>
      rw [columnName_of_column? hf] at h
      exact .inl (.explicit hf h)
    | none =>
      cases hg : g.column? with
      | some name =>
        rw [columnName_of_column? hg, sameName_comm] at h
        exact .inr (.explicit hg h)
      | none =>
        have heq := (inLowerCase_columnName hf).eq_of_sameName (inLowerCase_columnName hg) h
        cases hfid : f.isId with
        | true =>
          have hgid : g.isId = false := Bool.eq_false_iff.2 fun hgid => hid ⟨hfid, hgid⟩
          rw [columnName_of_isId hf hfid] at heq
          exact .inl (clash_of_isId hf hfid ⟨hg, hgid⟩ heq.symm)
        | false =>
          cases hgid : g.isId with
          | true =>
            rw [columnName_of_isId hg hgid] at heq
            exact .inr (clash_of_isId hg hgid ⟨hf, hfid⟩ heq)
          | false => exact InWords.clash_of_eq ⟨hf, hfid⟩ ⟨hg, hgid⟩ heq
  · rintro (h | h)
    · exact h.sameName
    · rw [sameName_comm]
      exact h.sameName

-- a text and a date of one type
example : sameName (columnName { name := "created", type := .string } "Order" .string)
    (columnName { name := "createdDate", type := .date } "Order" .date) = true := by
  decide

end Field
end DataMapper
