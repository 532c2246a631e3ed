import DataMapper.Filter
import DataMapper.Text.Split

/-! # Placeholders of a statement text

A placeholder stands for the value of one column, and the text alone tells
which: in an insertion the column at the same place of the column list, in any
other statement the name before the operator that the placeholder follows. The
lemmas say how a text put together from parts is read.
-/
namespace DataMapper.Placeholder

/-- Letters, digits, underscores and dots. Every character beyond ASCII counts as a letter. -/
def isNameChar (c : Char) : Bool :=
  c.isAlphanum || c == '_' || c == '.' || 0x80 ≤ c.toNat

def IsName (s : String) : Prop :=
  s ≠ "" ∧ s.toList.all isNameChar = true

instance (s : String) : Decidable (IsName s) :=
  inferInstanceAs (Decidable (_ ∧ _))

def count (sql : String) : Nat :=
  sql.toList.count '?'

/-! ## Reading a text -/

def isOperatorMark (c : Char) : Bool :=
  c == ' ' || c == '=' || c == '<' || c == '>'

/-- A text less the operator at its end. Texts already read are kept backwards. -/
def withoutOperator (seen : List Char) : List Char :=
  if " EKIL ".toList.isPrefixOf seen then seen.drop 6 else seen.dropWhile isOperatorMark

def compared (seen : List Char) : String :=
  String.ofList ((withoutOperator seen).takeWhile isNameChar).reverse

def comparedFrom (seen : List Char) : List Char → List String
  | [] => []
  | c :: rest =>
    (if c = '?' then [compared seen] else []) ++ comparedFrom (c :: seen) rest

def parenthesised (cs : List Char) : List (List Char) :=
  (Text.splitChars '(' cs).tail.map fun part => part.takeWhile (· ≠ ')')

/-- The listed columns whose value, at the same place of the second list, is a placeholder. -/
def inserted (cs : List Char) : List String :=
  match parenthesised cs with
  | [columns, values] =>
    ((Text.splitChars ',' columns).zip (Text.splitChars ',' values)).filterMap fun pair =>
      if pair.2 = ['?'] then some (String.ofList pair.1) else none
  | _ => []

def verb (sql : String) : String :=
  String.ofList (sql.toList.takeWhile (· ≠ ' '))

def columns (sql : String) : List String :=
  if verb sql = "INSERT" then inserted sql.toList else comparedFrom [] sql.toList

theorem comparedFrom_append (seen a b : List Char) :
    comparedFrom seen (a ++ b) = comparedFrom seen a ++ comparedFrom (a.reverse ++ seen) b := by
  induction a generalizing seen with
  | nil => rfl
  | cons c a ih =>
    have hrest := ih (c :: seen)
    simp only [List.cons_append, comparedFrom, hrest, List.append_assoc, List.reverse_cons,
      List.nil_append]

theorem comparedFrom_of_not_mem (seen : List Char) {cs : List Char} (h : '?' ∉ cs) :
    comparedFrom seen cs = [] := by
  induction cs generalizing seen with
  | nil => rfl
  | cons c cs ih =>
    have hc : c ≠ '?' := fun hc => h (hc ▸ List.mem_cons_self)
    have hrest := ih (c :: seen) fun hcs => h (List.mem_cons_of_mem c hcs)
    simp [comparedFrom, hc, hrest]

theorem length_comparedFrom (seen cs : List Char) :
    (comparedFrom seen cs).length = cs.count '?' := by
  induction cs generalizing seen with
  | nil => rfl
  | cons c cs ih =>
    have hrest := ih (c :: seen)
    by_cases hc : c = '?'
    · simp [comparedFrom, hc, ← hrest, Nat.add_comm]
    · simp [comparedFrom, hc, ← hrest]

/-! ## Names and operators -/

def Free (text : String) : Prop :=
  '?' ∉ text.toList

instance (text : String) : Decidable (Free text) :=
  inferInstanceAs (Decidable (_ ∉ _))

theorem free_append {a b : String} : Free (a ++ b) ↔ Free a ∧ Free b := by
  simp [Free, String.toList_append]

theorem IsName.not_mem {name : String} (h : IsName name) {mark : Char}
    (hmark : isNameChar mark = false) : mark ∉ name.toList := by
  intro hmem
  rw [List.all_eq_true.1 h.2 mark hmem] at hmark
  cases hmark

theorem IsName.free {name : String} (h : IsName name) : Free name :=
  h.not_mem (by decide)

def AtBoundary (seen : List Char) : Prop :=
  ∀ c ∈ seen.head?, isNameChar c = false

/-- An operator is found at the end of a text whenever a name stands before it. -/
def IsOperator (op : String) : Prop :=
  Free op ∧ ∀ x left, isNameChar x = true →
    withoutOperator (op.toList.reverse ++ x :: left) = x :: left

theorem not_isOperatorMark {x : Char} (h : isNameChar x = true) : isOperatorMark x = false := by
  cases hx : isOperatorMark x with
  | false => rfl
  | true =>
    simp only [isOperatorMark, Bool.or_eq_true, beq_iff_eq] at hx
    rcases hx with ((rfl | rfl) | rfl) | rfl <;> exact absurd h (by decide)

theorem withoutOperator_marks (marks : List Char) (hmarks : marks.all isOperatorMark = true)
    {x : Char} {left : List Char} (hx : isNameChar x = true)
    (hlike : " EKIL ".toList.isPrefixOf (marks ++ x :: left) = false) :
    withoutOperator (marks ++ x :: left) = x :: left := by
  have hmark := not_isOperatorMark hx
  rw [withoutOperator, hlike, List.dropWhile_append_of_pos (List.all_eq_true.1 hmarks)]
  simp [hmark]

theorem isOperator_assign : IsOperator "=" := by
  refine ⟨by decide, ?_⟩
  intro x left hx
  exact withoutOperator_marks ['='] rfl hx rfl

theorem isOperator_symbol (op : Comparison) : IsOperator (" " ++ op.symbol ++ " ") := by
  refine ⟨by cases op <;> decide, ?_⟩
  intro x left hx
  cases op with
  | eq => exact withoutOperator_marks [' ', '=', ' '] rfl hx rfl
  | ne => exact withoutOperator_marks [' ', '>', '<', ' '] rfl hx rfl
  | gt => exact withoutOperator_marks [' ', '>', ' '] rfl hx rfl
  | ge => exact withoutOperator_marks [' ', '=', '>', ' '] rfl hx rfl
  | lt => exact withoutOperator_marks [' ', '<', ' '] rfl hx rfl
  | le => exact withoutOperator_marks [' ', '=', '<', ' '] rfl hx rfl
  | like => rfl

theorem compared_operator {name op : String} (hname : IsName name) (hop : IsOperator op)
    {seen : List Char} (hseen : AtBoundary seen) :
    compared (op.toList.reverse ++ (name.toList.reverse ++ seen)) = name := by
  have hchars : ∀ c ∈ name.toList.reverse, isNameChar c = true := by
    intro c hc
    exact List.all_eq_true.1 hname.2 c (List.mem_reverse.1 hc)
  have hword : (name.toList.reverse ++ seen).takeWhile isNameChar = name.toList.reverse := by
    rw [List.takeWhile_append_of_pos hchars]
    cases seen with
    | nil => simp
    | cons c seen =>
      have hc : isNameChar c = false := hseen c rfl
      simp [hc]
  cases hrev : name.toList.reverse with
  | nil =>
    have hempty : name = "" := by simpa using hrev
    exact absurd hempty hname.1
  | cons x left =>
    have hx : isNameChar x = true := hchars x (hrev ▸ List.mem_cons_self)
    rw [compared, List.cons_append, hop.2 x _ hx, ← List.cons_append, ← hrev, hword,
      List.reverse_reverse, String.ofList_toList]

/-! ## Texts put together from parts -/

/-- Read from a boundary on, the placeholders of the text belong to the given columns. -/
def Reads (text : String) (columns : List String) : Prop :=
  ∀ seen, AtBoundary seen → comparedFrom seen text.toList = columns

def EndsAtBoundary (text : String) : Prop :=
  ∃ mark, text.toList.getLast? = some mark ∧ isNameChar mark = false

theorem EndsAtBoundary.prepend {text : String} (h : EndsAtBoundary text) (before : String) :
    EndsAtBoundary (before ++ text) := by
  obtain ⟨mark, hlast, hmark⟩ := h
  refine ⟨mark, ?_, hmark⟩
  rw [String.toList_append, List.getLast?_append, hlast]
  rfl

theorem EndsAtBoundary.atBoundary {text : String} (h : EndsAtBoundary text) (seen : List Char) :
    AtBoundary (text.toList.reverse ++ seen) := by
  obtain ⟨mark, hlast, hmark⟩ := h
  intro c hc
  rw [List.head?_append, List.head?_reverse, hlast] at hc
  obtain rfl := Option.some.inj hc
  exact hmark

namespace Reads
variable {text tail : String} {cols cols' : List String}

theorem of_free (h : Free text) : Reads text [] :=
  fun seen _ => comparedFrom_of_not_mem seen h

theorem append_free (h : Reads text cols) (htail : Free tail) : Reads (text ++ tail) cols := by
  intro seen hseen
  rw [String.toList_append, comparedFrom_append, h seen hseen, comparedFrom_of_not_mem _ htail,
    List.append_nil]

theorem append (h : Reads text cols) (hend : EndsAtBoundary text) (htail : Reads tail cols') :
    Reads (text ++ tail) (cols ++ cols') := by
  intro seen hseen
  rw [String.toList_append, comparedFrom_append, h seen hseen, htail _ (hend.atBoundary seen)]

theorem free_append (h : Free text) (hend : EndsAtBoundary text) (htail : Reads tail cols) :
    Reads (text ++ tail) cols :=
  (of_free h).append hend htail

theorem comparison {name op : String} (hname : IsName name) (hop : IsOperator op) :
    Reads (name ++ op ++ "?") [name] := by
  intro seen hseen
  have hfree : Free (name ++ op) := Placeholder.free_append.2 ⟨hname.free, hop.1⟩
  have hname := compared_operator hname hop hseen
  rw [String.toList_append, comparedFrom_append, comparedFrom_of_not_mem seen hfree,
    String.toList_append, List.reverse_append, List.append_assoc]
  simp [comparedFrom, hname]

theorem intercalate {α : Type} {part : α → String} {cols : α → List String} {separator : String}
    (hfree : Free separator) (hend : EndsAtBoundary separator) {as : List α}
    (h : ∀ a ∈ as, Reads (part a) (cols a)) :
    Reads (separator.intercalate (as.map part)) (as.flatMap cols) := by
  induction as with
  | nil => exact of_free (by simp [Free])
  | cons a as ih =>
    obtain ⟨ha, hrest⟩ := List.forall_mem_cons.1 h
    cases as with
    | nil => simpa using ha
    | cons a' as =>
      have hfirst : Reads (part a ++ separator) (cols a) := ha.append_free hfree
      have hbound : EndsAtBoundary (part a ++ separator) := hend.prepend (part a)
      have htail := ih hrest
      rw [List.map_cons, List.map_cons, String.intercalate_cons_cons, List.flatMap_cons]
      exact hfirst.append hbound htail

/-- Clauses are read one after the other; a clause that is left out has no placeholders. -/
theorem joinClauses {parts : List (String × List String)} (h : ∀ p ∈ parts, Reads p.1 p.2) :
    Reads (Statement.joinClauses (parts.map Prod.fst)) (parts.flatMap Prod.snd) := by
  have hcols : parts.flatMap Prod.snd = (parts.filter fun p => p.1 ≠ "").flatMap Prod.snd := by
    induction parts with
    | nil => rfl
    | cons p parts ih =>
      obtain ⟨hp, hrest⟩ := List.forall_mem_cons.1 h
      by_cases hempty : p.1 = ""
      · have hnone : p.2 = [] := by
          have hread := hp [] (by simp [AtBoundary])
          rw [hempty] at hread
          exact hread.symm
        simp [hempty, hnone, ih hrest]
      · simp [hempty, ih hrest]
  have hjoin : Statement.joinClauses (parts.map Prod.fst)
      = " ".intercalate ((parts.filter fun p => p.1 ≠ "").map Prod.fst) := by
    rw [Statement.joinClauses, List.filter_map]
    rfl
  rw [hcols, hjoin]
  refine intercalate (by decide) ⟨' ', rfl, rfl⟩ ?_
  intro p hp
  exact h p (List.mem_filter.1 hp).1

end Reads

/-! ## Whole statements -/

def BeginsWith (word sql : String) : Prop :=
  ∃ rest, sql = word ++ (" " ++ rest)

theorem BeginsWith.append {word sql : String} (h : BeginsWith word sql) (rest : String) :
    BeginsWith word (sql ++ rest) := by
  obtain ⟨middle, rfl⟩ := h
  exact ⟨middle ++ rest, String.append_assoc⟩

theorem BeginsWith.joinClauses {word sql : String} (h : BeginsWith word sql) (hne : sql ≠ "")
    (clauses : List String) : BeginsWith word (Statement.joinClauses (sql :: clauses)) := by
  have hkept : (sql :: clauses).filter (fun part => part ≠ "")
      = sql :: clauses.filter fun part => part ≠ "" := List.filter_cons_of_pos (by simpa using hne)
  unfold Statement.joinClauses
  rw [hkept]
  cases clauses.filter fun part => part ≠ "" with
  | nil => simpa using h
  | cons clause rest =>
    rw [String.intercalate_cons_cons, String.append_assoc]
    exact h.append _

theorem takeWhile_ne_append_cons {mark : Char} {cs : List Char} (h : mark ∉ cs)
    (rest : List Char) : (cs ++ mark :: rest).takeWhile (· ≠ mark) = cs := by
  have hcs : ∀ c ∈ cs, (decide (c ≠ mark)) = true := by
    intro c hc
    have hne : c ≠ mark := fun hmark => h (hmark ▸ hc)
    simp [hne]
  rw [List.takeWhile_append_of_pos hcs]
  simp

theorem verb_of_beginsWith {word sql : String} (h : BeginsWith word sql)
    (hblank : ' ' ∉ word.toList) : verb sql = word := by
  obtain ⟨rest, rfl⟩ := h
  have htext : (word ++ (" " ++ rest)).toList = word.toList ++ ' ' :: rest.toList := by
    simp [String.toList_append]
  rw [verb, htext, takeWhile_ne_append_cons hblank, String.ofList_toList]

theorem columns_of_reads {word sql : String} {cols : List String} (hbegins : BeginsWith word sql)
    (hblank : ' ' ∉ word.toList) (hword : word ≠ "INSERT") (h : Reads sql cols) :
    columns sql = cols ∧ count sql = cols.length := by
  have hread : comparedFrom [] sql.toList = cols := h [] (by simp [AtBoundary])
  have hverb : verb sql ≠ "INSERT" := by
    rw [verb_of_beginsWith hbegins hblank]
    exact hword
  refine ⟨?_, ?_⟩
  · rw [columns, if_neg hverb, hread]
  · rw [count, ← length_comparedFrom [], hread]

theorem not_mem_intercalate {mark : Char} {separator : List Char} {parts : List (List Char)}
    (hseparator : mark ∉ separator) (h : ∀ part ∈ parts, mark ∉ part) :
    mark ∉ separator.intercalate parts := by
  induction parts with
  | nil => simp
  | cons part parts ih =>
    obtain ⟨hpart, hrest⟩ := List.forall_mem_cons.1 h
    cases parts with
    | nil => simpa using hpart
    | cons part' parts =>
      have htail := ih hrest
      rw [List.intercalate_cons_cons]
      simp only [List.mem_append, not_or]
      exact ⟨⟨hpart, hseparator⟩, htail⟩

theorem toList_intercalate_map {α : Type} (separator : String) (text : α → String) (as : List α) :
    (separator.intercalate (as.map text)).toList
      = separator.toList.intercalate (as.map fun a => (text a).toList) := by
  rw [String.toList_intercalate, List.map_map]
  rfl

theorem free_intercalate {separator : String} (hseparator : Free separator) {texts : List String}
    (h : ∀ text ∈ texts, Free text) : Free (separator.intercalate texts) := by
  unfold Free
  rw [String.toList_intercalate]
  refine not_mem_intercalate hseparator ?_
  intro part hpart
  obtain ⟨text, htext, rfl⟩ := List.mem_map.1 hpart
  exact h text htext

theorem parenthesised_lists {before first middle second : List Char} (hbefore : '(' ∉ before)
    (hfirst : '(' ∉ first) (hfirst' : ')' ∉ first) (hmiddle : '(' ∉ middle)
    (hsecond : '(' ∉ second) (hsecond' : ')' ∉ second) :
    parenthesised (before ++ '(' :: (first ++ ')' :: (middle ++ '(' :: (second ++ [')']))))
      = [first, second] := by
  have hopen : '(' ∉ first ++ ')' :: middle := by
    simp only [List.mem_append, List.mem_cons, not_or]
    exact ⟨hfirst, by decide, hmiddle⟩
  have hopen' : '(' ∉ second ++ [')'] := by
    simp only [List.mem_append, List.mem_singleton, not_or]
    exact ⟨hsecond, by decide⟩
  have hsplit : first ++ ')' :: (middle ++ '(' :: (second ++ [')']))
      = (first ++ ')' :: middle) ++ '(' :: (second ++ [')']) := by simp
  rw [parenthesised, Text.splitChars_append_cons hbefore, hsplit,
    Text.splitChars_append_cons hopen, Text.splitChars_of_not_mem hopen']
  simp only [List.tail_cons, List.map_cons, List.map_nil]
  rw [takeWhile_ne_append_cons hfirst', takeWhile_ne_append_cons hsecond']

theorem filterMap_zip_placeholders (names : List String) :
    ((names.map String.toList).zip (names.map fun _ => ['?'])).filterMap
      (fun pair => if pair.2 = ['?'] then some (String.ofList pair.1) else none) = names := by
  induction names with
  | nil => rfl
  | cons name names ih =>
    simp only [List.map_cons, List.zip_cons_cons, List.filterMap_cons, if_true,
      String.ofList_toList, ih]

/-- Names and placeholders listed in parentheses are paired by their places. -/
theorem inserted_lists {before middle : List Char} (hbefore : '(' ∉ before)
    (hmiddle : '(' ∉ middle) {names : List String} (hne : names ≠ [])
    (hnames : ∀ name ∈ names, IsName name) :
    inserted (before ++ '(' :: ((",".intercalate names).toList ++ ')' :: (middle ++
      '(' :: ((",".intercalate (names.map fun _ => "?")).toList ++ [')'])))) = names := by
  have hlist : (",".intercalate names).toList = [','].intercalate (names.map String.toList) :=
    String.toList_intercalate
  have hmarks : (",".intercalate (names.map fun _ => "?")).toList
      = [','].intercalate (names.map fun _ => ['?']) := toList_intercalate_map "," _ names
  have hname : ∀ mark : Char, isNameChar mark = false →
      ∀ part ∈ names.map String.toList, mark ∉ part := by
    intro mark hmark part hpart
    obtain ⟨name, hname, rfl⟩ := List.mem_map.1 hpart
    exact (hnames name hname).not_mem hmark
  have hmark : ∀ mark : Char, mark ≠ '?' → ∀ part ∈ names.map fun _ => ['?'], mark ∉ part := by
    intro mark hmark part hpart
    obtain ⟨name, -, rfl⟩ := List.mem_map.1 hpart
    simpa using hmark
  have hopen : '(' ∉ [','] := by decide
  have hclose : ')' ∉ [','] := by decide
  have hlists := parenthesised_lists hbefore
    (not_mem_intercalate hopen (hname '(' (by decide)))
    (not_mem_intercalate hclose (hname ')' (by decide))) hmiddle
    (not_mem_intercalate hopen (hmark '(' (by decide)))
    (not_mem_intercalate hclose (hmark ')' (by decide)))
  rw [hlist, hmarks, inserted, hlists]
  simp only
  rw [Text.splitChars_intercalate (by simpa using hne) (hname ',' (by decide)),
    Text.splitChars_intercalate (by simpa using hne) (hmark ',' (by decide))]
  exact filterMap_zip_placeholders names

theorem count_append (a b : String) : count (a ++ b) = count a + count b := by
  simp [count, String.toList_append]

theorem Free.count_eq {text : String} (h : Free text) : count text = 0 :=
  List.count_eq_zero.2 h

theorem count_intercalate_placeholders (names : List String) :
    count (",".intercalate (names.map fun _ => "?")) = names.length := by
  induction names with
  | nil => simp [count]
  | cons name names ih =>
    cases names with
    | nil => simp [count]
    | cons name' names =>
      have hcomma : count "," = 0 := Free.count_eq (by decide)
      have hmark : count "?" = 1 := by decide
      simp only [List.map_cons, String.intercalate_cons_cons] at ih ⊢
      rw [count_append, count_append, ih, hmark, hcomma]
      simp [Nat.add_comm]

/-- In an insertion the placeholders belong to the listed names. -/
theorem columns_of_lists {before sql : String} {names : List String}
    (hsql : sql = before ++ "(" ++ ",".intercalate names ++ ") VALUES ("
      ++ ",".intercalate (names.map fun _ => "?") ++ ")")
    (hbegins : BeginsWith "INSERT" before) (hopen : '(' ∉ before.toList) (hfree : Free before)
    (hne : names ≠ []) (hnames : ∀ name ∈ names, IsName name) :
    columns sql = names ∧ count sql = names.length := by
  have hverb : verb sql = "INSERT" := by
    rw [hsql]
    refine verb_of_beginsWith ?_ (by decide)
    exact ((((hbegins.append _).append _).append _).append _).append _
  refine ⟨?_, ?_⟩
  · have htext : sql.toList = before.toList ++ '(' :: ((",".intercalate names).toList ++
        ')' :: (" VALUES ".toList ++
          '(' :: ((",".intercalate (names.map fun _ => "?")).toList ++ [')']))) := by
      rw [hsql]
      simp [String.toList_append]
    rw [columns, if_pos hverb, htext, inserted_lists hopen (by decide) hne hnames]
  · have hlist : Free (",".intercalate names) :=
      free_intercalate (by decide) fun name hname => (hnames name hname).free
    have hbetween : count ") VALUES (" = 0 := Free.count_eq (by decide)
    have hopening : count "(" = 0 := Free.count_eq (by decide)
    have hclosing : count ")" = 0 := Free.count_eq (by decide)
    rw [hsql]
    simp only [count_append, hfree.count_eq, hlist.count_eq, hbetween, hopening, hclosing,
      count_intercalate_placeholders]
    simp

example : columns "UPDATE t SET a=?,b=? WHERE t_id = ?" = ["a", "b", "t_id"] := by decide
example :
    columns "SELECT a FROM t WHERE a LIKE ? AND b IS NULL AND c >= ? LIMIT 0,1" = ["a", "c"] := by
  decide
example : columns "INSERT INTO t(a,b,c) VALUES (?,?,?)" = ["a", "b", "c"] := by decide

end DataMapper.Placeholder
