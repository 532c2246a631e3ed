import DataMapper.Proofs.RoundTrip

/-! # Columns and field types agree on cells

The kind of a column is picked from the capabilities of the field's type, and
what the kind makes of a row value is a cell that the type reads. So a type
refuses a cell only for what it holds: NULL, a text that it cannot be built
from, or an id that no constant has. Numbers are kept exactly, or reported as
they stand in the row.
-/
namespace DataMapper

namespace ColumnKind

def Numeric : ColumnKind → Prop
  | integer | long | date => True
  | _ => False

/-- The number that a column of the kind finds in a value: an integer of either width, a flag as 0
or 1 unless the column is a date, and in a date column also a decimal numeral. -/
inductive Finds : ColumnKind → SqlValue → Int64 → Prop
  | int {kind : ColumnKind} (h : kind.Numeric) (i : Int32) : Finds kind (.int i) i.toInt64
  | long {kind : ColumnKind} (h : kind.Numeric) (l : Int64) : Finds kind (.long l) l
  | integerFlag (b : Bool) : Finds integer (.bool b) (if b then 1 else 0)
  | longFlag (b : Bool) : Finds long (.bool b) (if b then 1 else 0)
  | numeral {s : String} {l : Int64}
      (h : (Decimal.readInt (Text.trim s.toList)).bind Narrow.int64? = some l) :
      Finds date (.text s) l

def Fits : ColumnKind → Int64 → Prop
  | integer, l => -2147483648 ≤ l.toInt ∧ l.toInt ≤ 2147483647
  | date, l => -8334601228800 ≤ l.toInt ∧ l.toInt ≤ 8210266876799
  | _, _ => True

theorem fits_integer_iff {l : Int64} :
    integer.Fits l ↔ -2147483648 ≤ l.toInt ∧ l.toInt ≤ 2147483647 := Iff.rfl

theorem fits_date_iff {l : Int64} :
    date.Fits l ↔ -8334601228800 ≤ l.toInt ∧ l.toInt ≤ 8210266876799 := Iff.rfl

theorem TakesText.not_numeric {kind : ColumnKind} (h : kind.TakesText) : ¬ kind.Numeric := by
  intro hnumeric
  cases kind <;> first | exact hnumeric.elim | exact h.elim

theorem Finds.numeric {kind : ColumnKind} {v : SqlValue} {l : Int64} (h : kind.Finds v l) :
    kind.Numeric := by
  cases h with
  | int h | long h => exact h
  | integerFlag | longFlag | numeral => trivial

theorem Finds.eq {kind : ColumnKind} {v : SqlValue} {l m : Int64} (h : kind.Finds v l)
    (h' : kind.Finds v m) : m = l := by
  cases h with
  | numeral h =>
    cases h' with
    | numeral h' => exact Option.some.inj (h'.symm.trans h)
  | int | long | integerFlag | longFlag =>
    cases h'
    rfl

end ColumnKind

theorem Cell.parse_rejected {α : Type} {read : String → Except String α} {s reason : String}
    (h : read s = .error reason) : Cell.parse read (.text s) = .error (.rejectedText s reason) := by
  simp only [parse, h]

theorem Cell.lookup_unknown {α : Type} {constants : List α} {ident : α → String} {s : String}
    (h : constants.find? (fun a => ident a == s) = none) :
    Cell.lookup constants ident (.text s) = .error (.unknownId s) := by
  simp only [lookup, h]

/-- The number that a cell holds, for a date the second that it begins. -/
inductive Cell.Holds : Cell → Int64 → Prop
  | int {i : Int32} {l : Int64} (h : i.toInt = l.toInt) : Holds (.int i) l
  | long (l : Int64) : Holds (.long l) l
  | date {t : Instant} (h : t.nanos = 0) : Holds (.date t) t.seconds

namespace ColumnKind

inductive Gives : ColumnKind → Cell → Prop
  | text {kind : ColumnKind} (h : kind.TakesText) (s : String) : Gives kind (.text s)
  | date (t : Instant) : Gives date (.date t)
  | int (i : Int32) : Gives integer (.int i)
  | long (l : Int64) : Gives long (.long l)
  | bool (b : Bool) : Gives boolean (.bool b)

inductive Makes (kind : ColumnKind) (v : SqlValue) : Except Problem Cell → Prop
  | cell {cell : Cell} (gives : kind.Gives cell)
      (finds : kind.Numeric → ∃ l, kind.Finds v l ∧ kind.Fits l ∧ cell.Holds l) :
      Makes kind v (.ok cell)
  | outOfRange {l : Int64} (finds : kind.Finds v l) (fits : ¬ kind.Fits l) :
      Makes kind v (.error (.outOfRange kind.expected l))
  | wrongType {expected found : String} (finds : ∀ l, ¬ kind.Finds v l) :
      Makes kind v (.error (.wrongType expected found))

theorem makes_ofSeconds {v : SqlValue} {l : Int64} (h : date.Finds v l) :
    date.Makes v (Cell.ofSeconds l) := by
  unfold Cell.ofSeconds Instant.ofSeconds?
  split
  · next t ht =>
    split at ht
    · next hrange =>
      cases ht
      exact .cell (.date _) fun _ => ⟨l, h, fits_date_iff.2 hrange, .date rfl⟩
    · cases ht
  · next hnone =>
    split at hnone
    · cases hnone
    · next hrange => exact .outOfRange h fun hfits => hrange (fits_date_iff.1 hfits)

theorem makes_integer_long (l : Int64) : integer.Makes (.long l) (integer.toCell (.long l)) := by
  cases h : Narrow.int32? l.toInt with
  | some i =>
    have hcell : integer.toCell (.long l) = .ok (.int i) := by simp only [toCell, h]
    have hint := Narrow.toInt_of_int32? h
    have h1 := i.le_toInt
    have h2 := i.toInt_lt
    rw [hcell]
    refine .cell (.int i) fun hnumeric => ⟨l, .long hnumeric l, ?_, .int hint⟩
    rw [fits_integer_iff]
    omega
  | none =>
    have hcell : integer.toCell (.long l) = .error (.outOfRange "integer" l) := by
      simp only [toCell, h]
    rw [hcell]
    refine .outOfRange (.long (by trivial) l) fun hfits => ?_
    unfold Narrow.int32? at h
    rw [if_pos (fits_integer_iff.1 hfits)] at h
    cases h

theorem fits_flag (b : Bool) : integer.Fits (if b then 1 else 0) := by
  rw [fits_integer_iff]
  cases b <;> decide

/-- Texts, whole or built, are handed on without a number. -/
theorem makes_text {kind : ColumnKind} (h : kind.TakesText) (v : SqlValue) (s : String) :
    kind.Makes v (.ok (.text s)) :=
  .cell (.text h s) fun hnumeric => absurd hnumeric h.not_numeric

theorem makes_wrongType {kind : ColumnKind} {v : SqlValue} {expected found : String}
    (h : ¬ kind.Numeric) : kind.Makes v (.error (.wrongType expected found)) :=
  .wrongType fun _ hfinds => h hfinds.numeric

theorem toCell_makes (kind : ColumnKind) {v : SqlValue} (hv : v ≠ .null) :
    kind.Makes v (kind.toCell v) := by
  cases kind with
  | string =>
    rw [toCell_string hv]
    exact makes_text (by trivial) v v.display
  | fromText | identifiableEnum =>
    cases v with
    | null => exact absurd rfl hv
    | text s => exact makes_text (by trivial) _ s
    | int | long => exact makes_text (by trivial) _ _
    | bool => exact makes_wrongType id
  | boolean =>
    cases v with
    | null => exact absurd rfl hv
    | text s => exact makes_wrongType id
    | int | long | bool => exact .cell (.bool _) False.elim
  | integer =>
    cases v with
    | null => exact absurd rfl hv
    | text s => exact .wrongType fun _ hfinds => by cases hfinds
    | bool b =>
      refine .cell (.int _) fun _ => ⟨_, .integerFlag b, fits_flag b, .int ?_⟩
      cases b <;> rfl
    | int i =>
      have h1 := i.le_toInt
      have h2 := i.toInt_lt
      refine .cell (.int i) fun hnumeric => ⟨_, .int hnumeric i, ?_, .int i.toInt_toInt64.symm⟩
      rw [fits_integer_iff, Int32.toInt_toInt64]
      omega
    | long l => exact makes_integer_long l
  | long =>
    cases v with
    | null => exact absurd rfl hv
    | text s => exact .wrongType fun _ hfinds => by cases hfinds
    | bool b => exact .cell (.long _) fun _ => ⟨_, .longFlag b, trivial, .long _⟩
    | int i => exact .cell (.long _) fun hnumeric => ⟨_, .int hnumeric i, trivial, .long _⟩
    | long l => exact .cell (.long l) fun hnumeric => ⟨_, .long hnumeric l, trivial, .long l⟩
  | date =>
    cases v with
    | null => exact absurd rfl hv
    | bool b => exact .wrongType fun _ hfinds => by cases hfinds
    | int i => exact makes_ofSeconds (.int (by trivial) i)
    | long l => exact makes_ofSeconds (.long (by trivial) l)
    | text s =>
      cases h : (Decimal.readInt (Text.trim s.toList)).bind Narrow.int64? with
      | some l =>
        have hcell : date.toCell (.text s) = Cell.ofSeconds l := by simp only [toCell, h]
        rw [hcell]
        exact makes_ofSeconds (.numeral h)
      | none =>
        have hcell : date.toCell (.text s) = .error (.wrongType "date" "text") := by
          simp only [toCell, h]
        rw [hcell]
        refine .wrongType fun l hfinds => ?_
        cases hfinds with
        | numeral h' => rw [h] at h'; cases h'

theorem gives_of_toCell {kind : ColumnKind} {v : SqlValue} {cell : Cell}
    (h : kind.toCell v = .ok cell) (hv : v ≠ .null) : kind.Gives cell := by
  have hmakes := kind.toCell_makes hv
  rw [h] at hmakes
  cases hmakes with
  | cell gives => exact gives

theorem takesText_of_toCell {kind : ColumnKind} {v : SqlValue} {s : String}
    (h : kind.toCell v = .ok (.text s)) : kind.TakesText := by
  have hv : v ≠ .null := by
    rintro rfl
    rw [toCell_null] at h
    cases h
  cases gives_of_toCell h hv with
  | text htext => exact htext

end ColumnKind

namespace FieldType

inductive TakesNull : FieldType → Prop
  | bool : TakesNull .bool
  | option (t : FieldType) : TakesNull t.option

inductive Rejects : FieldType → String → String → Prop
  | ofText {α : Type} {capabilities : Capabilities} {zero : α} {write : α → String}
      {read : String → Except String α} {s reason : String} (h : read s = .error reason) :
      Rejects (.ofText capabilities zero write read) s reason
  | option {t : FieldType} {s reason : String} (h : Rejects t s reason) : Rejects t.option s reason

inductive Lacks : FieldType → String → Prop
  | enumeration {α : Type} {capabilities : Capabilities} {zero : α} {constants : List α}
      {ident : α → String} {s : String} (h : ∀ a ∈ constants, ident a ≠ s) :
      Lacks (.enumeration capabilities zero constants ident) s
  | option {t : FieldType} {s : String} (h : Lacks t s) : Lacks t.option s

inductive Holds : (t : FieldType) → t.Carrier → Int64 → Prop
  | int {i : Int32} {l : Int64} (h : i.toInt = l.toInt) : Holds .int i l
  | long (l : Int64) : Holds .long l l
  | date {t : Instant} (h : t.nanos = 0) : Holds .date t t.seconds
  | option {t : FieldType} {a : t.Carrier} {l : Int64} (h : Holds t a l) : Holds t.option (some a) l

/-- The built-in types of columns, types built from text, enumerations with ids, and the optional
values of all these. What is built from text or from an id has no dates for its kind. -/
inductive Standard : FieldType → Prop
  | string : Standard .string
  | int : Standard .int
  | long : Standard .long
  | bool : Standard .bool
  | date : Standard .date
  | ofText {α : Type} {capabilities : Capabilities} {zero : α} {write : α → String}
      {read : String → Except String α} (hcapable : capabilities.fromText = true)
      (hdate : capabilities.date = false) : Standard (.ofText capabilities zero write read)
  | enumeration {α : Type} {capabilities : Capabilities} {zero : α} {constants : List α}
      {ident : α → String} (hcapable : capabilities.identifiableEnum = true)
      (hdate : capabilities.date = false) :
      Standard (.enumeration capabilities zero constants ident)
  | option {t : FieldType} (h : Standard t) : Standard t.option

inductive Reads (t : FieldType) (cell : Cell) : Except Problem t.Carrier → Prop
  | value {a : t.Carrier} (holds : ∀ l, cell.Holds l → t.Holds a l) : Reads t cell (.ok a)
  | rejected {s reason : String} (text : cell = .text s) (rejects : t.Rejects s reason) :
      Reads t cell (.error (.rejectedText s reason))
  | unknown {s : String} (text : cell = .text s) (lacks : t.Lacks s) :
      Reads t cell (.error (.unknownId s))

theorem Reads.option {t : FieldType} {cell : Cell} {result : Except Problem t.Carrier}
    (h : t.Reads cell result) : t.option.Reads cell (result.map some) := by
  cases h with
  | value holds => exact .value fun l hl => .option (holds l hl)
  | rejected text rejects => exact .rejected text (.option rejects)
  | unknown text lacks => exact .unknown text (.option lacks)

theorem TakesNull.exists_ofCell {t : FieldType} (h : t.TakesNull) (kind : ColumnKind) :
    ∃ a, t.ofCell kind .null = .ok a := by
  cases h with
  | bool => exact ⟨false, rfl⟩
  | option t => exact ⟨none, rfl⟩

theorem not_takesNull {t : FieldType} (kind : ColumnKind) {problem : Problem}
    (h : t.ofCell kind .null = .error problem) : ¬ t.TakesNull := by
  intro htakes
  obtain ⟨a, ha⟩ := htakes.exists_ofCell kind
  rw [ha] at h
  cases h

end FieldType

/-- A type that is built from texts or ids, and is no date, has columns that hand on texts. -/
theorem Capabilities.takesText {c : Capabilities} {kind : ColumnKind} (hk : c.kind = .ok kind)
    (hcapable : c.fromText = true ∨ c.identifiableEnum = true) (hdate : c.date = false) :
    kind.TakesText := by
  unfold Capabilities.kind at hk
  split at hk
  · cases hk
    trivial
  · split at hk
    · next h => exact absurd h (Bool.eq_false_iff.1 hdate)
    · split at hk
      · cases hk
        trivial
      · next hfromText =>
        split at hk
        · cases hk
          trivial
        · next hidentifiable => exact absurd hcapable (not_or.2 ⟨hfromText, hidentifiable⟩)

theorem ColumnKind.Gives.exists_text {kind : ColumnKind} {cell : Cell} (h : kind.Gives cell)
    (htext : kind.TakesText) : ∃ s, cell = .text s := by
  cases h with
  | text _ s => exact ⟨s, rfl⟩
  | date | int | long | bool => exact htext.elim

namespace FieldType.Standard
variable {t : FieldType} {kind : ColumnKind} {cell : Cell}

/-- NULL has a value or is reported as such. -/
theorem ofCell_null (h : t.Standard) (kind : ColumnKind) :
    (t.TakesNull ∧ ∃ a, t.ofCell kind .null = .ok a) ∨
    (¬ t.TakesNull ∧ t.ofCell kind .null = .error .unexpectedNull) := by
  cases h with
  | bool => exact .inl ⟨.bool, false, rfl⟩
  | option => exact .inl ⟨.option _, none, rfl⟩
  | string | int | long | date | ofText | enumeration =>
    exact .inr ⟨not_takesNull kind rfl, rfl⟩

/-- The type reads every cell that the kind of its columns gives. -/
theorem reads (h : t.Standard) (hk : t.capabilities.kind = .ok kind) (hc : kind.Gives cell) :
    t.Reads cell (t.ofCell kind cell) := by
  induction h generalizing kind with
  | string =>
    cases hk
    cases hc
    exact .value fun _ hholds => by cases hholds
  | int =>
    cases hk
    cases hc with
    | text htext => exact htext.elim
    | int i => exact .value fun _ hholds => by cases hholds with | int h => exact .int h
  | long =>
    cases hk
    cases hc with
    | text htext => exact htext.elim
    | long l => exact .value fun _ hholds => by cases hholds; exact .long l
  | bool =>
    cases hk
    cases hc with
    | text htext => exact htext.elim
    | bool b => exact .value fun _ hholds => by cases hholds
  | date =>
    cases hk
    cases hc with
    | text htext => exact htext.elim
    | date t => exact .value fun _ hholds => by cases hholds with | date h => exact .date h
  | @ofText α capabilities zero write read hcapable hdate =>
    obtain ⟨s, rfl⟩ := hc.exists_text (Capabilities.takesText hk (.inl hcapable) hdate)
    have hcell : (FieldType.ofText capabilities zero write read).ofCell kind (.text s)
        = Cell.parse read (.text s) := rfl
    rw [hcell]
    cases hread : read s with
    | ok a =>
      rw [Cell.parse_text hread]
      exact .value fun _ hholds => by cases hholds
    | error reason =>
      rw [Cell.parse_rejected hread]
      exact .rejected rfl (.ofText hread)
  | @enumeration α capabilities zero constants ident hcapable hdate =>
    obtain ⟨s, rfl⟩ := hc.exists_text (Capabilities.takesText hk (.inr hcapable) hdate)
    have hcell :
        (FieldType.enumeration capabilities zero constants ident).ofCell kind (.text s)
          = Cell.lookup constants ident (.text s) := rfl
    rw [hcell]
    cases hfind : constants.find? (fun a => ident a == s) with
    | some a =>
      rw [Cell.lookup_text hfind]
      exact .value fun _ hholds => by cases hholds
    | none =>
      rw [Cell.lookup_unknown hfind]
      refine .unknown rfl (.enumeration fun a ha hs => ?_)
      exact List.find?_eq_none.1 hfind a ha (beq_iff_eq.2 hs)
  | @option t _ ih =>
    -- NULL is never what the kind gives, so the optional type hands the cell to the type itself.
    have hne : cell ≠ .null := by
      rintro rfl
      cases hc
    rw [ofCell_option_of_ne_null t kind hne]
    exact (ih hk hc).option

end FieldType.Standard

namespace FieldType

def decode (t : FieldType) (kind : ColumnKind) (v : SqlValue) : Except Problem t.Carrier :=
  kind.toCell v >>= t.ofCell kind

theorem decode_of_toCell {t : FieldType} {kind : ColumnKind} {v : SqlValue} {cell : Cell}
    (h : kind.toCell v = .ok cell) : t.decode kind v = t.ofCell kind cell := by
  rw [decode, h]
  rfl

theorem decode_of_toCell_error {t : FieldType} {kind : ColumnKind} {v : SqlValue}
    {problem : Problem} (h : kind.toCell v = .error problem) :
    t.decode kind v = .error problem := by
  rw [decode, h]
  rfl

inductive Decodes (t : FieldType) (kind : ColumnKind) (v : SqlValue) :
    Except Problem t.Carrier → Prop
  | null {a : t.Carrier} (null : v = .null) (takes : t.TakesNull) : Decodes t kind v (.ok a)
  | unexpectedNull (null : v = .null) (takes : ¬ t.TakesNull) :
      Decodes t kind v (.error .unexpectedNull)
  | value {a : t.Carrier} (present : v ≠ .null)
      (finds : kind.Numeric → ∃ l, kind.Finds v l ∧ kind.Fits l ∧ t.Holds a l) :
      Decodes t kind v (.ok a)
  | rejected {s reason : String} (text : kind.toCell v = .ok (.text s))
      (rejects : t.Rejects s reason) : Decodes t kind v (.error (.rejectedText s reason))
  | unknown {s : String} (text : kind.toCell v = .ok (.text s)) (lacks : t.Lacks s) :
      Decodes t kind v (.error (.unknownId s))
  | outOfRange {l : Int64} (finds : kind.Finds v l) (fits : ¬ kind.Fits l)
      (cell : kind.toCell v = .error (.outOfRange kind.expected l)) :
      Decodes t kind v (.error (.outOfRange kind.expected l))
  | wrongType {expected found : String} (finds : ∀ l, ¬ kind.Finds v l)
      (cell : kind.toCell v = .error (.wrongType expected found)) :
      Decodes t kind v (.error (.wrongType expected found))

theorem Standard.decodes {t : FieldType} {kind : ColumnKind} (h : t.Standard)
    (hk : t.capabilities.kind = .ok kind) (v : SqlValue) :
    t.Decodes kind v (t.decode kind v) := by
  by_cases hv : v = .null
  · subst hv
    rw [decode_of_toCell kind.toCell_null]
    rcases h.ofCell_null kind with ⟨htakes, a, ha⟩ | ⟨htakes, herror⟩
    · rw [ha]
      exact .null rfl htakes
    · rw [herror]
      exact .unexpectedNull rfl htakes
  · have hmakes := kind.toCell_makes hv
    generalize hcell : kind.toCell v = made at hmakes
    cases hmakes with
    | @cell cell gives finds =>
      rw [decode_of_toCell hcell]
      have hreads := h.reads hk gives
      generalize t.ofCell kind cell = result at hreads
      cases hreads with
      | value holds =>
        refine .value hv fun hnumeric => ?_
        obtain ⟨l, hfinds, hfits, hholds⟩ := finds hnumeric
        exact ⟨l, hfinds, hfits, holds l hholds⟩
      | rejected text rejects => exact .rejected (text ▸ hcell) rejects
      | unknown text lacks => exact .unknown (text ▸ hcell) lacks
    | outOfRange finds fits =>
      rw [decode_of_toCell_error hcell]
      exact .outOfRange finds fits hcell
    | wrongType finds =>
      rw [decode_of_toCell_error hcell]
      exact .wrongType finds hcell

/-- The column hands the type only what the type can read. A problem with NULL comes from NULL
alone, one with a text or an id from the text that the column hands on, and numbers are kept or
found too large for the column as they are. -/
structure AgreesOn (t : FieldType) (kind : ColumnKind) (v : SqlValue) : Prop where
  ofCell : ∀ cell problem, kind.toCell v = .ok cell → t.ofCell kind cell = .error problem →
    problem = .unexpectedNull ∨ (∃ s reason, problem = .rejectedText s reason) ∨
      ∃ s, problem = .unknownId s
  unexpectedNull : t.decode kind v = .error .unexpectedNull ↔ v = .null ∧ ¬ t.TakesNull
  rejectedText : ∀ s reason, t.decode kind v = .error (.rejectedText s reason) →
    kind.toCell v = .ok (.text s) ∧ t.Rejects s reason
  unknownId : ∀ s, t.decode kind v = .error (.unknownId s) →
    kind.toCell v = .ok (.text s) ∧ t.Lacks s
  written : ∀ a, kind.Numeric → t.decode kind v = .ok a →
    v = .null ∨ ∃ l, kind.Finds v l ∧ t.Holds a l
  fits : ∀ l, kind.Finds v l → kind.Fits l → ∃ a, t.decode kind v = .ok a ∧ t.Holds a l
  outOfRange : ∀ expected l, t.decode kind v = .error (.outOfRange expected l) ↔
    kind.Finds v l ∧ ¬ kind.Fits l ∧ expected = kind.expected

section Decoded
variable {t : FieldType} {kind : ColumnKind} {v : SqlValue} {l : Int64}

theorem Decodes.unexpectedNull_iff {result : Except Problem t.Carrier}
    (h : t.Decodes kind v result) :
    result = .error .unexpectedNull ↔ v = .null ∧ ¬ t.TakesNull := by
  constructor
  · rintro rfl
    cases h with
    | unexpectedNull null takes => exact ⟨null, takes⟩
  · rintro ⟨rfl, htakes⟩
    cases h with
    | null _ takes => exact absurd takes htakes
    | unexpectedNull => rfl
    | value present => exact absurd rfl present
    | rejected text => rw [ColumnKind.toCell_null] at text; cases text
    | unknown text => rw [ColumnKind.toCell_null] at text; cases text
    | outOfRange finds => cases finds
    | wrongType _ cell => rw [ColumnKind.toCell_null] at cell; cases cell

/-- A number that the column finds is kept or too large. -/
theorem Decodes.of_finds {result : Except Problem t.Carrier} (h : t.Decodes kind v result)
    (hfinds : kind.Finds v l) :
    (kind.Fits l ∧ ∃ a, result = .ok a ∧ t.Holds a l) ∨
    (¬ kind.Fits l ∧ result = .error (.outOfRange kind.expected l)) := by
  cases h with
  | null null => subst null; cases hfinds
  | unexpectedNull null => subst null; cases hfinds
  | value present finds =>
    obtain ⟨m, hm, hfits, hholds⟩ := finds hfinds.numeric
    obtain rfl := hm.eq hfinds
    exact .inl ⟨hfits, _, rfl, hholds⟩
  | rejected text => exact absurd hfinds.numeric (ColumnKind.takesText_of_toCell text).not_numeric
  | unknown text => exact absurd hfinds.numeric (ColumnKind.takesText_of_toCell text).not_numeric
  | outOfRange finds fits =>
    obtain rfl := finds.eq hfinds
    exact .inr ⟨fits, rfl⟩
  | wrongType finds => exact absurd hfinds (finds l)

end Decoded

theorem Standard.agreesOn {t : FieldType} {kind : ColumnKind} (h : t.Standard)
    (hk : t.capabilities.kind = .ok kind) (v : SqlValue) : t.AgreesOn kind v where
  ofCell cell problem hcell herror := by
    have hdecodes := h.decodes hk v
    rw [decode_of_toCell hcell, herror] at hdecodes
    cases hdecodes with
    | unexpectedNull => exact .inl rfl
    | rejected => exact .inr (.inl ⟨_, _, rfl⟩)
    | unknown => exact .inr (.inr ⟨_, rfl⟩)
    | outOfRange _ _ cell => rw [hcell] at cell; cases cell
    | wrongType _ cell => rw [hcell] at cell; cases cell
  unexpectedNull := (h.decodes hk v).unexpectedNull_iff
  rejectedText s reason herror := by
    have hdecodes := h.decodes hk v
    rw [herror] at hdecodes
    cases hdecodes with
    | rejected text rejects => exact ⟨text, rejects⟩
  unknownId s herror := by
    have hdecodes := h.decodes hk v
    rw [herror] at hdecodes
    cases hdecodes with
    | unknown text lacks => exact ⟨text, lacks⟩
  written a hnumeric ha := by
    have hdecodes := h.decodes hk v
    rw [ha] at hdecodes
    cases hdecodes with
    | null null => exact .inl null
    | value _ finds =>
      obtain ⟨l, hfinds, -, hholds⟩ := finds hnumeric
      exact .inr ⟨l, hfinds, hholds⟩
  fits l hfinds hfits := by
    rcases (h.decodes hk v).of_finds hfinds with ⟨-, hkept⟩ | ⟨hlarge, -⟩
    · exact hkept
    · exact absurd hfits hlarge
  outOfRange expected l := by
    constructor
    · intro herror
      have hdecodes := h.decodes hk v
      rw [herror] at hdecodes
      cases hdecodes with
      | outOfRange finds fits => exact ⟨finds, fits, rfl⟩
    · rintro ⟨hfinds, hlarge, rfl⟩
      rcases (h.decodes hk v).of_finds hfinds with ⟨hfits, -⟩ | ⟨-, herror⟩
      · exact absurd hfits hlarge
      · exact herror

end FieldType

/-- Every mapped field of a standard type agrees with the kind of its column on all values, and
misses a value exactly if its row has NULL or no cell for it and its type has no value for NULL. -/
theorem Column.decode_agrees {E : EntityType} {c : Column E} (hc : c ∈ E.columns)
    (h : c.field.type.Standard) :
    (∀ v, c.field.type.AgreesOn c.kind v) ∧
    ∀ row : Row, c.decode (c.cell row) = .error .unexpectedNull ↔
      (row.get? c.name = none ∨ row.get? c.name = some .null) ∧ ¬ c.field.type.TakesNull := by
  have hagrees := h.agreesOn (EntityType.kind_of_mem_columns hc)
  refine ⟨hagrees, fun row => (hagrees (c.cell row)).unexpectedNull.trans ?_⟩
  refine and_congr_left' ?_
  unfold Column.cell
  cases row.get? c.name with
  | none => simp
  | some v => simp

namespace Gauge

def level : Column gauge where
  index := ⟨1, by decide⟩
  name := "level"
  kind := .integer

/-- A level too large for its column is reported as it stands in the row, and none is missed. -/
theorem decode_agrees_level :
    level.decode (.long 3000000000) = .error (.outOfRange "integer" 3000000000) ∧
    level.decode (level.cell ⟨[("open", .bool true)]⟩) = .error .unexpectedNull := by
  obtain ⟨hagrees, hmissing⟩ := Column.decode_agrees (c := level) (by decide) .int
  have hlarge : ¬ ColumnKind.integer.Fits 3000000000 := by
    rw [ColumnKind.fits_integer_iff]
    decide
  refine ⟨?_, ?_⟩
  · exact ((hagrees (.long 3000000000)).outOfRange "integer" _).2
      ⟨.long (by trivial) _, hlarge, rfl⟩
  · exact (hmissing _).2 ⟨.inl (by decide), FieldType.not_takesNull .integer rfl⟩

end Gauge
end DataMapper
