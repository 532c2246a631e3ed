import DataMapper.Proofs.JsonText
import DataMapper.SqlValue.Json

/-! # Scalar values through JSON

The text written for a value is read back as that value in the narrowest width
that holds its number. A text is read as a number just when it holds the literal
of that number, and the width follows from the number alone.
-/
namespace DataMapper

namespace SqlValue
open Narrow

def narrowed : SqlValue → SqlValue
  | long l => (int32? l.toInt).elim (long l) int
  | v => v

variable {v w : SqlValue}

theorem exists_narrowed_long {l : Int64} (h : IsInt32 l.toInt) :
    ∃ i : Int32, (long l).narrowed = int i ∧ i.toInt = l.toInt := by
  obtain ⟨i, hi⟩ := exists_int32?_iff.2 h
  exact ⟨i, by simp [narrowed, hi], toInt_of_int32? hi⟩

theorem narrowed_eq_self (h : ∀ l, v = long l → ¬IsInt32 l.toInt) : v.narrowed = v := by
  cases v with
  | long l => simp [narrowed, int32?_eq_none_iff.2 (h l rfl)]
  | _ => rfl

/-- No reader of a value sees the width of its number. -/
theorem readings_narrowed (v : SqlValue) :
    v.narrowed.encode = v.encode ∧ v.narrowed.isNull = v.isNull ∧ v.narrowed.asText = v.asText ∧
      v.narrowed.asLong = v.asLong ∧ v.narrowed.display = v.display := by
  by_cases h : ∃ l, v = long l ∧ IsInt32 l.toInt
  · obtain ⟨l, rfl, hl⟩ := h
    obtain ⟨i, hnarrowed, hi⟩ := exists_narrowed_long hl
    have hlong : i.toInt64 = l := Int64.toInt_inj.1 (by rw [Int32.toInt_toInt64, hi])
    rw [hnarrowed]
    refine ⟨?_, rfl, rfl, congrArg some hlong, ?_⟩
    · simp only [encode, toJson, hi]
    · simp only [display, hi]
  · have hself := narrowed_eq_self (v := v) fun l hv hl => h ⟨l, hv, hl⟩
    simp [hself]

theorem ofJson?_integer (n : Int) :
    ofJson? (.integer n) = ((int32? n).map int).or ((int64? n).map long) := by
  cases h : int32? n <;> simp [ofJson?, h]

theorem ofJson?_toJson (v : SqlValue) : ofJson? v.toJson = some v.narrowed := by
  cases v with
  | int i => exact ofJson?_toJson_of_int i
  | long l =>
    rw [toJson, ofJson?_integer, int64?_toInt, narrowed]
    cases int32? l.toInt <;> rfl
  | _ => rfl

theorem toJson_of_ofJson? {j : Json} (h : ofJson? j = some w) : w.toJson = j := by
  cases j with
  | integer n =>
    rw [ofJson?_integer] at h
    cases hi : int32? n with
    | some i =>
      simp only [hi, Option.map_some, Option.some_or, Option.some.injEq] at h
      subst h
      rw [toJson, toInt_of_int32? hi]
    | none =>
      simp only [hi, Option.map_none, Option.none_or, Option.map_eq_some_iff] at h
      obtain ⟨l, hl, rfl⟩ := h
      rw [toJson, toInt_of_int64? hl]
  | float literal => cases h
  | array items => cases h
  | object members => cases h
  | _ =>
    cases h
    rfl

theorem narrowed_of_ofJson? {j : Json} (h : ofJson? j = some w) : w.narrowed = w := by
  have hread := ofJson?_toJson w
  rw [toJson_of_ofJson? h, h] at hread
  exact (Option.some.inj hread).symm

theorem toJson_eq_integer_iff {n : Int} :
    w.toJson = .integer n ↔ ∃ l, w.asLong = some l ∧ l.toInt = n := by
  cases w <;> simp [toJson, asLong]

theorem parse_encode (v : SqlValue) : Json.parse v.encode = some v.toJson := by
  cases v with
  | null => rfl
  | bool b => cases b <;> rfl
  | int i => exact Json.parse_ofInt i.toInt
  | long l => exact Json.parse_ofInt l.toInt
  | text s => exact Json.parse_renderString s

theorem decode_encode_eq_narrowed (v : SqlValue) : decode v.encode = some v.narrowed := by
  rw [decode, parse_encode, Option.bind_some, ofJson?_toJson]

theorem decode_integerText {text : String} {n : Int} (h : Json.IntegerText text n) :
    decode text = ((int32? n).map int).or ((int64? n).map long) := by
  rw [decode, Json.parse_eq_integer_iff.2 h, Option.bind_some, ofJson?_integer]

theorem decode_integerText_cases {text : String} {n : Int} (h : Json.IntegerText text n) :
    ((∃ i, decode text = some (int i)) ↔ IsInt32 n) ∧
    ((∃ l, decode text = some (long l)) ↔ IsInt64 n ∧ ¬IsInt32 n) ∧
    (decode text = none ↔ ¬IsInt64 n) := by
  rw [decode_integerText h]
  by_cases h32 : IsInt32 n
  · obtain ⟨i, hi⟩ := exists_int32?_iff.2 h32
    simp [hi, h32, h32.isInt64]
  · have hi := int32?_eq_none_iff.2 h32
    by_cases h64 : IsInt64 n
    · obtain ⟨l, hl⟩ := exists_int64?_iff.2 h64
      simp [hi, hl, h32, h64]
    · simp [hi, int64?_eq_none_iff.2 h64, h32, h64]

/-- A value comes back from its text, with its number in the narrowest width, and whatever is
read comes back unchanged. The number of the value read is the one the text holds. -/
theorem decode_encode :
    (∀ v, ∃ w, decode (encode v) = some w ∧
      ((∀ l, v = long l → ¬IsInt32 l.toInt) → w = v) ∧
      (∀ l, v = long l → IsInt32 l.toInt → ∃ i : Int32, w = int i ∧ i.toInt = l.toInt) ∧
      encode w = encode v ∧ w.isNull = v.isNull ∧ w.asText = v.asText ∧
      w.asLong = v.asLong ∧ w.display = v.display) ∧
    (∀ text w, decode text = some w →
      decode (encode w) = some w ∧
      ∀ n, Json.IntegerText text n ↔ ∃ l, w.asLong = some l ∧ l.toInt = n) ∧
    (∀ text n, Json.IntegerText text n →
      ((∃ i, decode text = some (int i)) ↔ IsInt32 n) ∧
      ((∃ l, decode text = some (long l)) ↔ IsInt64 n ∧ ¬IsInt32 n) ∧
      (decode text = none ↔ ¬IsInt64 n)) := by
  refine ⟨?_, ?_, fun text n h => decode_integerText_cases h⟩
  · intro v
    refine ⟨v.narrowed, decode_encode_eq_narrowed v, narrowed_eq_self, ?_, readings_narrowed v⟩
    rintro l rfl hl
    exact exists_narrowed_long hl
  · intro text w h
    obtain ⟨j, hparse, hj⟩ := Option.bind_eq_some_iff.1 h
    constructor
    · rw [decode_encode_eq_narrowed, narrowed_of_ofJson? hj]
    · intro n
      rw [← Json.parse_eq_integer_iff, hparse, Option.some.injEq, ← toJson_of_ofJson? hj]
      exact toJson_eq_integer_iff

/-- A width lost, escapes, and a number on either side of a limit. -/
theorem decode_encode_limits :
    (∃ i : Int32, decode (encode (long 5)) = some (int i) ∧ i.toInt = 5) ∧
    decode (encode (text "a \"b\" \\ \n")) = some (text "a \"b\" \\ \n") ∧
    (∃ l, decode " 2147483648\n" = some (long l)) ∧
    decode "-9223372036854775809" = none := by
  obtain ⟨hround, -, hwidth⟩ := decode_encode
  refine ⟨?_, ?_, ?_, ?_⟩
  · obtain ⟨w, hdecode, -, hnarrow, -⟩ := hround (long 5)
    obtain ⟨i, rfl, hi⟩ := hnarrow 5 rfl (by decide)
    exact ⟨i, hdecode, hi⟩
  · obtain ⟨w, hdecode, hsame, -⟩ := hround (text "a \"b\" \\ \n")
    rw [hdecode, hsame fun l h => by cases h]
  · have hliteral := Json.isLiteral_ofInt 2147483648
    have htext : Json.IntegerText " 2147483648\n" 2147483648 :=
      ⟨[' '], _, ['\n'], by decide, rfl, rfl, hliteral⟩
    exact (hwidth _ _ htext).2.1.2 (by decide)
  · have hliteral := Json.isLiteral_ofInt (-9223372036854775809)
    have htext : Json.IntegerText "-9223372036854775809" (-9223372036854775809) :=
      ⟨[], _, [], by decide, rfl, rfl, hliteral⟩
    exact (hwidth _ _ htext).2.2.2 (by decide)

end SqlValue
end DataMapper
