/-! # Decimal text of integers

Writing is the usual decimal numeral with a minus sign below zero. Reading
accepts one optional sign and at least one ASCII digit, and nothing else.
-/
namespace DataMapper.Decimal

/-- The number that a non-empty list of ASCII digits stands for. -/
def readNat (cs : List Char) : Option Nat :=
  if !cs.isEmpty && cs.all Char.isDigit then some (Nat.ofDigitChars 10 cs 0) else none

def readInt : List Char → Option Int
  | '-' :: cs => (readNat cs).map fun n => -(n : Int)
  | '+' :: cs => (readNat cs).map Int.ofNat
  | cs => (readNat cs).map Int.ofNat

def ofNat (n : Nat) : String :=
  String.ofList (Nat.toDigits 10 n)

def ofInt : Int → String
  | .ofNat n => ofNat n
  | .negSucc n => "-" ++ ofNat (n + 1)

theorem isDigit_of_mem_toDigits {n : Nat} {c : Char} (h : c ∈ Nat.toDigits 10 n) :
    c.isDigit = true :=
  Nat.isDigit_of_mem_toDigits (by decide) (by decide) h

theorem isDigit_of_mem_ofNat {n : Nat} {c : Char} (h : c ∈ (ofNat n).toList) :
    c.isDigit = true :=
  isDigit_of_mem_toDigits (by simpa [ofNat] using h)

theorem readNat_toDigits (n : Nat) : readNat (Nat.toDigits 10 n) = some n := by
  have hne : Nat.toDigits 10 n ≠ [] := Nat.toDigits_ne_nil
  have hall : ∀ c ∈ Nat.toDigits 10 n, c.isDigit = true := fun c hc =>
    isDigit_of_mem_toDigits hc
  simp [readNat, hne, Nat.ofDigitChars_ten_toDigits]
  exact hall

theorem readInt_ofInt (i : Int) : readInt (ofInt i).toList = some i := by
  cases i with
  | ofNat n =>
    have h := readNat_toDigits n
    have hs : (ofInt (.ofNat n)).toList = Nat.toDigits 10 n := by simp [ofInt, ofNat]
    rw [hs]
    cases hd : Nat.toDigits 10 n with
    | nil => exact absurd hd Nat.toDigits_ne_nil
    | cons c r =>
      have hc : c.isDigit = true := isDigit_of_mem_toDigits (hd ▸ List.mem_cons_self)
      rw [hd] at h
      unfold readInt
      split
      · next heq => cases heq; exact absurd hc (by decide)
      · next heq => cases heq; exact absurd hc (by decide)
      · simp [h]
  | negSucc n =>
    have hs : (ofInt (.negSucc n)).toList = '-' :: Nat.toDigits 10 (n + 1) := by
      simp [ofInt, ofNat]
    rw [hs]
    simp only [readInt, readNat_toDigits]
    rfl

theorem ofInt_inj {i j : Int} : ofInt i = ofInt j ↔ i = j := by
  refine ⟨fun h => ?_, fun h => by rw [h]⟩
  have hread := readInt_ofInt i
  rw [h, readInt_ofInt j] at hread
  exact (Option.some.inj hread).symm

theorem ofNat_inj {m n : Nat} (h : ofNat m = ofNat n) : m = n := by
  have hint : ofInt m = ofInt n := h
  exact Int.ofNat_inj.1 (ofInt_inj.1 hint)

end DataMapper.Decimal
