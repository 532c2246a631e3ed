import DataMapper.Text.LetterCase.Runs

/-! # Capitals and small letters

The Unicode properties Uppercase and Lowercase and the full lowercase mapping
of a single character. ASCII letters are decided without the tables.
-/
namespace DataMapper.Text

def isUppercase (c : Char) : Bool :=
  if c.toNat < 0x80 then c.isUpper else uppercaseRuns.any (·.contains c)

def isLowercase (c : Char) : Bool :=
  if c.toNat < 0x80 then c.isLower else lowercaseRuns.any (·.contains c)

theorem isUppercase_of_isUpper {c : Char} (h : c.isUpper = true) : isUppercase c = true := by
  have hr : 'A'.val ≤ c.val ∧ c.val ≤ 'Z'.val := of_decide_eq_true h
  have hc : c.toNat < 0x80 := Nat.lt_of_le_of_lt (UInt32.le_iff_toNat_le.1 hr.2) (by decide)
  simp [isUppercase, hc, h]

theorem isLowercase_of_isLower {c : Char} (h : c.isLower = true) : isLowercase c = true := by
  have hr : c.val ≤ 'z'.val := of_decide_eq_true (Bool.and_eq_true_iff.1 h).2
  have hc : c.toNat < 0x80 := Nat.lt_of_le_of_lt (UInt32.le_iff_toNat_le.1 hr) (by decide)
  simp [isLowercase, hc, h]

/-- The lowercase form of a character: two characters for U+0130, one for every other. -/
def lowercase (c : Char) : List Char :=
  if c.toNat < 0x80 then [c.toLower]
  else if c.toNat = 0x130 then ['i', Char.ofNat 0x307]
  else match loweringRuns.find? (·.1.contains c) with
    | some (run, image) => [Char.ofNat (c.toNat - run.first + image)]
    | none => [c]

def lowercaseText (s : String) : String :=
  String.ofList (s.toList.flatMap lowercase)

theorem lowercase_ne_nil (c : Char) : lowercase c ≠ [] := by
  unfold lowercase
  split
  · simp
  · split
    · simp
    · split <;> simp

end DataMapper.Text
