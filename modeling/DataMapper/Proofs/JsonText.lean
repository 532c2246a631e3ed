import Mathlib.Tactic.SplitIfs
import Mathlib.Tactic.Tauto
import DataMapper.Json.Reader

/-! # Strings and integers in JSON text

A string is read back from what is written for it, whatever characters it holds.
An integer is read exactly from the texts that hold its literal and blanks, and
nothing else is read as an integer.
-/
namespace DataMapper.Json

/-! ## Strings -/

theorem hexNat?_control : ∀ n < 32,
    Text.hexNat? ['0', '0', (n / 16).digitChar, (n % 16).digitChar] = some n := by
  decide

theorem readString_escapeChar (c : Char) (rest : List Char) :
    readString (escapeChar c ++ rest) = prepend c (readString rest) := by
  unfold escapeChar
  split_ifs with hquote hbackslash hbackspace hfeed hnewline hreturn htab hcontrol
  · subst hquote; rfl
  · subst hbackslash; rfl
  · subst hbackspace; rfl
  · subst hfeed; rfl
  · subst hnewline; rfl
  · subst hreturn; rfl
  · subst htab; rfl
  · have hhex := hexNat?_control c.toNat hcontrol
    have hhigh : ¬(0xD800 ≤ c.toNat ∧ c.toNat < 0xDC00) := by omega
    have hlow : ¬(0xDC00 ≤ c.toNat ∧ c.toNat < 0xE000) := by omega
    simp only [List.cons_append, List.nil_append]
    rw [readString]
    simp only [hhex, hhigh, hlow, if_false, Char.ofNat_toNat]
  · simp only [List.cons_append, List.nil_append]
    rw [readString.eq_def]
    split
    · next h => cases h
    · next h => exact absurd (List.cons.inj h).1 hquote
    · next h => exact absurd (List.cons.inj h).1 hbackslash
    · next h => exact absurd (List.cons.inj h).1 hbackslash
    · next h =>
      obtain ⟨rfl, rfl⟩ := List.cons.inj h
      rw [if_neg (not_or.2 ⟨hcontrol, hbackslash⟩)]

theorem readString_flatMap_escapeChar (cs rest : List Char) :
    readString (cs.flatMap escapeChar ++ '"' :: rest) = some (cs, rest) := by
  induction cs with
  | nil => rfl
  | cons c cs ih =>
    rw [List.flatMap_cons, List.append_assoc, readString_escapeChar, ih]
    rfl

theorem parse_renderString (s : String) : parse (renderString s) = some (string s) := by
  have hread := readString_flatMap_escapeChar s.toList []
  have htext : (renderString s).toList = '"' :: (s.toList.flatMap escapeChar ++ ['"']) := by
    simp [renderString]
  have hvalue : readValue ((renderString s).length + 1) (renderString s).toList =
      some (string s, []) := by
    rw [htext, readValue]
    simp [isSpace, hread]
  rw [parse, hvalue]
  rfl

/-! ## Integers -/

structure IsNumeral (cs : List Char) : Prop where
  ne_nil : cs ≠ []
  isDigit : ∀ c ∈ cs, c.isDigit = true
  unpadded : ¬(cs.head? = some '0' ∧ 1 < cs.length)

/-- The literals of integers. Zero has no sign. -/
inductive IsLiteral : List Char → Int → Prop
  | nonneg {cs : List Char} (h : IsNumeral cs) : IsLiteral cs (Nat.ofDigitChars 10 cs 0)
  | neg {cs : List Char} (h : IsNumeral cs) (hne : Nat.ofDigitChars 10 cs 0 ≠ 0) :
    IsLiteral ('-' :: cs) (-Nat.ofDigitChars 10 cs 0)

def IntegerText (text : String) (n : Int) : Prop :=
  ∃ before literal after, text.toList = before ++ literal ++ after ∧
    before.all isSpace = true ∧ after.all isSpace = true ∧ IsLiteral literal n

/-- What may stand after a literal for it to be the whole number. -/
def EndsLiteral (rest : List Char) : Prop :=
  ∀ c ∈ rest.head?, c.isDigit = false ∧ c ≠ '.' ∧ c ≠ 'e' ∧ c ≠ 'E'

theorem eq_of_isSpace {c : Char} (h : isSpace c = true) :
    c = ' ' ∨ c = '\t' ∨ c = '\n' ∨ c = '\r' := by
  simpa [isSpace, or_assoc] using h

theorem EndsLiteral.of_blank {rest : List Char} (h : rest.all isSpace = true) :
    EndsLiteral rest := by
  intro c hc
  have hblank := List.all_eq_true.1 h c (List.mem_of_mem_head? hc)
  rcases eq_of_isSpace hblank with rfl | rfl | rfl | rfl <;> decide

theorem IsLiteral.exists_cons {literal : List Char} {n : Int} (h : IsLiteral literal n) :
    ∃ c cs, literal = c :: cs ∧ (c = '-' ∨ c.isDigit = true) := by
  cases h with
  | nonneg h =>
    obtain ⟨c, cs, rfl⟩ := List.exists_cons_of_ne_nil h.ne_nil
    exact ⟨c, cs, rfl, .inr (h.isDigit c List.mem_cons_self)⟩
  | neg => exact ⟨'-', _, rfl, .inl rfl⟩

theorem readDigits_eq_some_iff {cs digits rest : List Char} :
    readDigits cs = some (digits, rest) ↔ digits ≠ [] ∧ (∀ c ∈ digits, c.isDigit = true) ∧
      cs = digits ++ rest ∧ ∀ c ∈ rest.head?, c.isDigit = false := by
  constructor
  · intro h
    unfold readDigits at h
    simp only at h
    split at h
    · cases h
    · next hne =>
      cases h
      refine ⟨by simpa using hne, List.all_eq_true.1 List.all_takeWhile,
        List.takeWhile_append_dropWhile.symm, ?_⟩
      intro c hc
      have hstop := List.head?_dropWhile_not Char.isDigit cs
      rw [Option.mem_def.1 hc] at hstop
      exact hstop
  · rintro ⟨hne, hdigits, rfl, hstop⟩
    have hdrop : rest.dropWhile Char.isDigit = rest := by
      cases rest with
      | nil => rfl
      | cons c rest => simp [hstop c rfl]
    have htake : rest.takeWhile Char.isDigit = [] := by
      cases rest with
      | nil => rfl
      | cons c rest => simp [hstop c rfl]
    rw [readDigits, List.takeWhile_append_of_pos hdigits, List.dropWhile_append_of_pos hdigits,
      hdrop, htake, List.append_nil]
    simp [hne]

theorem readFraction_eq_nil_iff {cs rest : List Char} :
    readFraction cs = some ([], rest) ↔ cs.head? ≠ some '.' ∧ rest = cs := by
  unfold readFraction
  split
  · next r => cases readDigits r <;> simp
  · next h =>
    have hhead : cs.head? ≠ some '.' := by
      intro hdot
      obtain ⟨r, rfl⟩ := List.head?_eq_some_iff.1 hdot
      exact h r rfl
    simp [hhead, eq_comm]

theorem readExponent_eq_nil_iff {cs rest : List Char} :
    readExponent cs = some ([], rest) ↔
      cs.head? ≠ some 'e' ∧ cs.head? ≠ some 'E' ∧ rest = cs := by
  cases cs with
  | nil => simp [readExponent, eq_comm]
  | cons e r =>
    by_cases he : e = 'e' ∨ e = 'E'
    · have hread : readExponent (e :: r) ≠ some ([], rest) := by
        simp [readExponent, he]
      have hhead : ¬((e :: r).head? ≠ some 'e' ∧ (e :: r).head? ≠ some 'E') := by
        simpa [← imp_iff_not_or, or_iff_not_imp_left] using he
      tauto
    · have hread : readExponent (e :: r) = some ([], e :: r) := by
        simp only [readExponent, he, if_false]
      obtain ⟨h₁, h₂⟩ := not_or.1 he
      simp [hread, h₁, h₂, eq_comm]

def ofParts (sign whole fraction exponent : List Char) : Json :=
  let value := Nat.ofDigitChars 10 whole 0
  if fraction.isEmpty && exponent.isEmpty && (sign.isEmpty || value != 0) then
    integer (if sign.isEmpty then value else -value)
  else float (String.ofList (sign ++ whole ++ fraction ++ exponent))

theorem ite_eq_integer_iff {p : Prop} [Decidable p] {m n : Int} {literal : String} :
    (if p then integer m else float literal) = integer n ↔ p ∧ m = n := by
  by_cases h : p <;> simp [h]

theorem ofParts_eq_integer_iff {sign whole fraction exponent : List Char} {n : Int} :
    ofParts sign whole fraction exponent = integer n ↔ fraction = [] ∧ exponent = [] ∧
      (sign = [] ∧ n = Nat.ofDigitChars 10 whole 0 ∨
        sign ≠ [] ∧ Nat.ofDigitChars 10 whole 0 ≠ 0 ∧ n = -Nat.ofDigitChars 10 whole 0) := by
  rw [ofParts, ite_eq_integer_iff]
  by_cases hsign : sign = []
  · simp [hsign, @eq_comm _ n, and_assoc]
  · simp [hsign, @eq_comm _ n, and_assoc]

theorem readUnsigned_of_parts {sign cs whole afterWhole fraction afterFraction : List Char}
    (hdigits : readDigits cs = some (whole, afterWhole))
    (hzero : ¬(whole.head? = some '0' ∧ 1 < whole.length))
    (hfraction : readFraction afterWhole = some (fraction, afterFraction)) :
    readUnsigned sign cs =
      (readExponent afterFraction).map fun p => (ofParts sign whole fraction p.1, p.2) := by
  rw [readUnsigned]
  simp only [hdigits, hzero, hfraction, Option.bind_eq_bind, Option.bind_some, if_false]
  cases readExponent afterFraction with
  | none => rfl
  | some p =>
    simp only [Option.bind_some, ofParts, Option.map_some]
    split <;> rfl

theorem readUnsigned_eq_some_iff {sign cs rest : List Char} {j : Json} :
    readUnsigned sign cs = some (j, rest) ↔ ∃ whole fraction exponent afterWhole afterFraction,
      readDigits cs = some (whole, afterWhole) ∧
      ¬(whole.head? = some '0' ∧ 1 < whole.length) ∧
      readFraction afterWhole = some (fraction, afterFraction) ∧
      readExponent afterFraction = some (exponent, rest) ∧
      ofParts sign whole fraction exponent = j := by
  constructor
  · intro h
    cases hdigits : readDigits cs with
    | none => simp [readUnsigned, hdigits] at h
    | some p =>
      obtain ⟨whole, afterWhole⟩ := p
      by_cases hzero : whole.head? = some '0' ∧ 1 < whole.length
      · simp [readUnsigned, hdigits, hzero] at h
      · cases hfraction : readFraction afterWhole with
        | none => simp [readUnsigned, hdigits, hzero, hfraction] at h
        | some q =>
          rw [readUnsigned_of_parts hdigits hzero hfraction] at h
          obtain ⟨⟨exponent, r⟩, hexponent, heq⟩ := Option.map_eq_some_iff.1 h
          obtain ⟨hvalue, rfl⟩ := Prod.mk.inj heq
          exact ⟨whole, q.1, exponent, afterWhole, q.2, rfl, hzero, hfraction, hexponent, hvalue⟩
  · rintro ⟨whole, fraction, exponent, afterWhole, afterFraction, hdigits, hzero, hfraction,
      hexponent, rfl⟩
    rw [readUnsigned_of_parts hdigits hzero hfraction, hexponent, Option.map_some]

theorem readUnsigned_eq_integer_iff {sign cs rest : List Char} {n : Int} :
    readUnsigned sign cs = some (integer n, rest) ↔ ∃ digits,
      cs = digits ++ rest ∧ IsNumeral digits ∧ EndsLiteral rest ∧
      (sign = [] ∧ n = Nat.ofDigitChars 10 digits 0 ∨
        sign ≠ [] ∧ Nat.ofDigitChars 10 digits 0 ≠ 0 ∧ n = -Nat.ofDigitChars 10 digits 0) := by
  rw [readUnsigned_eq_some_iff]
  constructor
  · rintro ⟨digits, fraction, exponent, r, r', hdigits, hzero, hfraction, hexponent, hvalue⟩
    obtain ⟨rfl, rfl, hsign⟩ := ofParts_eq_integer_iff.1 hvalue
    obtain ⟨hdot, rfl⟩ := readFraction_eq_nil_iff.1 hfraction
    obtain ⟨he, hE, rfl⟩ := readExponent_eq_nil_iff.1 hexponent
    obtain ⟨hne, hall, rfl, hstop⟩ := readDigits_eq_some_iff.1 hdigits
    refine ⟨digits, rfl, ⟨hne, hall, hzero⟩, fun c hc => ?_, hsign⟩
    rw [Option.mem_def.1 hc] at hdot he hE
    exact ⟨hstop c hc, by simpa using hdot, by simpa using he, by simpa using hE⟩
  · rintro ⟨digits, rfl, ⟨hne, hall, hzero⟩, hend, hsign⟩
    have hdigits := readDigits_eq_some_iff.2 ⟨hne, hall, rfl, fun c hc => (hend c hc).1⟩
    have hfraction := readFraction_eq_nil_iff.2 ⟨fun hc => (hend _ hc).2.1 rfl, rfl⟩
    have hexponent := readExponent_eq_nil_iff.2
      ⟨fun hc => (hend _ hc).2.2.1 rfl, fun hc => (hend _ hc).2.2.2 rfl, rfl⟩
    exact ⟨digits, [], [], rest, rest, hdigits, hzero, hfraction, hexponent,
      ofParts_eq_integer_iff.2 ⟨rfl, rfl, hsign⟩⟩

theorem readNumber_eq_integer_iff {cs rest : List Char} {n : Int} :
    readNumber cs = some (integer n, rest) ↔
      ∃ literal, cs = literal ++ rest ∧ IsLiteral literal n ∧ EndsLiteral rest := by
  constructor
  · intro h
    unfold readNumber at h
    split at h
    · obtain ⟨digits, rfl, hnumeral, hend, hsign⟩ := readUnsigned_eq_integer_iff.1 h
      obtain ⟨-, hvalue, rfl⟩ := hsign.resolve_left (by simp)
      exact ⟨'-' :: digits, rfl, .neg hnumeral hvalue, hend⟩
    · obtain ⟨digits, rfl, hnumeral, hend, hsign⟩ := readUnsigned_eq_integer_iff.1 h
      obtain ⟨-, rfl⟩ := hsign.resolve_right (by simp)
      exact ⟨digits, rfl, .nonneg hnumeral, hend⟩
  · rintro ⟨literal, rfl, hliteral, hend⟩
    cases hliteral with
    | nonneg hnumeral =>
      obtain ⟨c, digits, rfl⟩ := List.exists_cons_of_ne_nil hnumeral.ne_nil
      have hc : c ≠ '-' := by
        rintro rfl
        exact absurd (hnumeral.isDigit '-' List.mem_cons_self) (by decide)
      unfold readNumber
      split
      · next h => exact absurd (List.cons.inj h).1 hc
      · exact readUnsigned_eq_integer_iff.2 ⟨_, rfl, hnumeral, hend, .inl ⟨rfl, rfl⟩⟩
    | neg hnumeral hvalue =>
      exact readUnsigned_eq_integer_iff.2
        ⟨_, rfl, hnumeral, hend, .inr ⟨by simp, hvalue, rfl⟩⟩

theorem readValue_eq_integer_iff {fuel : Nat} {cs rest : List Char} {n : Int} :
    readValue (fuel + 1) cs = some (integer n, rest) ↔
      readNumber (cs.dropWhile isSpace) = some (integer n, rest) := by
  constructor
  · intro h
    rw [readValue] at h
    split at h
    · simp at h
    · simp at h
    · simp at h
    · simp at h
    · split at h <;> simp at h
    · split at h <;> simp at h
    · exact h
  · intro h
    obtain ⟨literal, hcs, hliteral, -⟩ := readNumber_eq_integer_iff.1 h
    obtain ⟨c, digits, rfl, hc⟩ := hliteral.exists_cons
    rw [readValue]
    -- no other value begins with a digit or a minus sign
    split
    all_goals first
      | exact h
      | next heq =>
        rw [heq] at hcs
        obtain ⟨rfl, -⟩ := List.cons.inj hcs
        exact absurd hc (by decide)

theorem IsLiteral.dropWhile_isSpace {before literal : List Char} {n : Int}
    (h : IsLiteral literal n) (hbefore : before.all isSpace = true) (rest : List Char) :
    (before ++ (literal ++ rest)).dropWhile isSpace = literal ++ rest := by
  obtain ⟨c, digits, rfl, hc⟩ := h.exists_cons
  have hblank : ¬isSpace c = true := by
    intro hspace
    rcases eq_of_isSpace hspace with rfl | rfl | rfl | rfl <;> exact absurd hc (by decide)
  rw [List.dropWhile_append_of_pos (List.all_eq_true.1 hbefore), List.cons_append,
    List.dropWhile_cons_of_neg hblank]

/-- A text is read as an integer just when it holds the literal of that integer. -/
theorem parse_eq_integer_iff {text : String} {n : Int} :
    parse text = some (integer n) ↔ IntegerText text n := by
  unfold parse
  constructor
  · intro h
    cases hvalue : readValue (text.length + 1) text.toList with
    | none => simp [hvalue] at h
    | some p =>
      obtain ⟨value, rest⟩ := p
      simp only [hvalue, Option.ite_none_right_eq_some, Option.some.injEq] at h
      obtain ⟨hrest, rfl⟩ := h
      obtain ⟨literal, hcs, hliteral, -⟩ :=
        readNumber_eq_integer_iff.1 (readValue_eq_integer_iff.1 hvalue)
      refine ⟨text.toList.takeWhile isSpace, literal, rest, ?_, List.all_takeWhile, hrest, hliteral⟩
      rw [List.append_assoc, ← hcs, List.takeWhile_append_dropWhile]
  · rintro ⟨before, literal, after, htext, hbefore, hafter, hliteral⟩
    have hvalue : readValue (text.length + 1) text.toList = some (integer n, after) := by
      rw [readValue_eq_integer_iff, htext, List.append_assoc,
        hliteral.dropWhile_isSpace hbefore, readNumber_eq_integer_iff]
      exact ⟨literal, rfl, hliteral, .of_blank hafter⟩
    simp [hvalue, hafter]

theorem head?_toDigits_ne_zero {n : Nat} (h : n ≠ 0) :
    (Nat.toDigits 10 n).head? ≠ some '0' := by
  induction n using Nat.strongRecOn with
  | ind n ih =>
    by_cases hn : n < 10
    · have hdigit : ∀ n < 10, n ≠ 0 → n.digitChar ≠ '0' := by decide
      simpa [Nat.toDigits_of_lt_base hn] using hdigit n hn h
    · have hhead := ih (n / 10) (by omega) (by omega)
      rw [Nat.toDigits_of_base_le (by omega) (by omega)]
      cases hd : Nat.toDigits 10 (n / 10) with
      | nil => exact absurd hd Nat.toDigits_ne_nil
      | cons c digits =>
        rw [hd] at hhead
        exact hhead

theorem isNumeral_toDigits (n : Nat) : IsNumeral (Nat.toDigits 10 n) := by
  refine ⟨Nat.toDigits_ne_nil, fun c hc => Decimal.isDigit_of_mem_toDigits hc, ?_⟩
  rintro ⟨hzero, hlength⟩
  by_cases hn : n = 0
  · subst hn
    exact absurd hlength (by decide)
  · exact head?_toDigits_ne_zero hn hzero

theorem isLiteral_ofInt (n : Int) : IsLiteral (Decimal.ofInt n).toList n := by
  cases n with
  | ofNat n =>
    have h := IsLiteral.nonneg (isNumeral_toDigits n)
    rw [Nat.ofDigitChars_ten_toDigits] at h
    simpa [Decimal.ofInt, Decimal.ofNat] using h
  | negSucc n =>
    have h := IsLiteral.neg (isNumeral_toDigits (n + 1))
    rw [Nat.ofDigitChars_ten_toDigits] at h
    simpa [Decimal.ofInt, Decimal.ofNat, Int.negSucc_eq] using h (Nat.succ_ne_zero n)

theorem parse_ofInt (n : Int) : parse (Decimal.ofInt n) = some (integer n) :=
  parse_eq_integer_iff.2 ⟨[], _, [], by simp, rfl, rfl, isLiteral_ofInt n⟩

end DataMapper.Json
