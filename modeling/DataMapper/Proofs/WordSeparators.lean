import Mathlib
import DataMapper.Text.SnakeCase

/-! # Separators between the words of a name

Snake case writes the characters of a name one after the other, each capital in
its lowercase form, with an underscore before a capital that starts a word. Such
an underscore stands between two other characters. So the underscores that end
the text or stand side by side are those of the name, and a text without capitals
is not changed.
-/
namespace DataMapper.Text

/-! ## Lowercase forms -/

variable {c : Char}

theorem ofNat_ne_underscore {n : Nat} (h : 0x5F < n) : Char.ofNat n ≠ '_' := by
  intro heq
  have hcode : (Char.ofNat n).toNat = 0x5F := by rw [heq]; rfl
  rw [Char.toNat_ofNat] at hcode
  split at hcode <;> omega

theorem toNat_of_isUpper (h : c.isUpper = true) : 0x41 ≤ c.toNat ∧ c.toNat ≤ 0x5A := by
  have hrange : 'A'.val ≤ c.val ∧ c.val ≤ 'Z'.val := of_decide_eq_true h
  exact ⟨UInt32.le_iff_toNat_le.1 hrange.1, UInt32.le_iff_toNat_le.1 hrange.2⟩

theorem toLower_ne_underscore (h : c ≠ '_') : c.toLower ≠ '_' := by
  cases hupper : c.isUpper with
  | true =>
    have hcode := toNat_of_isUpper hupper
    rw [Char.toLower_eq_of_isUpper hupper]
    exact ofNat_ne_underscore (by omega)
  | false =>
    rw [Char.toLower_eq_of_not_isUpper (by simp [hupper])]
    exact h

/-- The lowercase images lie behind the underscore. -/
theorem image_of_mem_loweringRuns : ∀ run ∈ loweringRuns, 0x5F < run.2 := by
  decide +kernel

theorem underscore_not_mem_lowercase (h : c ≠ '_') : '_' ∉ lowercase c := by
  unfold lowercase
  split
  · simpa using (toLower_ne_underscore h).symm
  · split
    · decide
    · split
      · next run image hrun =>
        have himage : 0x5F < image := image_of_mem_loweringRuns _ (List.mem_of_find?_eq_some hrun)
        have hne : Char.ofNat (c.toNat - run.first + image) ≠ '_' := ofNat_ne_underscore (by omega)
        simpa using hne.symm
      · simpa using h.symm

def lowered (c : Char) : List Char :=
  if isUppercase c then lowercase c else [c]

theorem lowered_underscore : lowered '_' = ['_'] := by decide

theorem lowered_ne_nil (c : Char) : lowered c ≠ [] := by
  unfold lowered
  split
  · exact lowercase_ne_nil c
  · exact List.cons_ne_nil c []

theorem underscore_mem_lowered_iff : '_' ∈ lowered c ↔ c = '_' := by
  constructor
  · intro hmem
    by_contra hne
    unfold lowered at hmem
    split at hmem
    · exact underscore_not_mem_lowercase hne hmem
    · exact hne (List.mem_singleton.1 hmem).symm
  · rintro rfl
    rw [lowered_underscore]
    exact List.mem_singleton_self _

theorem head?_lowered : (lowered c).head? = some '_' ↔ c = '_' := by
  constructor
  · intro h
    exact underscore_mem_lowered_iff.1 (List.mem_of_head? h)
  · rintro rfl
    rw [lowered_underscore]
    rfl

theorem getLast?_lowered : (lowered c).getLast? = some '_' ↔ c = '_' := by
  constructor
  · intro h
    exact underscore_mem_lowered_iff.1 (List.mem_of_getLast? h)
  · rintro rfl
    rw [lowered_underscore]
    rfl

/-! ## What is written for a character -/

def piece (before after : Option Char) (c : Char) : List Char :=
  (if isUppercase c && startsWord before after then ['_'] else []) ++ lowered c

def piecesFrom (before : Option Char) : List Char → List (List Char)
  | [] => []
  | c :: rest => piece before rest.head? c :: piecesFrom (some c) rest

variable {before after : Option Char} {out cs : List Char}

/-- An underscore stands before no word. -/
theorem not_startsWord_underscore (after : Option Char) : startsWord (some '_') after = false := by
  have hupper : isUppercase '_' = false := by decide
  have hlower : isLowercase '_' = false := by decide
  simp [startsWord, hupper, hlower]

theorem piece_of_not_startsWord (h : startsWord before after = false) (c : Char) :
    piece before after c = lowered c := by
  rw [piece, h, Bool.and_false]
  rfl

theorem piece_of_not_isUppercase (before after : Option Char) (h : isUppercase c = false) :
    piece before after c = [c] := by
  rw [piece, lowered, h]
  rfl

theorem piece_underscore (before after : Option Char) : piece before after '_' = ['_'] :=
  piece_of_not_isUppercase before after (by decide)

theorem getLast?_piece : (piece before after c).getLast? = some '_' ↔ c = '_' := by
  rw [piece, List.getLast?_append_of_ne_nil _ (lowered_ne_nil c), getLast?_lowered]

/-! ## The text of a name -/

def EndsAlike (out : List Char) (before : Option Char) : Prop :=
  out.getLast? = some '_' ↔ before = some '_'

/-- The look at what has been written never makes a difference: a capital that starts a word
follows a letter or a digit, and what that wrote ends in no underscore. -/
theorem snakeStep_eq (h : EndsAlike out before) (after : Option Char) (c : Char) :
    snakeStep before after out c = out ++ piece before after c := by
  have hseparate : (startsWord before after && out.getLast? != some '_')
      = startsWord before after := by
    cases hstart : startsWord before after with
    | false => rfl
    | true =>
      have hbefore : before ≠ some '_' := by
        rintro rfl
        rw [not_startsWord_underscore] at hstart
        cases hstart
      have hlast : out.getLast? ≠ some '_' := fun hlast => hbefore (h.1 hlast)
      simp [hlast]
  unfold snakeStep piece lowered
  cases isUppercase c with
  | false => rfl
  | true =>
    rw [hseparate]
    cases startsWord before after <;> simp

theorem endsAlike_nil : EndsAlike [] none := by
  simp [EndsAlike]

theorem endsAlike_snakeStep (h : EndsAlike out before) (after : Option Char) (c : Char) :
    EndsAlike (snakeStep before after out c) (some c) := by
  have hne : piece before after c ≠ [] := List.append_ne_nil_of_right_ne_nil _ (lowered_ne_nil c)
  rw [EndsAlike, snakeStep_eq h, List.getLast?_append_of_ne_nil _ hne, getLast?_piece,
    Option.some.injEq]

theorem snakeFrom_eq (h : EndsAlike out before) (cs : List Char) :
    snakeFrom before out cs = out ++ (piecesFrom before cs).flatten := by
  induction cs generalizing before out with
  | nil => exact (List.append_nil out).symm
  | cons c rest ih =>
    rw [snakeFrom, ih (endsAlike_snakeStep h rest.head? c), snakeStep_eq h, piecesFrom,
      List.flatten_cons, List.append_assoc]

theorem endsAlike_snakeFrom (h : EndsAlike out before) (cs : List Char) :
    EndsAlike (snakeFrom before out cs) (cs.getLast?.or before) := by
  induction cs generalizing before out with
  | nil => exact h
  | cons c rest ih =>
    have hlast : (c :: rest).getLast?.or before = rest.getLast?.or (some c) := by
      rw [List.getLast?_cons]
      cases rest.getLast? <;> rfl
    rw [snakeFrom, hlast]
    exact ih (endsAlike_snakeStep h rest.head? c)

theorem toList_snakeCase (s : String) : (snakeCase s).toList = snakeFrom none [] s.toList :=
  String.toList_ofList

theorem toList_snakeCase_eq_flatten (s : String) :
    (snakeCase s).toList = (piecesFrom none s.toList).flatten := by
  rw [toList_snakeCase, snakeFrom_eq endsAlike_nil, List.nil_append]

/-! ## Positions -/

/-- The places of the separators: before a capital that follows a small letter or a digit, or that
follows a capital and is followed by a small letter. -/
def SeparatedAt (cs : List Char) (i : Nat) : Prop :=
  (∃ c ∈ cs[i]?, isUppercase c) ∧ 0 < i ∧
    ((∃ p ∈ cs[i - 1]?, isLowercase p ∨ p.isDigit) ∨
      (∃ p ∈ cs[i - 1]?, isUppercase p) ∧ ∃ n ∈ cs[i + 1]?, isLowercase n)

instance (cs : List Char) (i : Nat) : Decidable (SeparatedAt cs i) :=
  inferInstanceAs (Decidable (_ ∧ _))

def pieces (cs : List Char) : List (List Char) :=
  cs.mapIdx fun i c => (if SeparatedAt cs i then ['_'] else []) ++ lowered c

def textStart (cs : List Char) (i : Nat) : Nat :=
  ((pieces cs).take i).flatten.length

def DoubledAt (cs : List Char) (i : Nat) : Prop :=
  cs[i]? = some '_' ∧ cs[i + 1]? = some '_'

theorem getElem?_piecesFrom (before : Option Char) (cs : List Char) (i : Nat) :
    (piecesFrom before cs)[i]?
      = cs[i]?.map (piece (if i = 0 then before else cs[i - 1]?) cs[i + 1]?) := by
  induction cs generalizing before i with
  | nil => rfl
  | cons c rest ih =>
    cases i with
    | zero => simp [piecesFrom, List.head?_eq_getElem?]
    | succ i =>
      rw [piecesFrom, List.getElem?_cons_succ, ih]
      cases i <;> simp

theorem startsWord_iff : startsWord before after = true ↔
    (∃ p ∈ before, isLowercase p ∨ p.isDigit) ∨
      (∃ p ∈ before, isUppercase p) ∧ ∃ n ∈ after, isLowercase n := by
  cases before with
  | none => simp [startsWord]
  | some p =>
    by_cases hletter : isLowercase p ∨ p.isDigit
    · simp [startsWord, hletter]
    · simp [startsWord, hletter, Option.any_eq_true]

theorem separatedAt_iff {i : Nat} (hc : cs[i]? = some c) :
    (isUppercase c && startsWord (if i = 0 then none else cs[i - 1]?) cs[i + 1]?) = true
      ↔ SeparatedAt cs i := by
  have hupper : (∃ c ∈ cs[i]?, isUppercase c) ↔ isUppercase c = true := by simp [hc]
  rw [Bool.and_eq_true, SeparatedAt, hupper, startsWord_iff]
  cases i with
  | zero => simp
  | succ i => simp

theorem piecesFrom_none (cs : List Char) : piecesFrom none cs = pieces cs := by
  refine List.ext_getElem? ?_
  intro i
  rw [getElem?_piecesFrom, pieces, List.getElem?_mapIdx]
  cases hc : cs[i]? with
  | none => rw [Option.map_none, Option.map_none]
  | some c =>
    rw [Option.map_some, Option.map_some, piece, if_congr (separatedAt_iff hc) rfl rfl]

/-! ## Underscores -/

theorem head?_flatten_piecesFrom (h : ∀ after, startsWord before after = false)
    (cs : List Char) :
    (piecesFrom before cs).flatten.head? = some '_' ↔ cs.head? = some '_' := by
  cases cs with
  | nil => rfl
  | cons c rest =>
    obtain ⟨d, hd⟩ : ∃ d, (lowered c).head? = some d :=
      Option.ne_none_iff_exists'.1 (List.head?_eq_none_iff.not.2 (lowered_ne_nil c))
    rw [piecesFrom, List.flatten_cons, piece_of_not_startsWord (h _), List.head?_append, hd,
      Option.some_or, ← hd, head?_lowered, List.head?_cons, Option.some.injEq]

theorem doubledAt_append {p q : List Char} {k : Nat} :
    DoubledAt (p ++ q) k ↔ DoubledAt p k ∨
      (k + 1 = p.length ∧ p.getLast? = some '_' ∧ q.head? = some '_') ∨
      p.length ≤ k ∧ DoubledAt q (k - p.length) := by
  rw [List.getLast?_eq_getElem?, List.head?_eq_getElem?]
  unfold DoubledAt
  rcases Nat.lt_trichotomy (k + 1) p.length with hlt | heq | hgt
  · have hk : k < p.length := by omega
    rw [List.getElem?_append_left hk, List.getElem?_append_left hlt]
    have hne : k + 1 ≠ p.length := by omega
    have hnot : ¬ p.length ≤ k := by omega
    simp only [hne, hnot, false_and, or_false]
  · have hk : k < p.length := by omega
    have hend : p[k + 1]? = none := List.getElem?_eq_none heq.ge
    rw [List.getElem?_append_left hk, List.getElem?_append_right heq.ge, hend, ← heq]
    simp
  · have hk : p.length ≤ k := by omega
    have hsub : k + 1 - p.length = k - p.length + 1 := by omega
    have hne : k + 1 ≠ p.length := by omega
    have hend : p[k]? = none := List.getElem?_eq_none hk
    rw [List.getElem?_append_right hk, List.getElem?_append_right hgt.le, hsub, hend]
    simp [hk, hne]

theorem not_doubledAt_piece (before after : Option Char) (c : Char) (k : Nat) :
    ¬ DoubledAt (piece before after c) k := by
  rintro ⟨-, hnext⟩
  have hc : c = '_' := by
    -- behind the first character there is none of the separator's
    have hmem : '_' ∈ (piece before after c).tail := by
      rw [← List.getElem?_tail] at hnext
      exact List.mem_of_getElem? hnext
    unfold piece at hmem
    split at hmem
    · exact underscore_mem_lowered_iff.1 hmem
    · exact underscore_mem_lowered_iff.1 (List.mem_of_mem_tail hmem)
  rw [hc, piece_underscore] at hnext
  simp at hnext

theorem doubledAt_cons_zero : DoubledAt (c :: cs) 0 ↔ c = '_' ∧ cs.head? = some '_' := by
  simp [DoubledAt, List.head?_eq_getElem?]

/-- Underscores stand side by side in the text only where a name has them so. -/
theorem doubledAt_piecesFrom {k : Nat} : DoubledAt (piecesFrom before cs).flatten k ↔
    ∃ i, DoubledAt cs i ∧ k = ((piecesFrom before cs).take i).flatten.length := by
  induction cs generalizing before k with
  | nil => simp [piecesFrom, DoubledAt]
  | cons c rest ih =>
    have hpiece := not_doubledAt_piece before rest.head? c k
    rw [piecesFrom, List.flatten_cons, doubledAt_append, ih, getLast?_piece]
    constructor
    · rintro (h | ⟨hk, rfl, hrest⟩ | ⟨hk, i, hi, hstart⟩)
      · exact absurd h hpiece
      · -- an underscore starts no word, so what follows it here follows it in the name
        rw [head?_flatten_piecesFrom not_startsWord_underscore] at hrest
        rw [piece_underscore] at hk
        exact ⟨0, doubledAt_cons_zero.2 ⟨rfl, hrest⟩, by simpa using hk⟩
      · refine ⟨i + 1, hi, ?_⟩
        rw [List.take_succ_cons, List.flatten_cons, List.length_append]
        omega
    · rintro ⟨i, hi, hk⟩
      cases i with
      | zero =>
        obtain ⟨rfl, hrest⟩ := doubledAt_cons_zero.1 hi
        right
        left
        rw [head?_flatten_piecesFrom not_startsWord_underscore, piece_underscore]
        exact ⟨by simpa using hk, rfl, hrest⟩
      | succ i =>
        rw [List.take_succ_cons, List.flatten_cons, List.length_append] at hk
        right
        right
        exact ⟨by omega, i, hi, by omega⟩

theorem filter_flatten_piecesFrom (before : Option Char) (cs : List Char) :
    (piecesFrom before cs).flatten.filter (· ≠ '_')
      = (cs.flatMap lowered).filter (· ≠ '_') := by
  induction cs generalizing before with
  | nil => rfl
  | cons c rest ih =>
    have hpiece : (piece before rest.head? c).filter (· ≠ '_')
        = (lowered c).filter (· ≠ '_') := by
      unfold piece
      split <;> simp
    rw [piecesFrom, List.flatten_cons, List.filter_append, hpiece, ih, List.flatMap_cons,
      List.filter_append]

/-! ## Capitals -/

def Lowerable (cs : List Char) : Prop :=
  ∀ c ∈ cs, isUppercase c → ∀ d ∈ lowercase c, isUppercase d = false

theorem toNat_toLower_lt (h : c.toNat < 0x80) : c.toLower.toNat < 0x80 := by
  cases hupper : c.isUpper with
  | true =>
    have hcode := toNat_of_isUpper hupper
    have hvalid : (c.toNat + 32).isValidChar := .inl (by omega)
    rw [Char.toLower_eq_of_isUpper hupper, Char.toNat_ofNat, if_pos hvalid]
    omega
  | false =>
    rw [Char.toLower_eq_of_not_isUpper (by simp [hupper])]
    exact h

theorem lowerable_of_ascii (h : ∀ c ∈ cs, c.toNat < 0x80) : Lowerable cs := by
  intro c hc _ d hd
  have hcode := h c hc
  rw [lowercase, if_pos hcode, List.mem_singleton] at hd
  rw [hd, isUppercase, if_pos (toNat_toLower_lt hcode)]
  exact Char.isUpper_toLower_eq_false c

theorem Lowerable.not_isUppercase_lowered (h : Lowerable cs) (hc : c ∈ cs) :
    ∀ d ∈ lowered c, isUppercase d = false := by
  intro d hd
  unfold lowered at hd
  split at hd
  · next hupper => exact h c hc hupper d hd
  · next hother =>
    rw [List.mem_singleton.1 hd]
    exact Bool.eq_false_iff.2 hother

theorem mem_flatten_pieces {d : Char} (hd : d ∈ (pieces cs).flatten) :
    d = '_' ∨ ∃ c ∈ cs, d ∈ lowered c := by
  obtain ⟨text, htext, hmem⟩ := List.mem_flatten.1 hd
  obtain ⟨i, hi, rfl⟩ := List.mem_mapIdx.1 htext
  rcases List.mem_append.1 hmem with hseparator | hlowered
  · left
    split at hseparator
    · exact List.mem_singleton.1 hseparator
    · cases hseparator
  · exact .inr ⟨cs[i], List.getElem_mem hi, hlowered⟩

theorem toLower_of_mem_lowered {d : Char} (hd : d ∈ lowered c) : d.toLower = d := by
  unfold lowered at hd
  split at hd
  · unfold lowercase at hd
    split at hd
    · rw [List.mem_singleton.1 hd]
      exact Char.toLower_toLower_eq_toLower c
    · next hascii =>
      refine Char.toLower_eq_of_not_isUpper fun hupper => ?_
      have hcode := toNat_of_isUpper hupper
      split at hd
      · fin_cases hd <;> cases hupper
      · split at hd
        · next run image hrun =>
          -- the lowercase images lie behind the ASCII capitals
          have himage : 0x5F < image := image_of_mem_loweringRuns _ (List.mem_of_find?_eq_some hrun)
          rw [List.mem_singleton.1 hd, Char.toNat_ofNat] at hcode
          split at hcode <;> omega
        · rw [List.mem_singleton.1 hd] at hcode
          omega
  · next hother =>
    rw [List.mem_singleton.1 hd]
    exact Char.toLower_eq_of_not_isUpper fun hupper => hother (isUppercase_of_isUpper hupper)

theorem toLower_of_mem_snakeCase {s : String} {d : Char} (hd : d ∈ (snakeCase s).toList) :
    d.toLower = d := by
  rw [toList_snakeCase_eq_flatten, piecesFrom_none] at hd
  rcases mem_flatten_pieces hd with rfl | ⟨c, -, hmem⟩
  · rfl
  · exact toLower_of_mem_lowered hmem

theorem flatten_piecesFrom_of_not_isUppercase (before : Option Char)
    (h : ∀ c ∈ cs, isUppercase c = false) : (piecesFrom before cs).flatten = cs := by
  induction cs generalizing before with
  | nil => rfl
  | cons c rest ih =>
    obtain ⟨hc, hrest⟩ := List.forall_mem_cons.1 h
    rw [piecesFrom, List.flatten_cons, piece_of_not_isUppercase _ _ hc, ih _ hrest]
    rfl

theorem snakeCase_of_not_isUppercase {s : String} (h : ∀ c ∈ s.toList, isUppercase c = false) :
    snakeCase s = s := by
  rw [← String.toList_inj, toList_snakeCase_eq_flatten,
    flatten_piecesFrom_of_not_isUppercase none h]

theorem not_isUppercase_snakeCase {s : String} (h : Lowerable s.toList) :
    ∀ d ∈ (snakeCase s).toList, isUppercase d = false := by
  intro d hd
  rw [toList_snakeCase_eq_flatten, piecesFrom_none] at hd
  rcases mem_flatten_pieces hd with rfl | ⟨c, hc, hmem⟩
  · decide
  · exact h.not_isUppercase_lowered hc d hmem

/-- Without its underscores the text is that of the name with its capitals in lowercase. Position by
position it is what the name writes there, an underscore coming first just where a word is
separated. The underscores at either end of it, and those side by side, are those of the name. If
the capitals have lowercase forms, as those of ASCII do, none is left, and nothing is left to do. -/
theorem snakeCase_separates (s : String) :
    (snakeCase s).toList.filter (· ≠ '_') = (s.toList.flatMap lowered).filter (· ≠ '_') ∧
    (snakeCase s).toList = (pieces s.toList).flatten ∧
    ((snakeCase s).toList.head? = some '_' ↔ s.toList.head? = some '_') ∧
    ((snakeCase s).toList.getLast? = some '_' ↔ s.toList.getLast? = some '_') ∧
    (∀ k, DoubledAt (snakeCase s).toList k ↔
      ∃ i, DoubledAt s.toList i ∧ k = textStart s.toList i) ∧
    (Lowerable s.toList → (∀ d ∈ (snakeCase s).toList, isUppercase d = false) ∧
      snakeCase (snakeCase s) = snakeCase s) ∧
    ((∀ c ∈ s.toList, c.toNat < 0x80) → Lowerable s.toList) := by
  have hlast : EndsAlike (snakeCase s).toList s.toList.getLast? := by
    have hrun := endsAlike_snakeFrom endsAlike_nil s.toList
    rwa [Option.or_none, ← toList_snakeCase] at hrun
  refine ⟨?_, ?_, ?_, hlast, ?_, ?_, lowerable_of_ascii⟩
  · rw [toList_snakeCase_eq_flatten]
    exact filter_flatten_piecesFrom none s.toList
  · rw [toList_snakeCase_eq_flatten, piecesFrom_none]
  · rw [toList_snakeCase_eq_flatten]
    exact head?_flatten_piecesFrom (fun _ => rfl) s.toList
  · intro k
    rw [toList_snakeCase_eq_flatten, doubledAt_piecesFrom, piecesFrom_none]
    rfl
  · intro hlowerable
    have hcapitals := not_isUppercase_snakeCase hlowerable
    exact ⟨hcapitals, snakeCase_of_not_isUppercase hcapitals⟩

theorem snakeCase_separates_acronym :
    (∀ c ∈ "_HTTPServer2Go".toList, c.toNat < 0x80) ∧ Lowerable "_HTTPServer2Go".toList ∧
    snakeCase "_HTTPServer2Go" = "_http_server2_go" ∧
    snakeCase "_http_server2_go" = "_http_server2_go" := by
  have hascii : ∀ c ∈ "_HTTPServer2Go".toList, c.toNat < 0x80 := by simp
  obtain ⟨-, -, -, -, -, hsettled, hlowerable⟩ := snakeCase_separates "_HTTPServer2Go"
  have htext : snakeCase "_HTTPServer2Go" = "_http_server2_go" := by decide
  obtain ⟨-, hagain⟩ := hsettled (hlowerable hascii)
  rw [htext] at hagain
  exact ⟨hascii, hlowerable hascii, htext, hagain⟩

-- a capital without a lowercase form stays, and may be separated the next time
example : snakeCase "B𝐀" = "b𝐀" ∧ snakeCase "b𝐀" = "b_𝐀" := by
  decide +kernel

end DataMapper.Text
