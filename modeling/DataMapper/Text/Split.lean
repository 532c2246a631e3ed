/-! # Splitting text

A text falls into the parts between the occurrences of a separator, one part
more than there are separators.
-/
namespace DataMapper.Text

def splitChars (separator : Char) : List Char → List (List Char)
  | [] => [[]]
  | c :: r =>
    if c = separator then [] :: splitChars separator r
    else match splitChars separator r with
      | [] => [[c]]
      | part :: parts => (c :: part) :: parts

def splitAt (separator : Char) (s : String) : List String :=
  (splitChars separator s.toList).map String.ofList

theorem length_splitChars (separator : Char) (cs : List Char) :
    (splitChars separator cs).length = cs.count separator + 1 := by
  induction cs with
  | nil => rfl
  | cons c r ih =>
    unfold splitChars
    by_cases h : c = separator
    · simp [h, ih]
    · cases hs : splitChars separator r with
      | nil => simp [hs] at ih
      | cons part parts =>
        rw [hs] at ih
        simp only [List.length_cons] at ih
        simp [h, ih]

theorem splitChars_of_not_mem {separator : Char} {cs : List Char} (h : separator ∉ cs) :
    splitChars separator cs = [cs] := by
  induction cs with
  | nil => rfl
  | cons c r ih =>
    have hc : c ≠ separator := fun hc => h (hc ▸ List.mem_cons_self)
    have hr : separator ∉ r := fun hr => h (List.mem_cons_of_mem c hr)
    simp [splitChars, hc, ih hr]

theorem splitChars_append (separator : Char) (cs rest : List Char) :
    splitChars separator (cs ++ separator :: rest)
      = splitChars separator cs ++ splitChars separator rest := by
  induction cs with
  | nil => simp [splitChars]
  | cons c r ih =>
    rw [List.cons_append, splitChars, ih, splitChars]
    by_cases hc : c = separator
    · simp [hc]
    · cases hr : splitChars separator r with
      | nil =>
        have hlength := length_splitChars separator r
        simp [hr] at hlength
      | cons part parts => simp [hc]

theorem splitChars_append_cons {separator : Char} {cs : List Char} (h : separator ∉ cs)
    (rest : List Char) :
    splitChars separator (cs ++ separator :: rest) = cs :: splitChars separator rest := by
  rw [splitChars_append, splitChars_of_not_mem h, List.singleton_append]

/-- Splitting undoes joining when no part holds the separator. -/
theorem splitChars_intercalate {separator : Char} {parts : List (List Char)} (hne : parts ≠ [])
    (h : ∀ part ∈ parts, separator ∉ part) :
    splitChars separator ([separator].intercalate parts) = parts := by
  induction parts with
  | nil => exact absurd rfl hne
  | cons part parts ih =>
    obtain ⟨hpart, hrest⟩ := List.forall_mem_cons.1 h
    cases parts with
    | nil =>
      rw [List.intercalate_singleton]
      exact splitChars_of_not_mem hpart
    | cons part' parts =>
      have htail := ih (List.cons_ne_nil part' parts) hrest
      rw [List.intercalate_cons_cons, List.append_assoc, List.singleton_append,
        splitChars_append_cons hpart, htail]

end DataMapper.Text
