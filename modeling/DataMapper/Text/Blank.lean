import DataMapper.Text.CodeRange

/-! # White space, trimming and blank text

White space is the Unicode property White_Space. A text is blank when it has
no other character.
-/
namespace DataMapper.Text

/-- The characters with the property White_Space. -/
def whiteSpaceRanges : List CodeRange :=
  [ ⟨0x9, 0xD⟩, ⟨0x20, 0x20⟩, ⟨0x85, 0x85⟩, ⟨0xA0, 0xA0⟩, ⟨0x1680, 0x1680⟩,
    ⟨0x2000, 0x200A⟩, ⟨0x2028, 0x2029⟩, ⟨0x202F, 0x202F⟩, ⟨0x205F, 0x205F⟩,
    ⟨0x3000, 0x3000⟩ ]

def isSpace (c : Char) : Bool :=
  whiteSpaceRanges.any (·.contains c)

theorem isSpace_of_isWhitespace {c : Char} (h : c.isWhitespace = true) : isSpace c = true := by
  simp only [Char.isWhitespace, Bool.or_eq_true, decide_eq_true_eq] at h
  rcases h with ((rfl | rfl) | rfl) | rfl <;> decide

/-- The characters without white space at either end. -/
def trim (cs : List Char) : List Char :=
  ((cs.dropWhile isSpace).reverse.dropWhile isSpace).reverse

def isBlank (s : String) : Bool :=
  s.toList.all isSpace

theorem isBlank_empty : isBlank "" = true := rfl

private theorem dropWhile_isSpace_eq_nil {cs : List Char} :
    cs.dropWhile isSpace = [] ↔ ∀ c ∈ cs, isSpace c = true := by
  induction cs with
  | nil => simp
  | cons c r ih =>
    rw [List.dropWhile_cons]
    by_cases h : isSpace c = true <;> simp [h, ih]

theorem trim_eq_nil_iff {cs : List Char} : trim cs = [] ↔ ∀ c ∈ cs, isSpace c = true := by
  rw [trim, List.reverse_eq_nil_iff, dropWhile_isSpace_eq_nil]
  refine ⟨fun h => dropWhile_isSpace_eq_nil.1 ?_, fun h c hc => ?_⟩
  · cases hd : cs.dropWhile isSpace with
    | nil => rfl
    | cons c r =>
      have h1 := h c (by simp [hd])
      have h2 := List.head_dropWhile_not isSpace (show cs.dropWhile isSpace ≠ [] by simp [hd])
      simp [hd, h1] at h2
  · exact h c ((List.dropWhile_sublist isSpace).subset (by simpa using hc))

theorem isBlank_iff_trim {s : String} : isBlank s = true ↔ trim s.toList = [] := by
  rw [trim_eq_nil_iff, isBlank, List.all_eq_true]

end DataMapper.Text
