/-!
# Cutting a text at a separator

A text is cut at the first occurrence of a separator, or into all the pieces between its
occurrences.
-/

namespace RealmDesk.Text

/-- What stands before the first separator, and what stands after it if there is one. -/
def cut (separator : Char) : List Char → List Char × Option (List Char)
  | [] => ([], none)
  | first :: rest =>
      if first = separator then
        ([], some rest)
      else
        let (before, after) := cut separator rest
        (first :: before, after)

/-- The pieces between the separators, one more than there are separators. -/
def pieces (separator : Char) : List Char → List (List Char)
  | [] => [[]]
  | first :: rest =>
      if first = separator then
        [] :: pieces separator rest
      else
        match pieces separator rest with
        | [] => [[first]]
        | piece :: others => (first :: piece) :: others

theorem not_mem_cut_fst (separator : Char) (characters : List Char) :
    separator ∉ (cut separator characters).1 := by
  induction characters with
  | nil => simp [cut]
  | cons first rest induction =>
      by_cases same : first = separator
      · simp [cut, same]
      · simp only [cut, same, if_false, List.mem_cons, not_or]
        exact ⟨fun equal => same equal.symm, induction⟩

theorem cut_of_not_mem {separator : Char} {characters : List Char}
    (absent : separator ∉ characters) : cut separator characters = (characters, none) := by
  induction characters with
  | nil => rfl
  | cons first rest induction =>
      simp only [List.mem_cons, not_or] at absent
      simp [cut, Ne.symm absent.1, induction absent.2]

/-- A text is cut where its first part ends. -/
theorem cut_append {separator : Char} {before : List Char} (absent : separator ∉ before)
    (after : List Char) :
    cut separator (before ++ separator :: after) = (before, some after) := by
  induction before with
  | nil => simp [cut]
  | cons first rest induction =>
      simp only [List.mem_cons, not_or] at absent
      simp [cut, Ne.symm absent.1, induction absent.2]

theorem cut_fst_append (separator : Char) (characters : List Char) :
    (cut separator characters).1 ++ (cut separator characters).2.elim [] (separator :: ·) =
      characters := by
  induction characters with
  | nil => rfl
  | cons first rest induction =>
      by_cases same : first = separator
      · simp [cut, same]
      · simpa [cut, same] using induction

theorem cut_fst_eq_takeWhile (separator : Char) (characters : List Char) :
    (cut separator characters).1 = characters.takeWhile (· ≠ separator) := by
  induction characters with
  | nil => rfl
  | cons first rest induction =>
      by_cases same : first = separator
      · simp [cut, same]
      · simpa [cut, same] using induction

theorem cut_snd_getD_eq_dropWhile (separator : Char) (characters : List Char) :
    (cut separator characters).2.getD [] = (characters.dropWhile (· ≠ separator)).drop 1 := by
  induction characters with
  | nil => rfl
  | cons first rest induction =>
      by_cases same : first = separator
      · simp [cut, same]
      · simpa [cut, same] using induction

theorem pieces_eq_splitOn (separator : Char) (characters : List Char) :
    pieces separator characters = characters.splitOn separator := by
  induction characters with
  | nil => rw [pieces, List.splitOn_nil]
  | cons first rest induction =>
      have step : (first :: rest).splitOn separator =
          if first == separator then [] :: rest.splitOn separator
          else (rest.splitOn separator).modifyHead (first :: ·) :=
        List.splitOnP_cons_eq_if_modifyHead first rest
      rw [pieces, induction, step]
      by_cases same : first = separator
      · simp [same]
      · rw [if_neg same, if_neg (by simpa using same)]
        cases split : rest.splitOn separator with
        | nil => exact absurd split (List.splitOn_ne_nil _ _)
        | cons => rfl

end RealmDesk.Text
