/-! Cutting texts at a separator. -/

namespace SiteSettings.Text

/-- The pieces between separators; there is always one more piece than separators. -/
def splitOn (separator : Char) : List Char → List (List Char)
  | [] => [[]]
  | c :: rest =>
    if c = separator then [] :: splitOn separator rest
    else
      match splitOn separator rest with
      | [] => [[c]]
      | piece :: pieces => (c :: piece) :: pieces

/-- The parts before and after the last separator. -/
def splitLast? (separator : Char) : List Char → Option (List Char × List Char)
  | [] => none
  | c :: rest =>
    match splitLast? separator rest with
    | some (before, after) => some (c :: before, after)
    | none => if c = separator then some ([], rest) else none

/-- The pieces with the separator between them. -/
def join (separator : Char) : List (List Char) → List Char
  | [] => []
  | [piece] => piece
  | piece :: rest => piece ++ separator :: join separator rest

theorem splitOn_ne_nil (separator : Char) (cs : List Char) : splitOn separator cs ≠ [] := by
  cases cs with
  | nil => simp [splitOn]
  | cons c rest =>
    simp only [splitOn]
    split
    · simp
    · split <;> simp

theorem join_splitOn (separator : Char) (cs : List Char) :
    join separator (splitOn separator cs) = cs := by
  induction cs with
  | nil => rfl
  | cons c rest ih =>
    cases pieces : splitOn separator rest with
    | nil => exact absurd pieces (splitOn_ne_nil separator rest)
    | cons piece more =>
      rw [pieces] at ih
      by_cases same : c = separator
      · simp [splitOn, same, pieces, join, ih]
      · cases more with
        | nil => simpa [splitOn, same, pieces, join] using ih
        | cons next more => simpa [splitOn, same, pieces, join] using ih

end SiteSettings.Text
