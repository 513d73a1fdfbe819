/-!
# Pieces between separators

A list with separators in it has one piece more than separators; any of them may be empty.
-/

namespace ComputeDirectory.Text

variable {α : Type}

/-- The pieces between the separators of a list. -/
def pieces (isSeparator : α → Bool) : List α → List (List α)
  | [] => [[]]
  | a :: rest =>
    if isSeparator a then [] :: pieces isSeparator rest
    else
      match pieces isSeparator rest with
      | [] => [[a]]
      | piece :: others => (a :: piece) :: others

end ComputeDirectory.Text
