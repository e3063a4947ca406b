/-!
Cutting lists at separators.
-/

namespace Groundcover.Text

/-- The pieces of a list between separators: one more than there are separators. -/
def pieces {α : Type} (isSeparator : α → Bool) : List α → List (List α)
  | [] => [[]]
  | a :: rest =>
    if isSeparator a then [] :: pieces isSeparator rest
    else
      match pieces isSeparator rest with
      | piece :: more => (a :: piece) :: more
      | [] => [[a]]

end Groundcover.Text
