/-! Text cut at separators. -/
namespace ControlPlane.Text

/-- The pieces between separators, of which there is always one more than separators. -/
def pieces (isSeparator : Char → Bool) : List Char → List (List Char)
  | [] => [[]]
  | c :: cs =>
    if isSeparator c then [] :: pieces isSeparator cs
    else match pieces isSeparator cs with
      | [] => [[c]]
      | piece :: rest => (c :: piece) :: rest

end ControlPlane.Text
