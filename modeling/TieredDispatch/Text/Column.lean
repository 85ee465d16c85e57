/-!
# Column padding

* `padRight`: a text filled up with spaces on the right to a width in characters.
-/

namespace TieredDispatch.Text

/-- `s` filled up with spaces to `width` characters; a longer text is kept whole. -/
def padRight (width : Nat) (s : String) : String :=
  let cs := s.toList
  String.ofList (cs ++ List.replicate (width - cs.length) ' ')

end TieredDispatch.Text
