/-!
# Parts of a text

Prefixes, infixes and separators of texts, all on their characters.

* `hasPrefix`, `contains`: whether a text starts with, or holds, another.
* `cut`: the two sides of the first separator.
* `pieces`: all parts between separators.
* `upperAscii`: the letters `a` to `z` in upper case, everything else kept.
-/

namespace TieredDispatch.Text

/-- Whether `s` starts with `start`; the empty text starts every text. -/
def hasPrefix (start s : String) : Bool :=
  start.toList.isPrefixOf s.toList

/-- Whether `part` stands somewhere in the characters. -/
def containsChars (part : List Char) : List Char → Bool
  | [] => part.isEmpty
  | c :: cs => part.isPrefixOf (c :: cs) || containsChars part cs

/-- Whether `part` stands somewhere in `s`; the empty text stands in every text. -/
def contains (part s : String) : Bool :=
  containsChars part.toList s.toList

/-- The characters before and after the first `sep`. -/
def cutChars (sep : Char) : List Char → Option (List Char × List Char)
  | [] => none
  | c :: cs =>
    if c = sep then some ([], cs)
    else (cutChars sep cs).map fun (before, after) => (c :: before, after)

/-- The texts before and after the first `sep`; `none` if there is no `sep`. -/
def cut (sep : Char) (s : String) : Option (String × String) :=
  (cutChars sep s.toList).map fun (before, after) => (String.ofList before, String.ofList after)

/-- The characters before the first `sep`, or all of them. -/
def beforeFirst (sep : Char) (s : String) : String :=
  String.ofList (s.toList.takeWhile (· != sep))

/-- All parts of a text between occurrences of `sep`; a text without `sep` is one part. -/
def pieces (sep : Char) (s : String) : List String :=
  (s.toList.splitOn sep).map String.ofList

/-- The letters `a` to `z` in upper case, everything else kept. -/
def upperAscii (s : String) : String :=
  String.ofList (s.toList.map Char.toUpper)

end TieredDispatch.Text
