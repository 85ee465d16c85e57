import TieredDispatch.Text.Search

/-!
# Model paths

* `Path.stem?`: the name of the file that a path names, without its extension.
-/

namespace TieredDispatch.Path

/-- The parts of a path between slashes, without empty parts and those that stay in place. -/
def segments (path : String) : List String :=
  (Text.pieces '/' path).filter fun s => s ≠ "" ∧ s ≠ "."

/-- The last part of a path, unless it leads to the parent directory. -/
def fileName? (path : String) : Option String :=
  match (segments path).getLast? with
  | some s => if s = ".." then none else some s
  | none => none

/-- A file name without what follows its last dot; a dot at the start does not count. -/
def withoutExtension (name : String) : String :=
  match Text.cut '.' (String.ofList name.toList.reverse) with
  | none => name
  | some (_, before) => if before.isEmpty then name else String.ofList before.toList.reverse

/-- The name of the file that a path names, without its extension. -/
def stem? (path : String) : Option String :=
  (fileName? path).map withoutExtension

end TieredDispatch.Path
