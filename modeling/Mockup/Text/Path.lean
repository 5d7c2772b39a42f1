import Mockup.Text.Lines

/-!
# Paths

A path is a row of names with slashes between them.  One point in place of a name stays where it is,
and two points lead back.

* `Path.steps`: the names of a path, without what stays in place at its end;
* `Path.lastName?`, `Path.stem?`: the name that a path ends with, and that name without its ending;
* `Path.withEnding`: the path with one more ending.
-/

namespace Mockup.Path

/-- The name, or the lack of one, stays where it is. -/
def staysPut (name : List Char) : Bool :=
  name.isEmpty || name == ['.']

/-- The names of a path in order, without those at its end that stay where they are. -/
def steps (path : String) : List (List Char) :=
  ((Text.pieces '/' path.toList).reverse.dropWhile staysPut).reverse

/-- The name that a path ends with, unless it leads back or nowhere. -/
def lastName? (path : String) : Option (List Char) :=
  (steps path).getLast?.filter (· != ['.', '.'])

/-- The last name of a path without its last ending; a point at the start of a name begins no
ending. -/
def stem? (path : String) : Option String :=
  (lastName? path).map fun name =>
    let ending := name.reverse.takeWhile (· ≠ '.')
    let stem := name.take (name.length - ending.length - 1)
    String.ofList (if stem.isEmpty then name else stem)

/-- The path with one more ending after its last name, if it ends with a name. -/
def withEnding (ending path : String) : String :=
  if (lastName? path).isSome then String.ofList (Text.joinWith '/' (steps path)) ++ ending
  else path

end Mockup.Path
