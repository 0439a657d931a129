/-!
# Paths

A path is a text of names with slashes between them. `Path.clean` is the shortest path that
means the same wherever no link is in the way: a single point is dropped, and two points take
away the name before them.
-/

namespace AbilityHooks.Path

/-- The texts between the slashes of a path. -/
def segmentsOf : List Char → List (List Char)
  | [] => [[]]
  | c :: rest =>
    if c == '/' then [] :: segmentsOf rest
    else
      match segmentsOf rest with
      | [] => [[c]]
      | segment :: segments => (c :: segment) :: segments

/-- The segments of a path, the empty ones too. -/
def segments (path : String) : List String := (segmentsOf path.toList).map String.ofList

/-- Whether a path begins at the root. -/
def isAbsolute (path : String) : Bool := path.toList.head? == some '/'

/-- The segments that are neither empty nor a single point. -/
def names (path : String) : List String :=
  (segments path).filter fun segment => segment != "" && segment != "."

/-- Put a name on a stack of names, the last one on top. At the root two points change
nothing. -/
def climb (absolute : Bool) (stack : List String) (name : String) : List String :=
  if name != ".." then name :: stack
  else
    match stack with
    | [] => if absolute then [] else [".."]
    | top :: below => if top == ".." then ".." :: top :: below else below

/-- The names of the shortest path with the same meaning. -/
def cleanNames (path : String) : List String :=
  ((names path).foldl (climb (isAbsolute path)) []).reverse

/-- The path of some names. -/
def ofNames (absolute : Bool) (names : List String) : String :=
  (if absolute then "/" else "") ++ String.intercalate "/" names

/-- The shortest path with the same meaning. A path of nothing is a point. -/
def clean (path : String) : String :=
  if cleanNames path == [] && !isAbsolute path then "."
  else ofNames (isAbsolute path) (cleanNames path)

/-- The path of what holds the last name of a path. -/
def parent (path : String) : String :=
  ofNames (isAbsolute path) (names path).dropLast

/-- The last name of a path, unless it is two points. -/
def fileName? (path : String) : Option String :=
  (names path).getLast?.filter (· != "..")

/-- The text after the last point of a name. A name with no other point than its first
character has none. -/
def extensionOf? (name : String) : Option String :=
  let chars := name.toList
  let after := chars.reverse.takeWhile (· != '.')
  if after.length + 1 < chars.length then some (String.ofList after.reverse) else none

/-- The text after the last point of the last name of a path. -/
def extension? (path : String) : Option String := (fileName? path).bind extensionOf?

end AbilityHooks.Path
