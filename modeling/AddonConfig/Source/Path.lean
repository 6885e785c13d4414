/-!
# Paths

The text of a path is read as segments between slashes. Empty segments and lone dots stand for nothing,
except a dot at the start of a relative path. `Path.shown` is how a file is named in reports.
-/

namespace AddonConfig

/-- A part of a path. -/
inductive PathPart where
  | root
  | current
  | parent
  | name (text : List Char)
  deriving DecidableEq, Repr

namespace Path

/-- The segments between slashes. -/
def segments : List Char → List (List Char)
  | [] => [[]]
  | c :: rest =>
      if c = '/' then [] :: segments rest
      else
        match segments rest with
        | first :: others => (c :: first) :: others
        | [] => [[c]]

/-- The text of segments with slashes between them. -/
def ofSegments (parts : List (List Char)) : List Char := List.intercalate ['/'] parts

/-- A segment that stands for nothing. -/
def isIdle (segment : List Char) : Bool := segment.isEmpty || segment = ['.']

def partOf (segment : List Char) : PathPart := if segment = ['.', '.'] then .parent else .name segment

def isAbsolute (path : List Char) : Bool := path.head? = some '/'

def parts (path : List Char) : List PathPart :=
  let segments := segments path
  let named := (segments.filter (!isIdle ·)).map partOf
  if isAbsolute path then .root :: named
  else if segments.head? = some ['.'] then .current :: named
  else named

/-- The text after the last dot of a file name, if there is a dot that is not its first character. -/
def extensionOf? (name : List Char) : Option (List Char) :=
  let after := (name.reverse.takeWhile (· ≠ '.')).reverse
  if after.length + 1 < name.length then some after else none

/-- The extension of the last part of a path. -/
def extension? (path : String) : Option String :=
  match (parts path.toList).getLast? with
  | some (.name name) => (extensionOf? name).map String.ofList
  | _ => none

/-- The segments that are left after those of a directory, empty ones and lone dots being passed over. -/
def dropNames : List (List Char) → List (List Char) → Option (List (List Char))
  | [], segments => some segments
  | name :: names, segments =>
      match segments.dropWhile isIdle with
      | segment :: rest => if segment = name then dropNames names rest else none
      | [] => none

/-- The segments without those at either end that stand for nothing. -/
def trim (segments : List (List Char)) : List (List Char) :=
  ((segments.dropWhile isIdle).reverse.dropWhile isIdle).reverse

/-- The path from an absolute directory to a path below it. -/
def below? (directory path : List Char) : Option (List Char) :=
  if isAbsolute path then
    (dropNames ((segments directory).filter (!isIdle ·)) (segments path)).map (ofSegments ∘ trim)
  else none

/-- The path as it is shown: relative to the working directory if it lies below that. -/
def shown (directory path : String) : String :=
  String.ofList ((below? directory.toList path.toList).getD path.toList)

/-- The name of a file in a report, a space before it keeping it apart from what comes before. -/
def reported (directory path : String) : String := " " ++ shown directory path

end Path

end AddonConfig
