/-!
# Slash-separated paths

A path names a file by its last part.  Empty parts and inner single dots do not
count, and a path that ends in two dots names no file.
-/

namespace LiveMarkup.Text

/-- The pieces of a text between separators, at least one. -/
def splitOnChar (separator : Char) : List Char → List (List Char)
  | [] => [[]]
  | char :: rest =>
    if char == separator then [] :: splitOnChar separator rest
    else
      match splitOnChar separator rest with
      | [] => [[char]]
      | piece :: pieces => (char :: piece) :: pieces

/-- The parts of a path that count, in order. -/
def pathParts (path : List Char) : List (List Char) :=
  (splitOnChar '/' path).filter fun part => !part.isEmpty && part != ['.']

/-- The name of the file a path leads to. -/
def fileName? (path : List Char) : Option (List Char) :=
  match (pathParts path).getLast? with
  | some part => if part == ['.', '.'] then none else some part
  | none => none

/-- A file name without its last extension.  A dot at the beginning begins no
extension. -/
def withoutExtension (name : List Char) : List Char :=
  let kept := (name.reverse.dropWhile (· != '.')).drop 1
  if kept.isEmpty then name else kept.reverse

/-- The file name of a path without its extension, empty if the path names no
file. -/
def fileStem (path : String) : String :=
  match fileName? path.toList with
  | some name => String.ofList (withoutExtension name)
  | none => ""

/-- Drop separators and single dots from the end of a path given in reverse, but
not a separator that is the whole path. -/
def trimPath : List Char → List Char
  | ['/'] => ['/']
  | '/' :: rest => trimPath rest
  | '.' :: '/' :: rest => trimPath ('/' :: rest)
  | path => path
termination_by path => path.length

/-- The directory that a path leads to the file in, if the path has parts. -/
def parentPath? (path : String) : Option String :=
  let trimmed := trimPath path.toList.reverse
  if trimmed.isEmpty || trimmed == ['/'] then none
  else some (String.ofList (trimPath (trimmed.dropWhile (· != '/'))).reverse)

/-- A path from a directory.  A path that begins with a separator stays as it is. -/
def joinPath (directory path : String) : String :=
  let base := directory.toList
  let rest := path.toList
  if rest.head? == some '/' || base.isEmpty then path
  else if base.getLast? == some '/' then String.ofList (base ++ rest)
  else String.ofList (base ++ '/' :: rest)

end LiveMarkup.Text
