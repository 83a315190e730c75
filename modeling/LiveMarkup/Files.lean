import LiveMarkup.Text.PathName

/-!
# Text files

A directory with text files in it and below it.  A path is followed part by
part: two dots lead back, and everything but the last part must be a directory.
-/

namespace LiveMarkup

/-- The text files in and below a directory, by their paths from there. -/
structure Files where
  directory : String
  texts : List (String × String)
deriving DecidableEq, Repr, Inhabited

namespace Files

def empty : Files := ⟨"", []⟩

def notFound : String := "No such file or directory (os error 2)"

def notDirectory : String := "Not a directory (os error 20)"

def isDirectory : String := "Is a directory (os error 21)"

/-- The files by the parts of their paths. -/
def entries (files : Files) : List (List (List Char) × String) :=
  files.texts.map fun entry => (Text.pathParts entry.1.toList, entry.2)

/-- Follow the parts of a path from a place below the directory, given by the
parts that lead to it in reverse. -/
def follow (entries : List (List (List Char) × String)) :
    List (List Char) → List (List Char) → Except String String
  | [], here =>
    match entries.lookup here.reverse with
    | some text => .ok text
    | none => .error isDirectory
  | part :: rest, here =>
    if (entries.lookup here.reverse).isSome then .error notDirectory
    else if part.isEmpty || part == ['.'] then follow entries rest here
    else if part == ['.', '.'] then
      match here with
      | [] => .error notFound
      | _ :: above => follow entries rest above
    else
      let there := part :: here
      if entries.any fun entry => there.reverse.isPrefixOf entry.1 then
        follow entries rest there
      else .error notFound

/-- The text of the file at a path, or the reason why it cannot be read. -/
def read (files : Files) (path : String) : Except String String :=
  let base := files.directory.toList
  let chars := path.toList
  if chars.contains '\x00' then .error "file name contained an unexpected NUL byte"
  else if base.isPrefixOf chars then
    match chars.drop base.length with
    | [] => .error isDirectory
    | '/' :: rest => follow files.entries (Text.splitOnChar '/' rest) []
    | _ => .error notFound
  else .error notFound

end Files

end LiveMarkup
