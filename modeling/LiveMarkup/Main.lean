import LiveMarkup.TaskBoard

/-!
# The command line

The program takes the directory of its documents as its argument.
-/

namespace LiveMarkup

/-- The files that a document imports. -/
def importedPaths (path source : String) : List String :=
  match Document.read .none source with
  | .ok document => document.imports.map (·.path (directoryOf path))
  | .error _ => []

/-- Read files and everything they import, as far as it is in the directory and
can be read. -/
partial def readFiles (files : Files) : List String → IO Files
  | [] => return files
  | path :: rest => do
    if (files.read path).isOk then readFiles files rest
    else
      match ← (IO.FS.readFile path).toBaseIO with
      | .error _ => readFiles files rest
      | .ok source =>
        let name := (path.drop (files.directory.length + 1)).toString
        let more := { files with texts := files.texts ++ [(name, source)] }
        if (more.read path).isOk then
          readFiles more (importedPaths path source ++ rest)
        else readFiles files rest

end LiveMarkup

def main (arguments : List String) : IO UInt32 := do
  let argument := arguments.headD "ui"
  let directory :=
    String.ofList (LiveMarkup.Text.trimPath argument.toList.reverse).reverse
  let start := LiveMarkup.Text.joinPath directory "main.guml"
  let files ← LiveMarkup.readFiles ⟨directory, []⟩ [start]
  let outcome := LiveMarkup.TaskBoard.run files
  IO.print outcome.output
  IO.eprint outcome.errorOutput
  return UInt32.ofNat outcome.code
