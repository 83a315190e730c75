import LiveMarkup.UiError
import LiveMarkup.World.ValueText

/-!
# Why a session of the task board ends early

A failure has a message and a chain of causes.  It is written with the causes
below the message, each on lines of its own; several causes are numbered.
-/

namespace LiveMarkup.TaskBoard

/-- Why a session ends before its end, or does not end well. -/
inductive Failure where
  /-- The document cannot be loaded. -/
  | loading (path : String) (cause : UiError)
  /-- The document lacks an alias that the session uses. -/
  | missingAlias (name : String)
  /-- Simulated input fails. -/
  | input (error : UiError)
  /-- Live properties or loops have failed on the way. -/
  | bindings (count : Nat)
deriving DecidableEq, Repr

namespace Failure

def message : Failure → String
  | .loading path _ => "loading " ++ path
  | .missingAlias name => "main.guml declares no @" ++ name
  | .input error => error.message
  | .bindings count => Nat.repr count ++ " binding error(s) during the session"

/-- The error below an error: an error of a document's text stands for itself. -/
def causesOf : UiError → List String
  | .parse error => [error.message]
  | _ => []

/-- The chain of causes, nearest first. -/
def causes : Failure → List String
  | .loading _ cause => cause.message :: causesOf cause
  | .input error => causesOf error
  | _ => []

/-- A text with something before its first line and something else before each
other line. -/
def indented (first others text : String) : String :=
  first ++ joined ("\n" ++ others)
    ((Text.splitOnChar '\n' text.toList).map String.ofList)

/-- Causes numbered from a number on. -/
def numbered : Nat → List String → String
  | _, [] => ""
  | number, cause :: rest =>
    let digits := Nat.repr number
    let pad := String.ofList (List.replicate (5 - digits.length) ' ')
    indented (pad ++ digits ++ ": ") "       " cause ++ "\n" ++
      numbered (number + 1) rest

/-- The failure as it is written. -/
def report (failure : Failure) : String :=
  "Error: " ++ failure.message ++ "\n" ++
    match failure.causes with
    | [] => ""
    | [cause] => "\nCaused by:\n" ++ indented "    " "    " cause ++ "\n"
    | causes => "\nCaused by:\n" ++ numbered 0 causes

end Failure

end LiveMarkup.TaskBoard
