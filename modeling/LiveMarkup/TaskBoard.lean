import LiveMarkup.Host
import LiveMarkup.TaskBoard.Failure

/-!
# The task board

A program that shows a list of tasks from a document `main.guml` and goes
through a scripted session with it.  It writes the widget tree before and after.
-/

namespace LiveMarkup.TaskBoard

/-- What the controller of the main document keeps besides its properties. -/
structure Draft where
  /-- The task being typed. -/
  text : String
  /-- The widget it is typed into. -/
  field : Option WidgetId
deriving DecidableEq, Repr

/-! ## The objects of the program -/

def mainState : BagId := ⟨0⟩

def statusState : BagId := ⟨1⟩

def tasks : ListId := ⟨0⟩

def hostRoot : WidgetId := ⟨0⟩

/-- The controller of the main document. -/
def main : Controller :=
  ⟨mainState, true, ["on_add", "on_clear", "on_draft_changed"]⟩

/-- The controller of the status bar. -/
def status : Controller := ⟨statusState, false, []⟩

/-- The world in which the documents of a directory are loaded. -/
def initialWorld (files : Files) : World Draft :=
  let mainBag : Bag :=
    ⟨"MainController", [("count", .int 0), ("tasks", .list tasks)], .none⟩
  let statusBag : Bag :=
    ⟨"StatusBarController", [("message", .text "ready")], .none⟩
  { bags := ⟨#[mainBag, statusBag]⟩
    lists := ⟨#[⟨[], .none⟩]⟩
    widgets := ⟨#[.ofClass Builtin.control]⟩
    globals := [("$app_name", .text "GUML Studio")]
    controllers := [("MainController", main), ("StatusBarController", status)]
    files
    held := [.bag mainState, .bag statusState, .list tasks, .widget hostRoot]
    host := ⟨"", none⟩ }

/-! ## The handlers -/

/-- Bring the number of tasks up to date. -/
def countTasks (deliver : Deliver Draft) : Action Draft Unit := do
  let count := ((← get).list tasks).items.length
  mainState.set deliver "count" (.int count)

/-- A text without the blanks around it. -/
def trimmed (text : String) : String :=
  let front := text.toList.dropWhile (·.isWhitespace)
  String.ofList (front.reverse.dropWhile (·.isWhitespace)).reverse

/-- Add the task being typed and begin a new one.  An empty task is not added. -/
def addTask (deliver : Deliver Draft) : Action Draft Unit := do
  let text := trimmed (← get).host.text
  if text.isEmpty then pure ()
  else
    tasks.push deliver (.text text)
    modify fun world => { world with host := { world.host with text := "" } }
    let world ← get
    match world.host.field.bind world.existingWidget? with
    | none => pure ()
    | some field =>
      let _ ← (attempting [.widget field]
        (field.write deliver "text" (.text ""))).run
      pure ()
    countTasks deliver

/-- Run a handler of the main document. -/
def handle (deliver : Deliver Draft) (name : String) (arguments : List Value) :
    Action Draft Unit := do
  match name, arguments with
  | "on_add", _ => addTask deliver
  | "on_clear", _ =>
    tasks.clear deliver
    countTasks deliver
  | "on_draft_changed", .text text :: _ =>
    modify fun world => { world with host := { world.host with text } }
  | "on_draft_changed", _ =>
    modify fun world => { world with host := { world.host with text := "" } }
  | _, _ => pure ()

/-- The host of the documents: it runs the handlers and finds the widget that
tasks are typed into. -/
def host : Host Draft where
  respond deliver
    | .handler _ name arguments => handle deliver name arguments
    | .created _ document => do
      match (← get).aliasWidget? document "draft" with
      | some field =>
        modify fun world =>
          { world with host := { world.host with field := some field } }
      | none => pure ()
    | _ => pure ()

def deliver : Deliver Draft := host.deliver maximalNesting

/-! ## The session -/

/-- What the program leaves: what it has written, and the failure it ended with,
if any. -/
structure Outcome where
  output : String
  failure : Option Failure
deriving DecidableEq, Repr

/-- What the program writes about a failure. -/
def Outcome.errorOutput (outcome : Outcome) : String :=
  (outcome.failure.map Failure.report).getD ""

/-- The exit code: zero for success. -/
def Outcome.code (outcome : Outcome) : Nat :=
  if outcome.failure.isSome then 1 else 0

/-- A widget tree under a title. -/
def titled (world : World Draft) (title : String) : String :=
  "── " ++ title ++ " ──\n" ++ world.outline hostRoot ++ "\n"

/-- Type tasks and add them. -/
def typeTasks (draft add : WidgetId) : List String → Attempt Draft Unit
  | [] => return ()
  | task :: rest => do
    let _ ← draft.input deliver task
    let _ ← add.press deliver
    typeTasks draft add rest

/-- What the session does with the board once three tasks are typed. -/
def arrangeTasks (document : HandleId) : Action Draft Unit := do
  let _ ← tasks.remove deliver 1
  let _ ← tasks.insert deliver 0 (.text "triage")
  countTasks deliver
  let count := ((← get).list tasks).items.length
  statusState.set deliver "message"
    (.text (Nat.repr count ++ " task(s) on the board"))
  document.update deliver (1 / 60)

/-- Go through the session with a loaded document. -/
def runSession (document : HandleId) (draft add : WidgetId) (output : String) :
    Action Draft Outcome := do
  let tasks := ["write the tokenizer", "bind widgets", "ship it"]
  match ← (typeTasks draft add tasks).run with
  | .error error => return ⟨output, some (.input error)⟩
  | .ok () =>
    arrangeTasks document
    let world ← get
    let output := output ++ titled world "after scripted session"
    document.dispose deliver
    return ⟨output, if world.errors.isEmpty then none
      else some (.bindings world.errors.length)⟩

/-- Load the documents of a directory and go through the session. -/
def runIn (directory : String) : Action Draft Outcome := do
  let path := Text.joinPath directory "main.guml"
  match ← (load deliver hostRoot path).run with
  | .error error => return ⟨"", some (.loading path error)⟩
  | .ok document =>
    keeping [.handle document] do
      let world ← get
      let output := titled world "initial tree"
      match world.aliasWidget? document "draft" with
      | none => return ⟨output, some (.missingAlias "draft")⟩
      | some draft =>
        match world.aliasWidget? document "add" with
        | none => return ⟨output, some (.missingAlias "add")⟩
        | some add =>
          keeping [.widget draft, .widget add]
            (runSession document draft add output)

/-- Run the program on the documents of a directory. -/
def run (files : Files) : Outcome :=
  (runIn files.directory (initialWorld files)).1

end LiveMarkup.TaskBoard
