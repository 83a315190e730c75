import LiveMarkup.Expr.Operators
import LiveMarkup.Widget.Operations
import LiveMarkup.Expr.Parser

/-!
# Evaluating expressions

An expression is evaluated in the scope of the loops around it, for the
controller of its document. A live property also listens to every property of an
object that its evaluation reads.
-/

namespace LiveMarkup

variable {σ : Type}

/-- Where an expression is evaluated. -/
structure EvaluationContext where
  handle : Option HandleId
  scope : Scope
  /-- The live property that listens to what is read. -/
  binding : Option BindingId

/-- The name of a global with its dollar sign. -/
def globalName (name : String) : String :=
  match name.toList with
  | '$' :: _ => name
  | _ => "$" ++ name

namespace World

/-- A global, with or without its dollar sign. -/
def global? (world : World σ) (name : String) : Option Value :=
  world.globals.lookup (globalName name)

/-- Set a global. -/
def setGlobal (world : World σ) (name : String) (value : Value) : World σ :=
  { world with globals := putEntry (globalName name) value world.globals }

/-- Remove a global. -/
def removeGlobal (world : World σ) (name : String) : World σ :=
  { world with globals := world.globals.filter (·.1 != globalName name) }

/-- The widget that an alias of a document stands for. -/
def aliasWidget? (world : World σ) (handle : HandleId) (aliasName : String) :
    Option WidgetId :=
  (world.handle handle).nodes.lookup aliasName

end World

namespace EvaluationContext

/-- Listen to a property of an object, once in each evaluation. -/
def watch (context : EvaluationContext) (object : ObjectId) (name : String) :
    Action σ Unit := do
  match context.binding with
  | none => pure ()
  | some id =>
    match (← get).binding? id with
    | none => pure ()
    | some binding =>
      if binding.watched.contains (object, name) then pure ()
      else
        let number ← object.subscribe (.binding id binding.generation name)
        modify fun world => world.updateBinding id fun old =>
          { old with
            watched := (object, name) :: old.watched
            everWatched := (object, name) :: old.everWatched.erase (object, name)
            subscriptions := old.subscriptions ++ [.object object number] }

/-- Read a property of a value. -/
def readProperty (context : EvaluationContext) (base : Value) (name : String) :
    Attempt σ Value := do
  let missing : Attempt σ Value := do
    throw (.propertyNotFound ((← getThe (World σ)).typeName base) name)
  match base with
  | .object object =>
    (context.watch object name : Action σ Unit)
    match ← (object.read name : Action σ (Option Value)) with
    | some value => return value
    | none => missing
  | .map entries =>
    match entries.lookup name with
    | some value => return value
    | none => missing
  | .vec2 vector =>
    match name with
    | "x" => return .ofFloat32 vector.x
    | "y" => return .ofFloat32 vector.y
    | _ => missing
  | .color color =>
    match name with
    | "r" => return .ofFloat32 color.red
    | "g" => return .ofFloat32 color.green
    | "b" => return .ofFloat32 color.blue
    | "a" => return .ofFloat32 color.alpha
    | _ => missing
  | .list list =>
    match name with
    | "count" => return .int ((← getThe (World σ)).list list).items.length
    | _ => missing
  | _ => missing

/-- What a reference names. -/
def resolve (context : EvaluationContext) : Reference → Attempt σ Value
  | .global name _ => do
    match context.handle with
    | some handle => if name == "$controller" then return .object (.handle handle)
    | none => pure ()
    match (← getThe (World σ)).global? name with
    | some value => return value
    | none => throw (.referenceNotFound .global name)
  | .aliased name _ => do
    let world ← getThe (World σ)
    match context.handle.bind (world.aliasWidget? · name) with
    | some widget => return .object (.widget widget)
    | none => throw (.referenceNotFound .aliased name)
  | .local name _ =>
    match context.scope.lookup? name with
    | some value => return value
    | none => throw (.referenceNotFound .local name)
  | .property base name _ => do
    context.readProperty (← context.resolve base) name

/-- Load a resource. -/
def loadResource (path : String) : Attempt σ Value := do
  let world ← getThe (World σ)
  match world.resources.load world.files path with
  | .error reason => throw (.resource path reason)
  | .ok size =>
    let (resource, world) := world.newResource path size
    set world
    return .resource resource

/-- A component of a vector or color. -/
def component (what : String) (value : Value) : Attempt σ Float32 := do
  match value.number? with
  | some number => return number.toFloat32
  | none =>
    throw (typeError (.component what ((← getThe (World σ)).typeName value)))

mutual

/-- Evaluate an expression.  Both operands of an infix operator are evaluated,
the left one first. -/
def eval (context : EvaluationContext) : Expr → Attempt σ Value
  | .int value _ => return .int value
  | .float value _ => return .float value
  | .bool value _ => return .bool value
  | .text value _ => return .text value
  | .null _ => return .null
  | .vec2 x y _ => do
    let x ← component "vec2" (← eval context x)
    let y ← component "vec2" (← eval context y)
    return .vec2 ⟨x, y⟩
  | .color red green blue alpha _ => do
    let red ← component "color" (← eval context red)
    let green ← component "color" (← eval context green)
    let blue ← component "color" (← eval context blue)
    let alpha ← component "color" (← eval context alpha)
    return .color ⟨red, green, blue, alpha⟩
  | .object entries _ => return .map (← evalEntries context entries)
  | .resource path _ => do
    match ← eval context path with
    | .text path => loadResource path
    | other =>
      throw (typeError (.resourcePath ((← getThe (World σ)).typeName other)))
  | .style box none _ => return .style box []
  | .style box (some properties) _ => do
    match ← eval context properties with
    | .map entries => return .style box entries
    | .null => return .style box []
    | other =>
      throw
        (typeError (.styleProperties box ((← getThe (World σ)).typeName other)))
  | .reference target => context.resolve target
  | .applyPrefix op right _ _ => do
    let value ← eval context right
    (← getThe (World σ)).applyPrefix op value
  | .applyInfix op left right _ _ => do
    let left ← eval context left
    let right ← eval context right
    (← getThe (World σ)).applyInfix op left right

/-- Evaluate the entries of an object literal in order. -/
def evalEntries (context : EvaluationContext) :
    List (String × Expr) → Attempt σ (List (String × Value))
  | [] => return []
  | (key, expr) :: rest => do
    let value ← eval context expr
    let others ← evalEntries context rest
    return (key, value) :: others

end

end EvaluationContext

/-- Evaluate a source text outside of any document. -/
def evalSource (source : String) : Attempt σ Value := do
  match Expr.read (← getThe (World σ)).converters source with
  | .error error => throw (.parse error)
  | .ok expr => EvaluationContext.eval ⟨none, [], none⟩ expr

end LiveMarkup
