import LiveMarkup.Widget.Toolkit
import LiveMarkup.Expr.Evaluation

/-!
# Setting properties from documents

How an evaluated value reaches a widget, and how a live property follows what it
has read.
-/

namespace LiveMarkup

variable {σ : Type}

/-- The key, in any spelling, whose value overrides styles. -/
def isStyleKey (key : String) : Bool :=
  Text.snakeCase key == "theme_overrides"

/-- Put entries into an object literal, each in place of the one of the same key. -/
def mergeEntries (old new : List (String × Value)) : List (String × Value) :=
  new.foldl (fun entries entry => putEntry entry.1 entry.2 entries) old

/-- Override styles entry by entry, up to the first key that the class does not
know. -/
def applyOverrides (widget : WidgetId) : List (String × Value) → Attempt σ Unit
  | [] => return ()
  | (key, value) :: rest => do
    let cls := ((← getThe (World σ)).widget widget).cls
    match cls.styleKind? key with
    | none => throw (.propertyNotFound (cls.name ++ " theme") key)
    | some kind =>
      (Toolkit.overrideStyle widget key kind value : Action σ Unit)
      applyOverrides widget rest

/-- Give an evaluated value to a property.  An object literal is merged into the
one that the property has. -/
def applyProperty (deliver : Deliver σ) (widget : WidgetId) (key : String)
    (value : Value) : Attempt σ Unit := do
  if isStyleKey key then
    match value with
    | .map entries => applyOverrides widget entries
    | other =>
      throw (typeError (.overrides key ((← getThe (World σ)).typeName other)))
  else
    match value with
    | .map entries =>
      match ← Toolkit.getProperty widget key with
      | .map old =>
        Toolkit.setProperty deliver widget key (.map (mergeEntries old entries))
      | _ => Toolkit.setProperty deliver widget key (.map entries)
    | other => Toolkit.setProperty deliver widget key other

/-- Note an error that has nobody to go to. -/
def report (error : UiError) : Action σ Unit :=
  modify fun world => { world with errors := world.errors ++ [error] }

namespace BindingId

/-- Add a live property. -/
def create (binding : LiveBinding) : Action σ BindingId := fun world =>
  (⟨world.bindings.size⟩, { world with bindings := world.bindings.add binding })

/-- Forget what a live property listens to and begin another evaluation. -/
def renew (id : BindingId) (world : World σ) : World σ :=
  (world.cancelBinding id).updateBinding id fun old =>
    { old with generation := old.generation + 1, watched := [] }

/-- Note what an evaluation gave. -/
def conclude (id : BindingId) (outcome : Except UiError Value)
    (world : World σ) : World σ :=
  world.updateBinding id ({ · with outcome := some outcome })

/-- Evaluate a live property.  It listens to what this evaluation reads and to
nothing else. -/
def evaluate (id : BindingId) : Attempt σ Value := ExceptT.mk do
  modify id.renew
  match (← get).binding? id with
  | none => return .ok .null
  | some binding =>
    let context : EvaluationContext := ⟨some binding.handle, binding.scope, some id⟩
    let outcome ← (context.eval binding.expr).run
    modify (id.conclude outcome)
    return outcome

/-- Mark a live property as being refreshed, or as not. -/
def setBusy (id : BindingId) (busy : Bool) : Action σ Unit :=
  modify (·.updateBinding id ({ · with busy }))

/-- Compute a live property again and give its value to its widget.  A property
whose widget is gone stops listening, and one that changes what it reads itself
is not computed once more. -/
def refresh (deliver : Deliver σ) (id : BindingId) : Action σ Unit := do
  let world ← get
  match world.binding? id with
  | none => pure ()
  | some binding =>
    match world.existingWidget? binding.widget with
    | none => modify (·.cancelBinding id)
    | some widget =>
      if binding.busy then pure ()
      else keeping [.binding id, .widget widget] do
        id.setBusy true
        let attempt : Attempt σ Unit := do
          applyProperty deliver widget binding.key (← id.evaluate)
        let outcome ← attempt.run
        id.setBusy false
        match outcome with
        | .ok () => pure ()
        | .error error => report error

end BindingId

/-- Set a property of a new widget. -/
def buildProperty (deliver : Deliver σ) (handle : HandleId)
    (keeper : SubscriptionKeeper) (widget : WidgetId) (scope : Scope)
    (property : Property) : Attempt σ Unit := do
  match property.binding with
  | .once =>
    let value ← EvaluationContext.eval ⟨some handle, scope, none⟩ property.value
    applyProperty deliver widget property.key value
  | .live =>
    let id ← (BindingId.create
      { handle
        widget
        key := property.key
        expr := property.value
        scope
        subscriptions := []
        generation := 0
        busy := false
        watched := []
        everWatched := []
        outcome := none } : Action σ BindingId)
    modifyThe (World σ) (·.keepSubscription keeper (.binding id))
    applyProperty deliver widget property.key (← id.evaluate)

/-- Let a handler of the controller run when a widget raises an event. -/
def buildSignal (handle : HandleId) (widget : WidgetId) (signal : Signal) :
    Attempt σ Unit := do
  let world ← getThe (World σ)
  let cls := (world.widget widget).cls
  let owner := world.handle handle
  if (cls.event? signal.event).isNone then
    throw (.signalNotFound cls.name signal.event)
  else if !owner.controller.handlers.contains signal.handler then
    throw (.handlerNotFound owner.name signal.handler)
  else
    Toolkit.connect widget signal.event
      (.controller owner.controller signal.handler)

end LiveMarkup
