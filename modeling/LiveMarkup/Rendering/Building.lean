import LiveMarkup.Rendering.Properties
import LiveMarkup.Rendering.Teardown

/-!
# Building widgets from components

A component becomes a widget: first its properties are set, then its children
and loops are built, then its signals are connected, and at last it raises
`ready`.  A loop builds its template for every element of its list and listens
to the list from then on.
-/

namespace LiveMarkup

variable {σ : Type}

/-- The document and the keeper of subscriptions that a part of it is built for. -/
structure BuildContext where
  handle : HandleId
  keeper : SubscriptionKeeper

/-- Give a name to a widget of a document, in place of an earlier widget of that
name. -/
def registerNode (handle : HandleId) (aliasName : String) (widget : WidgetId) :
    Action σ Unit :=
  modify (·.updateHandle handle fun old =>
    { old with nodes := putEntry aliasName widget old.nodes })

namespace ItemId

def create : Action σ ItemId := fun world =>
  (⟨world.items.size⟩, { world with items := world.items.add ⟨[], [], [], true⟩ })

/-- Note a widget as built for an item. -/
def addWidget (item : ItemId) (widget : WidgetId) : Action σ Unit :=
  modify (·.updateItem item fun old =>
    { old with widgets := old.widgets ++ [widget] })

/-- Note a loop as built for an item. -/
def addBlock (item : ItemId) (block : BlockId) : Action σ Unit :=
  modify (·.updateItem item fun old => { old with nested := old.nested ++ [block] })

end ItemId

namespace BlockId

def create (block : Block) : Action σ BlockId := fun world =>
  (⟨world.blocks.size⟩, { world with blocks := world.blocks.add block })

/-- Change the items of a loop. -/
def updateItems (id : BlockId) (change : List ItemId → List ItemId) :
    Action σ Unit :=
  modify (·.updateBlock id fun old => { old with items := change old.items })

/-- Build the item of a loop for the element now at an index, with a given way
to fill it.  An item that cannot be filled is taken away again. -/
def buildItem (id : BlockId) (index : Nat) (value : Value)
    (fill : ItemId → WidgetId → Scope → Attempt σ Unit) : Attempt σ Unit := do
  let world ← getThe (World σ)
  match world.block? id with
  | none => return ()
  | some block =>
    match world.existingWidget? block.parent with
    | none => return ()
    | some parent =>
      let item ← (ItemId.create : Action σ ItemId)
      (id.updateItems fun items =>
        items.take index ++ item :: items.drop index : Action σ Unit)
      let locals :=
        [(block.template.indexName, .int index), (block.template.valueName, value)]
      attempting (.item item :: .widget parent :: value.owns) do
        try fill item parent (locals :: block.scope)
        catch error =>
          (item.teardown : Action σ Unit)
          (id.updateItems (·.erase item) : Action σ Unit)
          throw error

/-- Build the items of a loop for values at successive indices. -/
def buildItems (id : BlockId) (fill : ItemId → WidgetId → Scope → Attempt σ Unit) :
    Nat → List Value → Attempt σ Unit
  | _, [] => return ()
  | index, value :: rest => do
    id.buildItem index value fill
    id.buildItems fill (index + 1) rest

end BlockId

/-- The anchor of the first loop of a new widget, or of one after another loop. -/
def anchorAfter (world : World σ) (widget : WidgetId)
    (previous : Option BlockId) : Anchor :=
  match previous with
  | some block => .block block
  | none =>
    match (world.widget widget).children.getLast? with
    | some child => .widget child
    | none => .front

/-- The anchor of the next loop in an item. -/
def anchorInItem (world : World σ) (block : BlockId) (item : ItemId) : Anchor :=
  match (world.item item).nested.getLast?, (world.item item).widgets.getLast? with
  | some previous, _ => .block previous
  | none, some widget => .widget widget
  | none, none => .itemStart block item

mutual

/-- Build a component. -/
def buildComponent (deliver : Deliver σ) (context : BuildContext) :
    Component → Scope → Attempt σ WidgetId
  | ⟨name, aliasName, properties, signals, children, loops, _⟩, scope => do
    let widget ← Toolkit.create name
    attempting [.widget widget] do
      match aliasName with
      | some aliasName =>
        (registerNode context.handle aliasName widget : Action σ Unit)
      | none => pure ()
      properties.forM (buildProperty deliver context.handle context.keeper
        widget scope)
      buildChildren deliver context widget children scope
      buildLoops deliver context widget loops none scope
      signals.forM (buildSignal context.handle widget)
      widget.becomeReady deliver
      return widget

/-- Build components and put them into a widget in order. -/
def buildChildren (deliver : Deliver σ) (context : BuildContext)
    (widget : WidgetId) : List Component → Scope → Attempt σ Unit
  | [], _ => return ()
  | component :: rest, scope => do
    let child ← buildComponent deliver context component scope
    (Toolkit.addChild widget child : Action σ Unit)
    buildChildren deliver context widget rest scope

/-- Build the loops of a widget in order.  The one built last is kept until the
widget is done. -/
def buildLoops (deliver : Deliver σ) (context : BuildContext) (widget : WidgetId) :
    List Loop → Option BlockId → Scope → Attempt σ Unit
  | [], _, _ => return ()
  | loop :: rest, previous, scope => do
    let anchor := anchorAfter (← getThe (World σ)) widget previous
    let block ← buildLoop deliver context widget anchor loop scope
    modifyThe (World σ) fun world =>
      (world.pin [.block block]).unpin (previous.map Owned.block).toList
    buildLoops deliver context widget rest (some block) scope

/-- Build a loop below a parent and listen to its list. -/
def buildLoop (deliver : Deliver σ) (context : BuildContext) (parent : WidgetId)
    (anchor : Anchor) : Loop → Scope → Attempt σ BlockId
  | ⟨source, itemType, indexName, valueName, children, loops, span⟩, scope => do
    match ← EvaluationContext.eval ⟨some context.handle, scope, none⟩ source with
    | .list list =>
      let block ← (BlockId.create
        { template := ⟨source, itemType, indexName, valueName, children, loops, span⟩
          handle := context.handle
          parent
          anchor
          scope
          items := []
          live := true } : Action σ BlockId)
      let values := ((← getThe (World σ)).list list).items
      attempting (.block block :: .list list :: values.flatMap Value.owns) do
        block.buildItems
          (fun item parent scope => do
            let context := ⟨context.handle, .item item⟩
            fillChildren deliver context block item parent children scope
            fillLoops deliver context block item parent loops scope)
          0 values
        let number ← (list.subscribe (.block block) : Action σ Nat)
        modifyThe (World σ) (·.keepSubscription context.keeper (.list list number))
        return block
    | other => throw (typeError (.loopSource ((← getThe (World σ)).typeName other)))

/-- Build the components of a template for an item, each at its place among the
children of the parent. -/
def fillChildren (deliver : Deliver σ) (context : BuildContext)
    (block : BlockId) (item : ItemId) (parent : WidgetId) :
    List Component → Scope → Attempt σ Unit
  | [], _ => return ()
  | component :: rest, scope => do
    let widget ← buildComponent deliver context component scope
    let world ← getThe (World σ)
    let index := ((world.block? block).map (world.nextIndex parent · item)).getD 0
    (Toolkit.addChild parent widget : Action σ Unit)
    (Toolkit.moveChild parent widget index : Action σ Unit)
    (item.addWidget widget : Action σ Unit)
    fillChildren deliver context block item parent rest scope

/-- Build the loops of a template for an item. -/
def fillLoops (deliver : Deliver σ) (context : BuildContext) (block : BlockId)
    (item : ItemId) (parent : WidgetId) : List Loop → Scope → Attempt σ Unit
  | [], _ => return ()
  | loop :: rest, scope => do
    let anchor := anchorInItem (← getThe (World σ)) block item
    let inner ← buildLoop deliver context parent anchor loop scope
    (item.addBlock inner : Action σ Unit)
    fillLoops deliver context block item parent rest scope

end

/-- Carry a change of its list through to a loop. -/
def BlockId.follow (deliver : Deliver σ) (id : BlockId) (change : ListChange) :
    Action σ Unit := do
  match (← get).block? id with
  | none => pure ()
  | some block =>
    match change with
    | .remove index _ => id.removeItem index
    | .add index value | .insert index value =>
      let attempt := id.buildItem index value fun item parent scope => do
        let context := ⟨block.handle, .item item⟩
        fillChildren deliver context id item parent block.template.children scope
        fillLoops deliver context id item parent block.template.loops scope
      match ← attempt.run with
      | .ok () => pure ()
      | .error error => report error

end LiveMarkup
