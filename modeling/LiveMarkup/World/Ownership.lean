import LiveMarkup.World.Subscriptions

/-!
# Ownership

Things exist as long as something owns them: the host, an operation in progress,
the environment, or another thing that exists.  Things that own each other in a
circle keep each other.  A loop or an item that nothing owns any more is
released, and its subscriptions end with it; a widget that nothing owns any more
can no longer be reached by those who only know of it.
-/

namespace LiveMarkup

/-- An object as something owned. -/
def ObjectId.owned : ObjectId → Owned
  | .bag id => .bag id
  | .widget id => .widget id
  | .handle id => .handle id

mutual

/-- What a value owns. -/
def Value.owns : Value → List Owned
  | .map entries => Value.entriesOwn entries
  | .style _ properties => Value.entriesOwn properties
  | .list id => [.list id]
  | .object id => [id.owned]
  | _ => []

/-- What the values of entries own. -/
def Value.entriesOwn : List (String × Value) → List Owned
  | [] => []
  | (_, value) :: rest => value.owns ++ Value.entriesOwn rest

end

/-- What the variables of a scope own. -/
def Scope.owns (scope : Scope) : List Owned := scope.flatMap Value.entriesOwn

/-- What the content of a property owns. -/
def Field.owns : Field → List Owned
  | .value content => content.owns
  | _ => []

/-- What a listener of an object owns. -/
def PropertyListener.owns : PropertyListener → List Owned
  | .binding id _ _ => [.binding id]
  | .host _ => []

/-- What a handler owns. -/
def Handler.owns : Handler → List Owned
  | .controller owner _ => [.bag owner.state]
  | .host _ => []

namespace World

variable {σ : Type}

/-- What a listener of a list owns. -/
def listListenerOwns (world : World σ) : ListListener → List Owned
  | .block id =>
    .block id :: ((world.block? id).map fun block =>
      Owned.handle block.handle).toList
  | .host _ => []

/-- What the record of a registration with an object or list owns. -/
def recordOwns : Subscription → List Owned
  | .object id _ => [id.owned]
  | .list id _ => [.list id]
  | .binding _ => []

/-- What the record of a registration owns. -/
def subscriptionOwns (world : World σ) : Subscription → List Owned
  | .binding id =>
    ((world.binding? id).map (·.subscriptions.flatMap recordOwns)).getD []
  | other => recordOwns other

/-- What something owns. -/
def owns (world : World σ) : Owned → List Owned
  | .bag id =>
    let bag := world.bag id
    Value.entriesOwn bag.values ++
      bag.listeners.toList.flatMap PropertyListener.owns
  | .list id =>
    let list := world.list id
    list.items.flatMap Value.owns ++
      list.listeners.toList.flatMap world.listListenerOwns
  | .widget id =>
    let widget := world.widget id
    widget.children.map .widget ++ widget.fields.flatMap (·.2.owns)
      ++ widget.overrides.flatMap (·.value.owns)
      ++ widget.connections.flatMap (·.2.owns)
      ++ widget.listeners.toList.flatMap PropertyListener.owns
  | .handle id =>
    let handle := world.handle id
    .bag handle.controller.state ::
      handle.nodes.map (fun node => Owned.widget node.2) ++
      handle.imports.map (fun entry => Owned.handle entry.2) ++
      (handle.root.map Owned.widget).toList ++
      handle.subscriptions.flatMap world.subscriptionOwns
  | .binding id =>
    match world.binding? id with
    | none => []
    | some binding =>
      .handle binding.handle :: binding.scope.owns
        ++ binding.subscriptions.flatMap recordOwns
  | .block id =>
    match world.block? id with
    | none => []
    | some block => block.scope.owns ++ block.items.map .item
  | .item id =>
    let item := world.item id
    item.widgets.map .widget ++ item.nested.map .block
      ++ item.subscriptions.flatMap world.subscriptionOwns

/-- What exists on its own: what the host, the operations in progress or the
environment keep. -/
def roots (world : World σ) : List Owned :=
  world.held ++ world.pins ++ Value.entriesOwn world.globals
    ++ world.topControllers.map (fun entry => Owned.handle entry.2)
    ++ world.controllers.map fun entry => Owned.bag entry.2.state

/-- Everything that has ever been made. -/
def everything (world : World σ) : List Owned :=
  world.widgets.indices.map (fun index => Owned.widget ⟨index⟩)
    ++ world.handles.indices.map (fun index => Owned.handle ⟨index⟩)
    ++ world.items.indices.map (fun index => Owned.item ⟨index⟩)
    ++ world.bindings.indices.map (fun index => Owned.binding ⟨index⟩)
    ++ world.blocks.indices.map (fun index => Owned.block ⟨index⟩)
    ++ world.bags.indices.map (fun index => Owned.bag ⟨index⟩)
    ++ world.lists.indices.map (fun index => Owned.list ⟨index⟩)

/-- The direct owners of something.  The parent of a widget comes first. -/
def owners (world : World σ) (thing : Owned) : List Owned :=
  let parent := match thing with
    | .widget id => ((world.widget id).parent.map Owned.widget).toList
    | _ => []
  (parent ++ world.everything).filter fun owner => (world.owns owner).contains thing

/-- Whether a chain of owners leads from something to what exists on its own.  A
chain of more than `length` owners counts too: it goes in a circle if it is
longer than everything there is. -/
def existsWithin (world : World σ) : Nat → Owned → Bool
  | 0, _ => true
  | length + 1, thing =>
    world.roots.contains thing ||
      (world.owners thing).any (world.existsWithin length)

/-- Whether something exists. -/
def existing (world : World σ) (thing : Owned) : Bool :=
  world.existsWithin (world.everything.length + 1) thing

/-- A widget, if it exists. -/
def existingWidget? (world : World σ) (id : WidgetId) : Option WidgetId :=
  if world.existing (.widget id) then some id else none

/-! ## Loops and items -/

/-- Whether a loop is owned: by a list that it listens to, by a live item, or by
an operation in progress. -/
def ownsBlock (world : World σ) (id : BlockId) : Bool :=
  world.pins.contains (.block id)
    || world.lists.entries.any
      (fun list => list.listeners.toList.contains (.block id))
    || world.items.entries.any fun item => item.live && item.nested.contains id

/-- Whether an item is owned: by a live loop or by an operation in progress. -/
def ownsItem (world : World σ) (id : ItemId) : Bool :=
  world.pins.contains (.item id)
    || world.blocks.entries.any fun block => block.live && block.items.contains id

/-- Release a loop. -/
def releaseBlock (world : World σ) (id : BlockId) : World σ :=
  world.updateBlock id fun old => { old with items := [], live := false }

/-- Release an item and end its subscriptions. -/
def releaseItem (world : World σ) (id : ItemId) : World σ :=
  (world.cancelItem id).updateItem id fun old =>
    { old with widgets := [], nested := [], live := false }

/-- The live loops that nothing owns. -/
def unownedBlocks (world : World σ) : List BlockId :=
  (world.blocks.indices.map BlockId.mk).filter fun id =>
    (world.block? id).any (·.live) && !world.ownsBlock id

/-- The live items that nothing owns. -/
def unownedItems (world : World σ) : List ItemId :=
  (world.items.indices.map ItemId.mk).filter fun id =>
    (world.item id).live && !world.ownsItem id

/-- Release loops and items that nothing owns, for at most `rounds` rounds. -/
def sweepWithin : Nat → World σ → World σ
  | 0, world => world
  | rounds + 1, world =>
    let blocks := world.unownedBlocks
    let items := world.unownedItems
    if blocks.isEmpty && items.isEmpty then world
    else
      sweepWithin rounds
        (items.foldl releaseItem (blocks.foldl releaseBlock world))

/-- Release everything in loops and items that nothing owns. -/
def sweep (world : World σ) : World σ :=
  sweepWithin (world.blocks.size + world.items.size) world

/-- Keep things in existence. -/
def pin (world : World σ) (things : List Owned) : World σ :=
  { world with pins := things ++ world.pins }

/-- Keep things in existence no longer. -/
def unpin (world : World σ) (things : List Owned) : World σ :=
  sweep { world with pins := things.foldl List.erase world.pins }

end World

/-- Run an action and keep things in existence until it ends. -/
def keeping {σ α : Type} (things : List Owned) (action : Action σ α) :
    Action σ α :=
  fun world =>
  let (result, after) := action (world.pin things)
  (result, World.sweep { after with pins := world.pins })

/-- Make an attempt and keep things in existence until it ends. -/
def attempting {σ α : Type} (things : List Owned) (attempt : Attempt σ α) :
    Attempt σ α :=
  ExceptT.mk (keeping things attempt.run)

/-- What a callback keeps in existence until it has run. -/
def Callback.owns {σ : Type} (world : World σ) : Callback → List Owned
  | .property listener _ => listener.owns
  | .list listener change => world.listListenerOwns listener ++ change.value.owns
  | .event handler arguments => handler.owns ++ arguments.flatMap Value.owns
  | .created controller handle => [.bag controller.state, .handle handle]
  | .updated controller _ | .disposed controller => [.bag controller.state]
  | .dispose handle => [.handle handle]

/-- Run callbacks in order, each kept until it has run. -/
def runEach {σ : Type} (deliver : Deliver σ) : List Callback → Action σ Unit
  | [] => pure ()
  | callback :: rest => do
    let things := callback.owns (← get)
    deliver callback
    modify (·.unpin things)
    runEach deliver rest

/-- Run callbacks in order; the ones to come are kept in existence while others
run. -/
def runAll {σ : Type} (deliver : Deliver σ) (callbacks : List Callback) :
    Action σ Unit := do
  modify fun world => world.pin (callbacks.flatMap (·.owns world))
  runEach deliver callbacks

end LiveMarkup
