import LiveMarkup.Widget.Toolkit
import LiveMarkup.Rendering.Placement

/-!
# Taking away what loops have built
-/

namespace LiveMarkup

variable {σ : Type}

/-- Take a widget away from its parent, if it has one that exists. -/
def removeFromParent (widget : WidgetId) : Action σ Unit := do
  match (← get).parent? widget with
  | some parent => Toolkit.removeChild parent widget
  | none => pure ()

/-- Take away what was built for an item: first the loops inside it, then its
own widgets.  Its subscriptions end in between.  At most `depth` loops inside
each other are followed. -/
def teardownItem : Nat → ItemId → Action σ Unit
  | 0, _ => pure ()
  | depth + 1, id => do
    let nested := ((← get).item id).nested
    modify (·.updateItem id ({ · with nested := [] }))
    nested.forM fun block => do
      let items := (((← get).block? block).map (·.items)).getD []
      modify (·.updateBlock block ({ · with items := [] }))
      items.forM (teardownItem depth)
    modify (·.cancelItem id)
    let widgets := ((← get).item id).widgets
    modify (·.updateItem id ({ · with widgets := [] }))
    widgets.forM removeFromParent

namespace ItemId

/-- Take away what was built for an item. -/
def teardown (id : ItemId) : Action σ Unit := do
  teardownItem (← get).blockDepth id

end ItemId

namespace BlockId

/-- Take away the item at an index of a loop, if there is one. -/
def removeItem (id : BlockId) (index : Nat) : Action σ Unit := do
  let items := (((← get).block? id).map (·.items)).getD []
  match items[index]? with
  | none => pure ()
  | some item => keeping [.item item] do
    modify fun world => world.updateBlock id fun old =>
      { old with items := old.items.eraseIdx index }
    item.teardown

end BlockId

end LiveMarkup
