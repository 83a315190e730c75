import LiveMarkup.World.Ownership

/-!
# Where loops put their widgets

The widgets of a loop stand together among the children of its parent, those of
an element after those of the elements before it.  An anchor leads to the widget
before the first of them.
-/

namespace LiveMarkup.World

variable {σ : Type}

/-- The last widget of a loop, going through at most `depth` loops inside each
other. -/
def lastOfBlock (world : World σ) : Nat → BlockId → Option WidgetId
  | 0, _ => none
  | depth + 1, id =>
    ((world.block? id).map (·.items)).getD [] |>.reverse.findSome? fun itemId =>
      let item := world.item itemId
      (item.nested.reverse.findSome? (world.lastOfBlock depth)).or
        item.widgets.getLast?

/-- A bound on how many loops are inside each other. -/
def blockDepth (world : World σ) : Nat := world.blocks.size + 1

/-- The last widget built for an item. -/
def lastOfItem (world : World σ) (id : ItemId) : Option WidgetId :=
  let item := world.item id
  (item.nested.reverse.findSome? (world.lastOfBlock world.blockDepth)).or
    item.widgets.getLast?

/-- The last widget built for the items of a loop before the given one. -/
def lastBefore (world : World σ) (block : Block) (item : ItemId) :
    Option WidgetId :=
  (block.items.takeWhile (· != item)).reverse.findSome? world.lastOfItem

/-- The widget that an anchor leads to, following at most `depth` loops. -/
def resolveWithin (world : World σ) : Nat → Anchor → Option WidgetId
  | _, .front => none
  | _, .widget id => world.existingWidget? id
  | 0, _ => none
  | depth + 1, .block id =>
    match world.block? id with
    | none => none
    | some block =>
      if block.live then
        (world.lastOfBlock world.blockDepth id).or
          (world.resolveWithin depth block.anchor)
      else none
  | depth + 1, .itemStart id item =>
    match world.block? id with
    | none => none
    | some block =>
      if block.live && (world.item item).live then
        (world.lastBefore block item).or (world.resolveWithin depth block.anchor)
      else none

/-- The widget that an anchor leads to. -/
def resolve (world : World σ) (anchor : Anchor) : Option WidgetId :=
  world.resolveWithin world.blockDepth anchor

/-- The index among the children of a parent at which the next widget of an item
belongs. -/
def nextIndex (world : World σ) (parent : WidgetId) (block : Block)
    (item : ItemId) : Nat :=
  let after := (world.lastOfItem item).or
    ((world.lastBefore block item).or (world.resolve block.anchor))
  match after.bind fun widget => (world.widget parent).children.findIdx? (· == widget) with
  | some index => index + 1
  | none => 0

end LiveMarkup.World
