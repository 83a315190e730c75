import LiveMarkup.Proofs.World.Access

/-!
# What lasts while documents are built

Building a document adds to a world.  What it takes from the world, it leaves as
it is: the classes, the variables of all documents, the values in bags and
lists, the controllers, and what makes a loop.
-/

namespace LiveMarkup

/-- What a loop is built from and where. -/
def Block.plan (block : Block) : Loop × HandleId × WidgetId × Scope :=
  (block.template, block.handle, block.parent, block.scope)

namespace World

variable {σ : Type} {world middle after : World σ}

/-- Whatever documents are built from is as it was.  Lists, widgets and loops
may have been added. -/
structure Lasts (world after : World σ) : Prop where
  registry : after.registry = world.registry
  globals : after.globals = world.globals
  values : ∀ id, (after.bag id).values = (world.bag id).values
  listsGrow : world.lists.size ≤ after.lists.size
  items : ∀ id : ListId,
      id.index < world.lists.size →
      (after.list id).items = (world.list id).items
  controllers : ∀ id, (after.handle id).controller = (world.handle id).controller
  widgetsGrow : world.widgets.size ≤ after.widgets.size
  classes : ∀ id : WidgetId,
      id.index < world.widgets.size →
      (after.widget id).cls = (world.widget id).cls
  connections : ∀ id : WidgetId, id.index < world.widgets.size →
    (after.widget id).connections = (world.widget id).connections
  blocksGrow : world.blocks.size ≤ after.blocks.size
  plans : ∀ id : BlockId, id.index < world.blocks.size →
    (after.block? id).map Block.plan = (world.block? id).map Block.plan

namespace Lasts

theorem refl (world : World σ) : world.Lasts world :=
  ⟨rfl, rfl, fun _ => rfl, Nat.le_refl _, fun _ _ => rfl, fun _ => rfl,
    Nat.le_refl _, fun _ _ => rfl, fun _ _ => rfl, Nat.le_refl _,
    fun _ _ => rfl⟩

theorem trans (left : world.Lasts middle) (right : middle.Lasts after) :
    world.Lasts after where
  registry := right.registry.trans left.registry
  globals := right.globals.trans left.globals
  values id := (right.values id).trans (left.values id)
  listsGrow := Nat.le_trans left.listsGrow right.listsGrow
  items id inside :=
    (right.items id (Nat.lt_of_lt_of_le inside left.listsGrow)).trans
      (left.items id inside)
  controllers id := (right.controllers id).trans (left.controllers id)
  widgetsGrow := Nat.le_trans left.widgetsGrow right.widgetsGrow
  classes id inside :=
    (right.classes id (Nat.lt_of_lt_of_le inside left.widgetsGrow)).trans
      (left.classes id inside)
  connections id inside :=
    (right.connections id (Nat.lt_of_lt_of_le inside left.widgetsGrow)).trans
      (left.connections id inside)
  blocksGrow := Nat.le_trans left.blocksGrow right.blocksGrow
  plans id inside :=
    (right.plans id (Nat.lt_of_lt_of_le inside left.blocksGrow)).trans
      (left.plans id inside)

/-- Of all that documents are built from, nothing has changed at all. -/
theorem of_eq (registry : after.registry = world.registry)
    (globals : after.globals = world.globals) (bags : after.bags = world.bags)
    (lists : after.lists = world.lists)
    (handles : after.handles = world.handles)
    (widgets : after.widgets = world.widgets)
    (blocks : after.blocks = world.blocks) : world.Lasts after := by
  refine ⟨registry, globals, fun id => ?_, ?_, fun id _ => ?_, fun id => ?_, ?_,
    fun id _ => ?_, fun id _ => ?_, ?_, fun id _ => ?_⟩
  · rw [World.bag, World.bag, bags]
  · exact Nat.le_of_eq (congrArg Store.size lists.symm)
  · rw [World.list, World.list, lists]
  · rw [World.handle, World.handle, handles]
  · exact Nat.le_of_eq (congrArg Store.size widgets.symm)
  · rw [World.widget, World.widget, widgets]
  · rw [World.widget, World.widget, widgets]
  · exact Nat.le_of_eq (congrArg Store.size blocks.symm)
  · rw [World.block?, World.block?, blocks]

/-- A loop that there was is built from the same as before. -/
theorem block (lasts : world.Lasts after) {id : BlockId} {old : Block}
    (found : world.block? id = some old) :
    ∃ later, after.block? id = some later ∧ later.plan = old.plan := by
  have same := lasts.plans id (Store.lt_size_of_get? found)
  rw [found] at same
  exact Option.map_eq_some_iff.mp same

end Lasts

/-! ## Changes of entries -/

variable (world)

theorem lasts_updateBag (id : BagId) {change : Bag → Bag}
    (same : ∀ old, (change old).values = old.values) :
    world.Lasts (world.updateBag id change) :=
  { Lasts.refl world with
    values other := by
      rw [bag_updateBag]
      split
      · exact same _
      · rfl }

theorem lasts_updateList (id : ListId)
    {change : ObservableList → ObservableList}
    (same : ∀ old, (change old).items = old.items) :
    world.Lasts (world.updateList id change) :=
  { Lasts.refl world with
    listsGrow := Nat.le_of_eq (Store.size_update ..).symm
    items other _ := by
      rw [list_updateList]
      split
      · exact same _
      · rfl }

theorem lasts_updateHandle (id : HandleId) {change : Handle → Handle}
    (same : ∀ old, (change old).controller = old.controller) :
    world.Lasts (world.updateHandle id change) :=
  { Lasts.refl world with
    controllers other := by
      rw [handle_updateHandle]
      split
      · exact same _
      · rfl }

theorem lasts_updateWidget (id : WidgetId) {change : Widget → Widget}
    (same :
      ∀ old,
        (change old).cls = old.cls ∧ (change old).connections = old.connections) :
    world.Lasts (world.updateWidget id change) :=
  { Lasts.refl world with
    widgetsGrow := Nat.le_of_eq (Store.size_update ..).symm
    classes other _ :=
      widget_project world id other change Widget.cls fun old => (same old).1
    connections other _ :=
      widget_project world id other change Widget.connections fun old =>
        (same old).2 }

theorem lasts_updateBlock (id : BlockId) {change : Block → Block}
    (same : ∀ old, (change old).plan = old.plan) :
    world.Lasts (world.updateBlock id change) :=
  { Lasts.refl world with
    blocksGrow := Nat.le_of_eq (Store.size_update ..).symm
    plans other _ := by
      rw [block?_updateBlock]
      split
      · rw [Option.map_map]
        exact congrArg (world.block? other |>.map ·) (funext same)
      · rfl }

theorem lasts_updateItem (id : ItemId) (change : Item → Item) :
    world.Lasts (world.updateItem id change) :=
  .of_eq rfl rfl rfl rfl rfl rfl rfl

/-! ## New entries -/

theorem lasts_newWidget (cls : WidgetClass) : world.Lasts (world.newWidget cls).2 :=
  { Lasts.refl world with
    widgetsGrow :=
      Nat.le_trans (Nat.le_succ _) (Nat.le_of_eq (Store.size_add ..).symm)
    classes id inside := by rw [widget_newWidget, if_neg (Nat.ne_of_lt inside)]
    connections id inside := by
      rw [widget_newWidget, if_neg (Nat.ne_of_lt inside)] }

theorem lasts_newList (values : List Value) :
    world.Lasts (world.newList values).2 :=
  { Lasts.refl world with
    listsGrow :=
      Nat.le_trans (Nat.le_succ _) (Nat.le_of_eq (Store.size_add ..).symm)
    items _ inside := congrArg ObservableList.items (Store.getD_add_of_lt inside) }

theorem lasts_newBlock (block : Block) :
    world.Lasts { world with blocks := world.blocks.add block } :=
  { Lasts.refl world with
    blocksGrow :=
      Nat.le_trans (Nat.le_succ _) (Nat.le_of_eq (Store.size_add ..).symm)
    plans _ inside := congrArg (Option.map Block.plan)
      (Store.get?_add_of_lt inside) }

end World

end LiveMarkup
