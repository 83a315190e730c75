import LiveMarkup.Proofs.World.Grafting
import LiveMarkup.Proofs.Trees.Links

/-!
# Building keeps the tree in order

While a document is built, a part of it is put below its parent only when
everything below that part is in place.  Meanwhile callbacks run, and what they
do to the tree is not known.  So a property of worlds is kept if it survives
that a widget made meanwhile is put below one that was there before, and that
children are taken away and moved.
-/

namespace LiveMarkup

variable {σ : Type}

namespace World

/-- A property of worlds that building keeps: links agree where it holds, it
depends on the tree alone, and it survives changes of the tree that put nothing
but new widgets below old ones. -/
class KeptByBuilding (holds : World σ → Prop) : Prop where
  linked : ∀ {world : World σ}, holds world → world.Linked
  sameTree : ∀ {world after : World σ},
      world.widgets.size ≤ after.widgets.size →
      (∀ id,
        (after.widget id).children = (world.widget id).children ∧
        (after.widget id).parent = (world.widget id).parent) →
      holds world → holds after
  removeChild : ∀ {world : World σ} (parent child : WidgetId), holds world →
    holds (world.removeChild parent child)
  moveChild : ∀ {world : World σ} (parent child : WidgetId) (index : Nat),
      holds world → holds (world.moveChild parent child index)
  graft : ∀ {start world : World σ} {parent child : WidgetId},
      holds start → holds world → parent.index < start.widgets.size →
      start.widgets.size ≤ child.index → child.index < world.widgets.size →
      holds (world.addChild parent child)

/-- A property holds, and the loops have their places at widgets that were made. -/
structure Stands (holds : World σ → Prop) (world : World σ) : Prop where
  holds : holds world
  places : ∀ (id : BlockId) (block : Block), world.block? id = some block →
    block.parent.index < world.widgets.size

/-- Where links agree, and the loops have their places. -/
theorem Stands.linked {holds : World σ → Prop} [KeptByBuilding holds]
    {world : World σ} (stands : Stands holds world) : Stands Linked world :=
  ⟨KeptByBuilding.linked stands.holds, stands.places⟩

/-- All widgets of a list have been made. -/
def HasAll (world : World σ) (known : List WidgetId) : Prop :=
  ∀ id ∈ known, id.index < world.widgets.size

/-- If a property stands, and some widgets have been made, then the property
goes on standing, and no widget is unmade. -/
def Preserves (holds : World σ → Prop) (known : List WidgetId)
    (world after : World σ) : Prop :=
  Stands holds world → world.HasAll known →
    Stands holds after ∧ world.widgets.size ≤ after.widgets.size

/-- The same, and a widget has been made since. -/
def PreservesBuilding (holds : World σ → Prop) (known : List WidgetId)
    (world : World σ) (widget : WidgetId) (after : World σ) : Prop :=
  Stands holds world → world.HasAll known →
    Stands holds after ∧ world.widgets.size ≤ widget.index ∧
    widget.index < after.widgets.size

variable {holds : World σ → Prop} {known : List WidgetId}
  {world middle after : World σ}

theorem HasAll.mono (all : world.HasAll known)
    (grown : world.widgets.size ≤ after.widgets.size) : after.HasAll known :=
  fun id member => Nat.lt_of_lt_of_le (all id member) grown

theorem HasAll.cons {id : WidgetId} (inside : id.index < world.widgets.size)
    (all : world.HasAll known) : world.HasAll (id :: known) :=
  List.forall_mem_cons.mpr ⟨inside, all⟩

theorem Stands.of_blocks (stands : Stands holds world)
    (holdsAfter : holds after)
    (grown : world.widgets.size ≤ after.widgets.size)
    (same : after.blocks = world.blocks) : Stands holds after :=
  ⟨holdsAfter, fun id block found => Nat.lt_of_lt_of_le (stands.places id block (by
    rwa [block?, ← same])) grown⟩

theorem Preserves.refl (world : World σ) : Preserves holds known world world :=
  fun stands _ => ⟨stands, Nat.le_refl _⟩

theorem Preserves.trans (left : Preserves holds known world middle)
    (right : Preserves holds known middle after) :
    Preserves holds known world after := by
  intro stands all
  obtain ⟨between, grown⟩ := left stands all
  obtain ⟨later, grownLater⟩ := right between (all.mono grown)
  exact ⟨later, Nat.le_trans grown grownLater⟩

/-- What is preserved wherever some widgets are known is preserved where they
have been made. -/
theorem Preserves.of_known (preserves : Preserves holds known world after)
    (all : world.HasAll known) : Preserves holds [] world after :=
  fun stands _ => preserves stands all

/-- A change of widgets alone preserves a property that holds afterwards. -/
theorem Preserves.of_holds (count : after.widgets.size = world.widgets.size)
    (blocks : after.blocks = world.blocks)
    (holdsAfter : holds world → holds after) :
    Preserves holds known world after := by
  intro stands _
  exact ⟨stands.of_blocks (holdsAfter stands.holds) (Nat.le_of_eq count.symm)
    blocks, Nat.le_of_eq count.symm⟩

section Kept

variable [KeptByBuilding holds]

/-- The same tree preserves whatever a tree preserves. -/
theorem Preserves.of_sameTree (same : SameTree world after) :
    Preserves holds known world after := by
  refine fun stands _ =>
    ⟨⟨KeptByBuilding.sameTree (Nat.le_of_eq same.widgetCount.symm) same.tree
      stands.holds, fun id block found => ?_⟩,
      Nat.le_of_eq same.widgetCount.symm⟩
  have places := same.places id
  rw [found] at places
  obtain ⟨old, foundOld, parent⟩ := Option.map_eq_some_iff.mp places.symm
  rw [same.widgetCount, ← parent]
  exact stands.places id old foundOld

theorem blocks_removeChild (world : World σ) (parent child : WidgetId) :
    (world.removeChild parent child).blocks = world.blocks := by
  unfold World.removeChild
  split <;> rfl

theorem blocks_addChild (world : World σ) (parent child : WidgetId) :
    (world.addChild parent child).blocks = world.blocks := by
  change (world.detach child).blocks = world.blocks
  unfold World.detach
  split
  · exact blocks_removeChild world _ child
  · rfl

theorem Preserves.removeChild (world : World σ) (parent child : WidgetId) :
    Preserves holds known world (world.removeChild parent child) :=
  .of_holds (widgetCount_removeChild world parent child)
    (blocks_removeChild world parent child)
    (KeptByBuilding.removeChild parent child)

/-- A new widget stands on its own. -/
theorem Preserves.newWidget (world : World σ) (cls : WidgetClass) :
    PreservesBuilding holds known world ⟨world.widgets.size⟩
      (world.newWidget cls).2 := by
  have count : (world.newWidget cls).2.widgets.size = world.widgets.size + 1 :=
    Store.size_add ..
  have grown : world.widgets.size ≤ (world.newWidget cls).2.widgets.size :=
    count ▸ Nat.le_succ _
  exact fun stands _ =>
    ⟨stands.of_blocks (KeptByBuilding.sameTree grown (tree_newWidget world cls)
      stands.holds) grown rfl, Nat.le_refl _, count ▸ Nat.lt_succ_self _⟩

instance : AllowsGrafting (Preserves holds) (PreservesBuilding holds) where
  wider subset preserves stands all :=
    preserves stands fun id member => all id (subset member)
  create _ world cls := Preserves.newWidget world cls
  before left right stands all := by
    obtain ⟨between, grown⟩ := left stands all
    obtain ⟨later, new, inside⟩ := right between (all.mono grown)
    exact ⟨later, Nat.le_trans grown new, inside⟩
  later left right stands all := by
    obtain ⟨between, new, inside⟩ := left stands all
    obtain ⟨later, grown⟩ :=
      right between
        ((all.mono (Nat.le_of_lt (Nat.lt_of_le_of_lt new inside))).cons inside)
    exact ⟨later, new, Nat.lt_of_lt_of_le inside grown⟩
  within built stands all := by
    obtain ⟨later, new, inside⟩ := built stands all
    exact ⟨later, Nat.le_of_lt (Nat.lt_of_le_of_lt new inside)⟩
  graft {_ world parent widget after} member built stands all := by
    obtain ⟨later, new, inside⟩ := built stands all
    have count := widgetCount_addChild after parent widget
    refine ⟨later.of_blocks ?_ (Nat.le_of_eq count.symm)
      (blocks_addChild after parent widget), ?_⟩
    · exact KeptByBuilding.graft stands.holds later.holds
        (all parent member) new inside
    · exact count ▸ Nat.le_of_lt (Nat.lt_of_le_of_lt new inside)
  block {_} world {block} member stands all := by
    refine ⟨⟨KeptByBuilding.sameTree (Nat.le_refl world.widgets.size)
      (fun _ => ⟨rfl, rfl⟩) stands.holds, fun id found same => ?_⟩,
      Nat.le_refl _⟩
    rw [block?, Store.get?_add] at same
    split at same
    · cases same
      exact all _ member
    · exact stands.places id found same
  place found preserves stands all :=
    preserves stands (all.cons (stands.places _ _ found))
  removeChild _ := Preserves.removeChild
  moveChild _ world parent child index :=
    .of_holds (widgetCount_moveChild world parent child index) rfl
      (KeptByBuilding.moveChild parent child index)

instance : AllowsDocuments (Preserves holds known) where
  refl := .refl
  trans := .trans
  slight slight := .of_sameTree slight.toSameTree
  pins _ _ := .of_sameTree (.of_eq rfl rfl)
  binding _ _ _ := .of_sameTree (.of_eq rfl rfl)
  handle _ _ := .of_sameTree (.of_eq rfl rfl)
  updateHandle _ _ _ := .of_sameTree (.of_eq rfl rfl)
  noteLife _ _ := .of_sameTree (.of_eq rfl rfl)
  exhausted _ := .of_sameTree (.of_eq rfl rfl)

end Kept

/-! ## What building keeps -/

/-- Building keeps links that agree. -/
instance : KeptByBuilding (Linked : World σ → Prop) where
  linked linked := linked
  sameTree _ tree linked := linked.of_tree tree
  removeChild parent child linked := linked.removeChild parent child
  moveChild parent child index linked := linked.moveChild parent child index
  graft _ linked old new inside :=
    linked.addChild (Nat.lt_trans (Nat.lt_of_lt_of_le old new) inside) inside

/-- The widgets form a forest in which all that were made since a time lie below
older ones only. -/
structure ForestSince (count : Nat) (world : World σ) :
    Prop extends Forest world where
  made : count ≤ world.widgets.size
  older : ∀ {inner outer : WidgetId}, world.HasParent inner outer →
    outer.index < inner.index ∨ outer.index < count

/-- In a forest as it is now, nothing has been made since. -/
theorem Forest.since (forest : world.Forest) :
    ForestSince world.widgets.size world :=
  ⟨forest, Nat.le_refl _, fun below => .inr (forest.toLinked.parentInside below)⟩

/-- What a widget lies in is not younger, or was there at the time. -/
theorem ForestSince.inside {count : Nat} (forest : ForestSince count world)
    {inner outer : WidgetId} (inside : world.Inside inner outer) :
    outer.index ≤ inner.index ∨ outer.index < count := by
  induction inside with
  | refl => exact .inl (Nat.le_refl _)
  | tail _ has hypothesis =>
    have step := forest.older has
    omega

/-- A widget that was made later can be put below one that is older. -/
theorem ForestSince.addChild {count : Nat} (forest : ForestSince count world)
    {parent child : WidgetId} (older : parent.index < child.index)
    (inside : child.index < world.widgets.size)
    (apart : ¬ world.Inside parent child) :
    ForestSince count (world.addChild parent child) where
  toForest := forest.toForest.addChild (Nat.lt_trans older inside) inside apart
  made := widgetCount_addChild world parent child ▸ forest.made
  older {inner outer} has := by
    rw [HasParent, forest.toLinked.parent_addChild inside] at has
    split at has
    · next here =>
      cases has
      exact .inl (here ▸ older)
    · exact forest.older has

/-- A forest stays one since a time as long as no widget gets another parent. -/
theorem ForestSince.shrink {count : Nat} (since : ForestSince count world)
    (forest : after.Forest) (grown : world.widgets.size ≤ after.widgets.size)
    (parents :
      ∀ {inner outer},
        after.HasParent inner outer → world.HasParent inner outer) :
    ForestSince count after :=
  ⟨forest, Nat.le_trans since.made grown, fun has => since.older (parents has)⟩

/-- Building keeps a forest: what is put below a parent was made later than that. -/
instance (count : Nat) : KeptByBuilding (ForestSince count : World σ → Prop) where
  linked forest := forest.toLinked
  sameTree grown tree forest :=
    forest.shrink (forest.toForest.of_tree tree) grown fun has =>
      (tree _).2.symm.trans has
  removeChild {world} parent child forest :=
    forest.shrink (forest.toForest.removeChild parent child)
      (Nat.le_of_eq (widgetCount_removeChild world parent child).symm)
      (forest.toLinked.hasParent_removeChild)
  moveChild {world} parent child index forest :=
    forest.shrink (forest.toForest.moveChild parent child index)
      (Nat.le_of_eq (widgetCount_moveChild world parent child index).symm)
      fun has =>
        (parent_moveChild world parent child index _).symm.trans has
  graft start forest old new inside :=
    forest.addChild (Nat.lt_of_lt_of_le old new) inside fun within => by
      have upward := forest.inside within
      have made := start.made
      omega

end World

end LiveMarkup
