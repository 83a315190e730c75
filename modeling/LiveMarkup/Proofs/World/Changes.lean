import LiveMarkup.Rendering.Teardown
import LiveMarkup.Rendering.Properties
import LiveMarkup.Proofs.World.Fields
import LiveMarkup.Proofs.World.Lasting

/-!
# Changes of a world

Most of what an operation does by itself is of minor importance: contents,
listeners and records change, and things are made.  What a world must not lose
on the way is stated as a relation between a world and a later one.  If the
relation allows minor changes and one change after the other, then whole
operations are within it, as long as the callbacks are that they cause.
-/

namespace LiveMarkup

variable {σ α β : Type}

namespace World

/-- A change that leaves alone which live properties there are, which widgets
they belong to and which of them are being refreshed, what documents import and
what their controllers were told, what the operations in progress keep, and
whether callbacks have nested too deeply. -/
structure Minor (world after : World σ) : Prop where
  lives : after.lives = world.lives
  pins : after.pins = world.pins
  exhausted : after.exhausted = world.exhausted
  bindingCount : after.bindings.size = world.bindings.size
  bindings : ∀ id,
      (after.binding? id).map (fun binding => (binding.widget, binding.busy)) =
        (world.binding? id).map fun binding => (binding.widget, binding.busy)
  handleCount : after.handles.size = world.handles.size
  imports : ∀ id, (after.handle id).imports = (world.handle id).imports

namespace Minor

theorem refl (world : World σ) : Minor world world :=
  ⟨rfl, rfl, rfl, rfl, fun _ => rfl, rfl, fun _ => rfl⟩

theorem trans {world middle after : World σ} (left : Minor world middle)
    (right : Minor middle after) : Minor world after where
  lives := right.lives.trans left.lives
  pins := right.pins.trans left.pins
  exhausted := right.exhausted.trans left.exhausted
  bindingCount := right.bindingCount.trans left.bindingCount
  bindings id := (right.bindings id).trans (left.bindings id)
  handleCount := right.handleCount.trans left.handleCount
  imports id := (right.imports id).trans (left.imports id)

/-- Where live properties and documents are the same, there is little left to
change. -/
theorem of_eq {world after : World σ} (lives : after.lives = world.lives)
    (pins : after.pins = world.pins)
    (exhausted : after.exhausted = world.exhausted)
    (bindings : after.bindings = world.bindings)
    (handles : after.handles = world.handles) : Minor world after := by
  refine ⟨lives, pins, exhausted, congrArg Store.size bindings, fun id => ?_,
    congrArg Store.size handles, fun id => ?_⟩
  · rw [binding?, binding?, bindings]
  · rw [World.handle, World.handle, handles]

end Minor

/-- The tree of widgets is the same, and so are the places of loops in it. -/
structure SameTree (world after : World σ) : Prop where
  widgetCount : after.widgets.size = world.widgets.size
  tree : ∀ id, (after.widget id).children = (world.widget id).children ∧
    (after.widget id).parent = (world.widget id).parent
  places : ∀ id,
      (after.block? id).map Block.parent = (world.block? id).map Block.parent

namespace SameTree

theorem refl (world : World σ) : SameTree world world :=
  ⟨rfl, fun _ => ⟨rfl, rfl⟩, fun _ => rfl⟩

theorem trans {world middle after : World σ} (left : SameTree world middle)
    (right : SameTree middle after) : SameTree world after where
  widgetCount := right.widgetCount.trans left.widgetCount
  tree id :=
    ⟨(right.tree id).1.trans (left.tree id).1,
      (right.tree id).2.trans (left.tree id).2⟩
  places id := (right.places id).trans (left.places id)

theorem of_eq {world after : World σ} (widgets : after.widgets = world.widgets)
    (blocks : after.blocks = world.blocks) : SameTree world after := by
  refine ⟨congrArg Store.size widgets, fun id => ?_, fun id => ?_⟩
  · rw [World.widget, World.widget, widgets]
    exact ⟨rfl, rfl⟩
  · rw [block?, block?, blocks]

end SameTree

/-- A minor change that leaves the tree of widgets as it is. -/
structure Slight (world after : World σ) :
    Prop extends Minor world after, SameTree world after

namespace Slight

theorem refl (world : World σ) : Slight world world :=
  ⟨.refl world, .refl world⟩

theorem trans {world middle after : World σ} (left : Slight world middle)
    (right : Slight middle after) : Slight world after :=
  ⟨left.toMinor.trans right.toMinor, left.toSameTree.trans right.toSameTree⟩

/-- A minor change of neither widgets nor loops. -/
theorem of_minor {world after : World σ} (minor : Minor world after)
    (widgets : after.widgets = world.widgets)
    (blocks : after.blocks = world.blocks) : Slight world after :=
  ⟨minor, .of_eq widgets blocks⟩

theorem of_eq {world after : World σ} (lives : after.lives = world.lives)
    (pins : after.pins = world.pins)
    (exhausted : after.exhausted = world.exhausted)
    (bindings : after.bindings = world.bindings)
    (handles : after.handles = world.handles)
    (widgets : after.widgets = world.widgets)
    (blocks : after.blocks = world.blocks) : Slight world after :=
  .of_minor (.of_eq lives pins exhausted bindings handles) widgets blocks

end Slight

/-- A slight change that nobody notes: neither what documents are built from
changes, nor what widgets hold, nor what the widget set was asked for, nor the
host. -/
structure Upkeep (world after : World σ) :
    Prop extends Slight world after, Lasts world after where
  fields : ∀ id, (after.widget id).fields = (world.widget id).fields
  journal : after.journal = world.journal
  readied : after.readied = world.readied
  errors : after.errors = world.errors
  host : after.host = world.host

namespace Upkeep

theorem refl (world : World σ) : Upkeep world world :=
  ⟨.refl world, .refl world, fun _ => rfl, rfl, rfl, rfl, rfl⟩

theorem trans {world middle after : World σ} (left : Upkeep world middle)
    (right : Upkeep middle after) : Upkeep world after where
  toSlight := left.toSlight.trans right.toSlight
  toLasts := left.toLasts.trans right.toLasts
  fields id := (right.fields id).trans (left.fields id)
  journal := right.journal.trans left.journal
  readied := right.readied.trans left.readied
  errors := right.errors.trans left.errors
  host := right.host.trans left.host

end Upkeep

end World

open World (Minor Slight Upkeep)

/-- A relation that allows one change after the other. -/
class Chains (relation : World σ → World σ → Prop) : Prop where
  refl : ∀ world, relation world world
  trans : ∀ {world middle after},
      relation world middle → relation middle after → relation world after

/-- A relation that allows what reading properties and resources changes. -/
class AllowsReading (relation : World σ → World σ → Prop) :
    Prop extends Chains relation where
  readField : ∀ (world : World σ) (field : Field),
      relation world (world.readField field).2
  loaded : ∀ (world : World σ) (loaded : Nat), relation world { world with loaded }

/-- A relation that allows changes that nobody notes, and one change after the
other. -/
class AllowsUpkeep (relation : World σ → World σ → Prop) :
    Prop extends Chains relation where
  upkeep : ∀ {world after}, Upkeep world after → relation world after

/-- A relation that allows slight changes, and one change after the other. -/
class AllowsSlight (relation : World σ → World σ → Prop) :
    Prop extends Chains relation where
  slight : ∀ {world after}, Slight world after → relation world after

/-- A relation that allows minor changes, and one change after the other. -/
class AllowsMinor (relation : World σ → World σ → Prop) :
    Prop extends AllowsSlight relation where
  minor : ∀ {world after}, Minor world after → relation world after
  slight slight := minor slight.toMinor

instance {relation : World σ → World σ → Prop} [AllowsSlight relation] :
    AllowsUpkeep relation where
  upkeep upkeep := AllowsSlight.slight upkeep.toSlight

instance : AllowsUpkeep (Upkeep : World σ → World σ → Prop) where
  refl := .refl
  trans := .trans
  upkeep upkeep := upkeep

instance : AllowsSlight (Slight : World σ → World σ → Prop) where
  refl := .refl
  trans := .trans
  slight slight := slight

instance : AllowsMinor (Minor : World σ → World σ → Prop) where
  refl := .refl
  trans := .trans
  minor minor := minor

/-- From whichever world an action starts, the world it leads to is in a
relation with that one. -/
def Action.Within (relation : World σ → World σ → Prop) (action : Action σ α) :
    Prop :=
  ∀ world, relation world (action world).2

/-- Whether an attempt fails or not, the world it leads to is in a relation with
the one before. -/
def Attempt.Within (relation : World σ → World σ → Prop)
    (attempt : Attempt σ α) : Prop :=
  Action.Within relation attempt.run

section Combining

variable {relation : World σ → World σ → Prop}

theorem Action.Within.modify {change : World σ → World σ}
    (allowed : ∀ world, relation world (change world)) :
    Action.Within relation (modify change : Action σ Unit) :=
  allowed

theorem Attempt.Within.modifyThe {change : World σ → World σ}
    (allowed : ∀ world, relation world (change world)) :
    Attempt.Within relation (modifyThe (World σ) change : Attempt σ PUnit) :=
  allowed

theorem Attempt.Within.lift {action : Action σ α}
    (within : Action.Within relation action) :
    Attempt.Within relation (liftM action : Attempt σ α) :=
  within

theorem Action.Within.apply {action : Action σ α}
    (within : Action.Within relation action) (world : World σ) :
    relation world (action world).2 :=
  within world

theorem Attempt.Within.apply {attempt : Attempt σ α}
    (within : Attempt.Within relation attempt) (world : World σ) :
    relation world (attempt.run world).2 :=
  within world

/-- What is known of an attempt is known of each of its runs. -/
theorem Attempt.Within.of_run {attempt : Attempt σ α}
    (within : Attempt.Within relation attempt) {world after : World σ}
    {result : Except UiError α} (ran : attempt.run world = (result, after)) :
    relation world after := by
  have known := within world
  rwa [ran] at known

variable [Chains relation]

namespace Action.Within

theorem pure (result : α) :
    Action.Within relation (Pure.pure result : Action σ α) :=
  fun world => Chains.refl world

theorem bind {action : Action σ α} {next : α → Action σ β}
    (first : Action.Within relation action)
    (second : ∀ result, Action.Within relation (next result)) :
    Action.Within relation (action >>= next) :=
  fun world => Chains.trans (first world) (second _ _)

theorem get : Action.Within relation (MonadState.get : Action σ (World σ)) :=
  fun world => Chains.refl world

theorem forM {items : List α} {action : α → Action σ PUnit}
    (each : ∀ item ∈ items, Action.Within relation (action item)) :
    Action.Within relation (items.forM action) := by
  induction items with
  | nil => exact pure _
  | cons item rest hypothesis =>
    exact bind (each item List.mem_cons_self) fun _ =>
      hypothesis fun item member => each item (List.mem_cons_of_mem _ member)

/-- An action that makes minor changes only is within every relation that allows
them. -/
theorem minor {relation : World σ → World σ → Prop} [AllowsMinor relation]
    {action : Action σ α} (minor : Action.Within Minor action) :
    Action.Within relation action :=
  fun world => AllowsMinor.minor (minor world)

/-- An action that changes nothing that anybody notes is within every relation
that allows that. -/
theorem upkeep {relation : World σ → World σ → Prop} [AllowsUpkeep relation]
    {action : Action σ α} (upkeep : Action.Within Upkeep action) :
    Action.Within relation action :=
  fun world => AllowsUpkeep.upkeep (upkeep world)

/-- An action that makes slight changes only is within every relation that
allows them. -/
theorem slight {relation : World σ → World σ → Prop} [AllowsSlight relation]
    {action : Action σ α} (slight : Action.Within Slight action) :
    Action.Within relation action :=
  fun world => AllowsSlight.slight (slight world)

end Action.Within

namespace Attempt.Within

theorem pure (result : α) :
    Attempt.Within relation (Pure.pure result : Attempt σ α) :=
  fun world => Chains.refl world

theorem throw (error : UiError) :
    Attempt.Within relation (MonadExcept.throw error : Attempt σ α) :=
  fun world => Chains.refl world

theorem except (outcome : Except UiError α) :
    Attempt.Within relation (liftM outcome : Attempt σ α) := by
  intro world
  rw [Attempt.except_run]
  exact Chains.refl world

/-- What relates both parts of an attempt relates the whole of it. -/
theorem bind {attempt : Attempt σ α} {next : α → Attempt σ β}
    (first : Attempt.Within relation attempt)
    (second : ∀ result, Attempt.Within relation (next result)) :
    Attempt.Within relation (attempt >>= next) := by
  intro world
  rw [Attempt.bind_run]
  have one := first world
  rcases run : attempt.run world with ⟨outcome, after⟩
  rw [run] at one
  cases outcome with
  | error => exact one
  | ok result => exact Chains.trans one (second result after)

theorem getThe : Attempt.Within relation (getThe (World σ) : Attempt σ (World σ)) :=
  fun world => Chains.refl world

theorem forM {items : List α} {attempt : α → Attempt σ PUnit}
    (each : ∀ item, Attempt.Within relation (attempt item)) :
    Attempt.Within relation (items.forM attempt) := by
  induction items with
  | nil => exact pure _
  | cons item rest hypothesis => exact bind (each item) fun _ => hypothesis

/-- What relates an attempt and its handler relates the attempt that is caught.
-/
theorem tryCatch {attempt : Attempt σ α} {handler : UiError → Attempt σ α}
    (first : Attempt.Within relation attempt)
    (second : ∀ error, Attempt.Within relation (handler error)) :
    Attempt.Within relation (MonadExcept.tryCatch attempt handler) := by
  intro world
  rw [Attempt.tryCatch_run]
  have one := first world
  rcases run : attempt.run world with ⟨outcome, after⟩
  rw [run] at one
  cases outcome with
  | error error => exact Chains.trans one (second error after)
  | ok => exact one

theorem minor {relation : World σ → World σ → Prop} [AllowsMinor relation]
    {attempt : Attempt σ α} (minor : Attempt.Within Minor attempt) :
    Attempt.Within relation attempt :=
  Action.Within.minor minor

theorem upkeep {relation : World σ → World σ → Prop} [AllowsUpkeep relation]
    {attempt : Attempt σ α} (upkeep : Attempt.Within Upkeep attempt) :
    Attempt.Within relation attempt :=
  Action.Within.upkeep upkeep

theorem slight {relation : World σ → World σ → Prop} [AllowsSlight relation]
    {attempt : Attempt σ α} (slight : Attempt.Within Slight attempt) :
    Attempt.Within relation attempt :=
  Action.Within.slight slight

end Attempt.Within

end Combining

/-! ## Contents -/

namespace World

variable (world : World σ)

theorem upkeep_updateBinding (id : BindingId)
    {change : LiveBinding → LiveBinding}
    (same :
      ∀ old, (change old).widget = old.widget ∧ (change old).busy = old.busy) :
    Upkeep world (world.updateBinding id change) := by
  refine ⟨.of_minor ⟨rfl, rfl, rfl, Store.size_update .., fun other => ?_, rfl,
    fun _ => rfl⟩ rfl rfl, .of_eq rfl rfl rfl rfl rfl rfl rfl, fun _ => rfl,
    rfl, rfl, rfl, rfl⟩
  rw [binding?_updateBinding]
  split
  · cases world.binding? other with
    | none => rfl
    | some old => exact congrArg some (Prod.ext (same old).1 (same old).2)
  · rfl

theorem slight_updateHandle (id : HandleId) {change : Handle → Handle}
    (same : ∀ old, (change old).imports = old.imports) :
    Slight world (world.updateHandle id change) := by
  refine .of_minor ⟨rfl, rfl, rfl, rfl, fun _ => rfl, Store.size_update ..,
    fun other => ?_⟩ rfl rfl
  simp only [World.handle, updateHandle, Store.get?_update]
  split
  · cases world.handles.get? other.index with
    | none => rfl
    | some old => exact same old
  · rfl

theorem upkeep_updateHandle (id : HandleId) {change : Handle → Handle}
    (same :
      ∀ old,
        (change old).imports = old.imports ∧
        (change old).controller = old.controller) :
    Upkeep world (world.updateHandle id change) :=
  ⟨world.slight_updateHandle id fun old => (same old).1,
    world.lasts_updateHandle id fun old => (same old).2, fun _ => rfl, rfl,
    rfl, rfl, rfl⟩

/-- A widget changes, but not its place in the tree. -/
theorem slight_updateWidget (id : WidgetId) {change : Widget → Widget}
    (same :
      ∀ old,
        (change old).children = old.children ∧ (change old).parent = old.parent) :
    Slight world (world.updateWidget id change) where
  toMinor := .of_eq rfl rfl rfl rfl rfl
  widgetCount := Store.size_update ..
  tree other :=
    ⟨widget_project world id other change Widget.children fun old =>
      (same old).1, widget_project world id other change Widget.parent
        fun old => (same old).2⟩
  places _ := rfl

/-- A loop changes, but not its place in the tree. -/
theorem slight_updateBlock (id : BlockId) {change : Block → Block}
    (same : ∀ old, (change old).parent = old.parent) :
    Slight world (world.updateBlock id change) where
  toMinor := .of_eq rfl rfl rfl rfl rfl
  widgetCount := rfl
  tree _ := ⟨rfl, rfl⟩
  places other := by
    rw [block?_updateBlock]
    split
    · cases world.block? other with
      | none => rfl
      | some old => exact congrArg some (same old)
    · rfl

/-- The items of a loop change, or whether it is owned. -/
theorem upkeep_updateBlock (id : BlockId) {change : Block → Block}
    (same : ∀ old, (change old).plan = old.plan) :
    Upkeep world (world.updateBlock id change) := by
  refine ⟨?_, world.lasts_updateBlock id same, fun _ => rfl, rfl, rfl, rfl, rfl⟩
  refine world.slight_updateBlock id ?_
  intro old
  exact congrArg (fun plan => plan.2.2.1) (same old)

theorem upkeep_updateItem (id : ItemId) (change : Item → Item) :
    Upkeep world (world.updateItem id change) :=
  ⟨.of_eq rfl rfl rfl rfl rfl rfl rfl, world.lasts_updateItem id change,
    fun _ => rfl, rfl, rfl, rfl, rfl⟩

theorem upkeep_updatePropertyListeners (object : ObjectId)
    (change : Listeners PropertyListener → Listeners PropertyListener) :
    Upkeep world (world.updatePropertyListeners object change) := by
  rw [updatePropertyListeners_eq]
  cases world.announcer object with
  | inl bag =>
    exact ⟨.of_eq rfl rfl rfl rfl rfl rfl rfl,
      world.lasts_updateBag bag fun _ => rfl, fun _ => rfl, rfl, rfl, rfl, rfl⟩
  | inr widget =>
    refine ⟨world.slight_updateWidget widget fun _ => ⟨rfl, rfl⟩,
      world.lasts_updateWidget widget fun _ => ⟨rfl, rfl⟩, ?_, rfl,
      rfl, rfl, rfl⟩
    intro other
    exact widget_project world widget other _ Widget.fields fun _ => rfl

theorem upkeep_foldl (release : World σ → α → World σ)
    (each : ∀ (world : World σ) (item : α), Upkeep world (release world item))
    (items : List α) (world : World σ) :
    Upkeep world (items.foldl release world) := by
  induction items generalizing world with
  | nil => exact .refl world
  | cons item rest hypothesis => exact (each world item).trans (hypothesis _)

theorem upkeep_cancelListener (record : Subscription) :
    Upkeep world (world.cancelListener record) := by
  cases record with
  | object id number =>
    exact world.upkeep_updatePropertyListeners id (·.unsubscribe number)
  | list id number =>
    exact ⟨.of_eq rfl rfl rfl rfl rfl rfl rfl,
      world.lasts_updateList id fun _ => rfl, fun _ => rfl, rfl, rfl, rfl, rfl⟩
  | binding => exact .refl world

theorem upkeep_cancelBinding (id : BindingId) :
    Upkeep world (world.cancelBinding id) := by
  unfold cancelBinding
  split
  · exact .refl world
  · have released :
        Upkeep world (world.updateBinding id fun old =>
          { old with subscriptions := [] }) :=
      world.upkeep_updateBinding id fun _ => ⟨rfl, rfl⟩
    exact released.trans (upkeep_foldl cancelListener upkeep_cancelListener _ _)

theorem upkeep_cancel (record : Subscription) :
    Upkeep world (world.cancel record) := by
  cases record with
  | binding id => exact world.upkeep_cancelBinding id
  | object id number => exact world.upkeep_cancelListener (.object id number)
  | list id number => exact world.upkeep_cancelListener (.list id number)

theorem upkeep_cancelItem (id : ItemId) : Upkeep world (world.cancelItem id) :=
  (world.upkeep_updateItem id _).trans (upkeep_foldl cancel upkeep_cancel _ _)

theorem upkeep_cancelHandle (id : HandleId) :
    Upkeep world (world.cancelHandle id) := by
  have released :
      Upkeep world (world.updateHandle id fun old =>
        { old with subscriptions := [] }) :=
    world.upkeep_updateHandle id fun _ => ⟨rfl, rfl⟩
  exact released.trans (upkeep_foldl cancel upkeep_cancel _ _)

/-- Sweeping is upkeep. -/
theorem upkeep_sweepWithin (rounds : Nat) (world : World σ) :
    Upkeep world (sweepWithin rounds world) := by
  induction rounds generalizing world with
  | zero => exact .refl world
  | succ rounds hypothesis =>
    rw [sweepWithin]
    split
    · exact .refl world
    · have blocks :=
        upkeep_foldl releaseBlock
          (fun world id => world.upkeep_updateBlock id fun _ => rfl)
          world.unownedBlocks world
      have items :=
        upkeep_foldl releaseItem
          (fun world id => (world.upkeep_cancelItem id).trans
            (upkeep_updateItem _ id _)) world.unownedItems
          (world.unownedBlocks.foldl releaseBlock world)
      exact (blocks.trans items).trans (hypothesis _)

theorem upkeep_sweep : Upkeep world world.sweep :=
  upkeep_sweepWithin _ world

theorem upkeep_keepSubscription (keeper : SubscriptionKeeper)
    (record : Subscription) :
    Upkeep world (world.keepSubscription keeper record) := by
  cases keeper with
  | handle id => exact world.upkeep_updateHandle id fun _ => ⟨rfl, rfl⟩
  | item id => exact world.upkeep_updateItem id _

theorem upkeep_readField (field : Field) :
    Upkeep world (world.readField field).2 := by
  rcases field with _ | texts | content
  · exact .refl world
  · exact ⟨.of_eq rfl rfl rfl rfl rfl rfl rfl,
      world.lasts_newList (texts.map .text), fun _ => rfl, rfl, rfl, rfl, rfl⟩
  · cases content <;> exact .refl world

theorem upkeep_loaded (loaded : Nat) : Upkeep world { world with loaded } :=
  ⟨.of_eq rfl rfl rfl rfl rfl rfl rfl, .of_eq rfl rfl rfl rfl rfl rfl rfl,
    fun _ => rfl, rfl, rfl, rfl, rfl⟩

theorem slight_cancelBinding (id : BindingId) :
    Slight world (world.cancelBinding id) :=
  (world.upkeep_cancelBinding id).toSlight

theorem slight_cancelHandle (id : HandleId) :
    Slight world (world.cancelHandle id) :=
  (world.upkeep_cancelHandle id).toSlight

theorem slight_sweep : Slight world world.sweep :=
  world.upkeep_sweep.toSlight

theorem slight_keepSubscription (keeper : SubscriptionKeeper)
    (record : Subscription) :
    Slight world (world.keepSubscription keeper record) :=
  (world.upkeep_keepSubscription keeper record).toSlight

theorem minor_removeChild (parent child : WidgetId) :
    Minor world (world.removeChild parent child) := by
  unfold removeChild
  split
  · exact .of_eq rfl rfl rfl rfl rfl
  · exact .refl world

theorem minor_addChild (parent child : WidgetId) :
    Minor world (world.addChild parent child) := by
  have detached : Minor world (world.detach child) := by
    unfold detach
    split
    · exact world.minor_removeChild _ child
    · exact .refl world
  exact detached.trans (.of_eq rfl rfl rfl rfl rfl)

end World

instance {relation : World σ → World σ → Prop} [AllowsUpkeep relation] :
    AllowsReading relation where
  readField world field := AllowsUpkeep.upkeep (world.upkeep_readField field)
  loaded world loaded := AllowsUpkeep.upkeep (world.upkeep_loaded loaded)

/-! ## Evaluating -/

section Evaluating

variable {relation : World σ → World σ → Prop} [AllowsReading relation]
  {context : EvaluationContext}

theorem within_read (object : ObjectId) (name : String) :
    Action.Within relation (object.read name : Action σ (Option Value)) := by
  intro world
  rw [World.read_apply]
  split
  · exact Chains.refl world
  · exact AllowsReading.readField world _

/-- A property is read within a relation if it is listened to within it. -/
theorem within_readProperty
    (watches :
      ∀ object name,
        Action.Within relation (context.watch object name : Action σ Unit))
    (value : Value) (name : String) :
    Attempt.Within relation (context.readProperty value name :
      Attempt σ Value) := by
  have missing : Attempt.Within relation (do
      throw (.propertyNotFound ((← getThe (World σ)).typeName value) name) :
        Attempt σ Value) :=
    .bind .getThe fun _ => .throw _
  cases value with
  | object object =>
    refine .bind (.lift (watches object name)) fun _ =>
      .bind (.lift (within_read object name)) fun found => ?_
    cases found with
    | some value => exact .pure value
    | none => exact missing
  | map entries =>
    simp only [EvaluationContext.readProperty]
    split
    · exact .pure _
    · exact missing
  | vec2 vector =>
    simp only [EvaluationContext.readProperty]
    split
    · exact .pure _
    · exact .pure _
    · exact missing
  | color color =>
    simp only [EvaluationContext.readProperty]
    split
    · exact .pure _
    · exact .pure _
    · exact .pure _
    · exact .pure _
    · exact missing
  | list list =>
    simp only [EvaluationContext.readProperty]
    split
    · exact .bind .getThe fun _ => .pure _
    · exact missing
  | _ => exact missing

/-- Resolving a reference does no more than to watch what it passes. -/
theorem within_resolve
    (watches :
      ∀ object name,
        Action.Within relation (context.watch object name : Action σ Unit)) :
    (target : Reference) →
    Attempt.Within relation (context.resolve target : Attempt σ Value)
  | .global name _ => by
    unfold EvaluationContext.resolve
    split
    · split
      · exact .pure _
      · refine .bind .getThe fun world => ?_
        split
        · exact .pure _
        · exact .throw _
    · refine .bind .getThe fun world => ?_
      split
      · exact .pure _
      · exact .throw _
  | .aliased name _ => by
    unfold EvaluationContext.resolve
    refine .bind .getThe fun world => ?_
    split
    · exact .pure _
    · exact .throw _
  | .local name _ => by
    unfold EvaluationContext.resolve
    split
    · exact .pure _
    · exact .throw _
  | .property base name _ =>
    .bind (within_resolve watches base) fun _ => within_readProperty watches _ _

theorem within_loadResource (path : String) :
    Attempt.Within relation (EvaluationContext.loadResource path :
      Attempt σ Value) := by
  intro world
  unfold EvaluationContext.loadResource
  rw [Attempt.bind_run, Attempt.getThe_run]
  simp only
  split
  · exact Chains.refl world
  · exact AllowsReading.loaded world _

theorem within_component (what : String) (value : Value) :
    Attempt.Within relation (EvaluationContext.component what value :
      Attempt σ Float32) := by
  unfold EvaluationContext.component
  split
  · exact .pure _
  · exact .bind .getThe fun _ => .throw _

mutual

/-- An expression is evaluated within a relation if properties are listened to
within it. -/
theorem within_eval
    (watches :
      ∀ object name,
        Action.Within relation (context.watch object name : Action σ Unit)) :
    (expr : Expr) →
    Attempt.Within relation (context.eval expr : Attempt σ Value)
  | .int _ _ | .float _ _ | .bool _ _ | .text _ _ | .null _ => by
    simp only [EvaluationContext.eval]
    exact .pure _
  | .vec2 x y _ => by
    simp only [EvaluationContext.eval]
    exact .bind (within_eval watches x) fun _ =>
      .bind (within_component _ _) fun _ =>
      .bind (within_eval watches y) fun _ =>
        .bind (within_component _ _) fun _ => .pure _
  | .color red green blue alpha _ => by
    simp only [EvaluationContext.eval]
    exact .bind (within_eval watches red) fun _ =>
      .bind (within_component _ _) fun _ =>
      .bind (within_eval watches green) fun _ =>
        .bind (within_component _ _) fun _ =>
      .bind (within_eval watches blue) fun _ =>
        .bind (within_component _ _) fun _ =>
      .bind (within_eval watches alpha) fun _ =>
        .bind (within_component _ _) fun _ => .pure _
  | .object entries _ => by
    simp only [EvaluationContext.eval]
    exact .bind (within_evalEntries watches entries) fun _ => .pure _
  | .resource path _ => by
    simp only [EvaluationContext.eval]
    refine .bind (within_eval watches path) fun value => ?_
    split
    · exact within_loadResource _
    · exact .bind .getThe fun _ => .throw _
  | .style box none _ => by
    simp only [EvaluationContext.eval]
    exact .pure _
  | .style box (some properties) _ => by
    simp only [EvaluationContext.eval]
    refine .bind (within_eval watches properties) fun value => ?_
    split
    · exact .pure _
    · exact .pure _
    · exact .bind .getThe fun _ => .throw _
  | .reference target => by
    simp only [EvaluationContext.eval]
    exact within_resolve watches target
  | .applyPrefix op right _ _ => by
    simp only [EvaluationContext.eval]
    exact .bind (within_eval watches right) fun _ =>
      .bind .getThe fun _ => .except _
  | .applyInfix op left right _ _ => by
    simp only [EvaluationContext.eval]
    exact .bind (within_eval watches left) fun _ =>
      .bind (within_eval watches right) fun _ =>
      .bind .getThe fun _ => .except _

theorem within_evalEntries
    (watches :
      ∀ object name,
        Action.Within relation (context.watch object name : Action σ Unit)) :
    (entries : List (String × Expr)) →
    Attempt.Within relation (context.evalEntries entries :
      Attempt σ (List (String × Value)))
  | [] => by
    simp only [EvaluationContext.evalEntries]
    exact .pure _
  | (_, expr) :: rest => by
    simp only [EvaluationContext.evalEntries]
    exact .bind (within_eval watches expr) fun _ =>
      .bind (within_evalEntries watches rest) fun _ =>
      .pure _

end

end Evaluating

theorem upkeep_subscribe (object : ObjectId) (listener : PropertyListener) :
    Action.Within Upkeep (object.subscribe listener : Action σ Nat) :=
  .bind .get fun _ =>
    .bind (.modify fun world => world.upkeep_updatePropertyListeners _ _)
      fun _ =>
        .pure _

theorem upkeep_watch (context : EvaluationContext) (object : ObjectId)
    (name : String) :
    Action.Within Upkeep (context.watch object name : Action σ Unit) := by
  unfold EvaluationContext.watch
  split
  · exact .pure _
  · refine .bind .get fun _ => ?_
    split
    · exact .pure _
    · split
      · exact .pure _
      · exact .bind (upkeep_subscribe _ _) fun _ =>
          .modify fun world => world.upkeep_updateBinding _ fun _ => ⟨rfl, rfl⟩

theorem upkeep_eval (context : EvaluationContext) (expr : Expr) :
    Attempt.Within Upkeep (context.eval expr : Attempt σ Value) :=
  within_eval (upkeep_watch context) expr

/-- Evaluating a live property is upkeep. -/
theorem upkeep_evaluate (id : BindingId) :
    Attempt.Within Upkeep (id.evaluate : Attempt σ Value) := by
  refine Action.Within.bind
    (.modify fun world => (world.upkeep_cancelBinding id).trans
      (World.upkeep_updateBinding _ id fun _ => ⟨rfl, rfl⟩)) fun _ =>
    .bind .get fun world => ?_
  split
  · exact .pure _
  · refine .bind (upkeep_eval _ _) ?_
    intro _
    exact .bind (.modify fun world => world.upkeep_updateBinding id fun _ =>
      ⟨rfl, rfl⟩) fun _ => .pure _

theorem slight_eval (context : EvaluationContext) (expr : Expr) :
    Attempt.Within Slight (context.eval expr : Attempt σ Value) :=
  .upkeep (upkeep_eval context expr)

theorem slight_evaluate (id : BindingId) :
    Attempt.Within Slight (id.evaluate : Attempt σ Value) :=
  .upkeep (upkeep_evaluate id)

/-! ## Widgets -/

/-- The widget set is asked for a property before it writes it. -/
theorem Toolkit.setProperty_run (deliver : Deliver σ) (widget : WidgetId)
    (name : String) (value : Value) (world : World σ) :
    (Toolkit.setProperty deliver widget name value).run world =
      (widget.write deliver name value).run
        (world.record (.set widget name (world.shown value))) := by
  rw [Toolkit.setProperty, Attempt.bind_run, Attempt.modifyThe_run]

/-- And so it is before it reads one. -/
theorem Toolkit.getProperty_run (widget : WidgetId) (name : String)
    (world : World σ) :
    (Toolkit.getProperty widget name : Attempt σ Value).run world =
      (widget.read name).run (world.record (.get widget name)) := by
  rw [Toolkit.getProperty, Attempt.bind_run, Attempt.modifyThe_run]

/-- The widget that a call of the widget set reads or writes a property or a
style of. -/
def ToolkitCall.accessed? : ToolkitCall → Option WidgetId
  | .set widget _ _ | .get widget _ | .style widget _ _ _ => some widget
  | _ => none

/-- A relation allows that the widget set is asked for the properties and styles
of a widget, and writes them. -/
structure Opens (relation : World σ → World σ → Prop) (widget : WidgetId) :
    Prop where
  record : ∀ (world : World σ) (call : ToolkitCall), call.accessed? = some widget →
    relation world (world.record call)
  sets :
      ∀ (world : World σ) (name shown : String)
          (fields : List (String × Field)),
        relation world ((world.record (.set widget name shown)).updateWidget
          widget ({ · with fields }))
  overrides :
      ∀ (world : World σ) (change : List StyleOverride → List StyleOverride),
        relation world (world.updateWidget widget fun old =>
          { old with overrides := change old.overrides })

theorem AllowsSlight.opens {relation : World σ → World σ → Prop}
    [AllowsSlight relation] (widget : WidgetId) : Opens relation widget where
  record _ _ _ := AllowsSlight.slight (.of_eq rfl rfl rfl rfl rfl rfl rfl)
  sets world name shown fields := by
    have asked : Slight world (world.record (.set widget name shown)) :=
      .of_eq rfl rfl rfl rfl rfl rfl rfl
    exact AllowsSlight.slight
      (asked.trans (World.slight_updateWidget _ widget fun _ => ⟨rfl, rfl⟩))
  overrides world _ :=
    AllowsSlight.slight (world.slight_updateWidget widget fun _ => ⟨rfl, rfl⟩)

theorem Opens.overrideStyle {relation : World σ → World σ → Prop}
    {widget : WidgetId} (opens : Opens relation widget) (key : String)
    (kind : StyleKind) (value : Value) :
    Action.Within relation (widget.overrideStyle key kind value :
      Action σ Unit) := by
  refine .modify fun world => ?_
  have same : (fun old : Widget =>
      let entry : StyleOverride := ⟨key, kind, value⟩
      if old.overrides.any (·.key == key) then
        { old with overrides := old.overrides.map fun other => if other.key ==
          key then entry else other }
      else { old with overrides := old.overrides ++ [entry] }) = fun old : Widget =>
        { old with overrides := if old.overrides.any (·.key == key) then
            old.overrides.map fun other => if other.key == key
              then ⟨key, kind, value⟩ else other
          else old.overrides ++ [⟨key, kind, value⟩] } := by
    funext old
    dsimp only
    split <;> rfl
  exact same ▸ opens.overrides world fun old => if old.any (·.key == key) then
    old.map fun other => if other.key == key then ⟨key, kind, value⟩ else other
      else old ++ [⟨key, kind, value⟩]

section Writing

variable {relation : World σ → World σ → Prop} [AllowsReading relation]
  {deliver : Deliver σ}
  {widget : WidgetId}

theorem within_readWidget (widget : WidgetId) (name : String) :
    Attempt.Within relation (widget.read name : Attempt σ Value) := by
  refine .bind (.lift (within_read _ _)) fun found => ?_
  cases found with
  | some => exact .pure _
  | none => exact .bind .getThe fun _ => .throw _

theorem Opens.getProperty (opens : Opens relation widget) (name : String) :
    Attempt.Within relation (Toolkit.getProperty widget name : Attempt σ Value) :=
  .bind (.modifyThe fun world => opens.record world _ rfl) fun _ =>
    within_readWidget widget name

/-- Applying style entries stays within what a widget allows. -/
theorem Opens.applyOverrides (opens : Opens relation widget)
    (entries : List (String × Value)) :
    Attempt.Within relation (applyOverrides widget entries :
      Attempt σ Unit) := by
  induction entries with
  | nil => exact .pure _
  | cons entry rest hypothesis =>
    refine .bind .getThe fun world => ?_
    simp only
    split
    · exact .throw _
    · exact .bind (.lift
        (.bind (.modify fun world => opens.record world _ rfl) fun _ =>
          opens.overrideStyle _ _ _)) fun _ => hypothesis

/-- The widget set is asked for a property, and writes what the property
converts; then the property is announced. -/
theorem Opens.setProperty (opens : Opens relation widget)
    (notifies :
      ∀ changed,
        Action.Within relation
          (ObjectId.notify deliver (.widget widget) changed)) (key : String)
    (value : Value) :
    Attempt.Within relation (Toolkit.setProperty deliver widget key value) := by
  intro world
  rw [Toolkit.setProperty_run, WidgetId.write_run]
  cases ((world.record (.set widget key (world.shown value))).widget
    widget).cls.property? key with
  | none => exact opens.record world _ rfl
  | some property =>
    dsimp only
    split
    · exact opens.sets world key _ _
    · exact Chains.trans (opens.sets world key _ _) (notifies property.name _)

/-- A property is given a value within a relation that allows to write it and to
announce that. -/
theorem Opens.applyProperty (opens : Opens relation widget)
    (notifies :
      ∀ changed,
        Action.Within relation
          (ObjectId.notify deliver (.widget widget) changed)) (key : String)
    (value : Value) :
    Attempt.Within relation (applyProperty deliver widget key value) := by
  have sets := opens.setProperty notifies key
  unfold LiveMarkup.applyProperty
  split
  · split
    · exact opens.applyOverrides _
    · exact .bind .getThe fun _ => .throw _
  · split
    · refine .bind (opens.getProperty _) fun old => ?_
      split
      · exact sets _
      · exact sets _
    · exact sets _

end Writing

/-- A property is written by itself within a relation that allows slight changes
and to announce the property. -/
theorem within_write {relation : World σ → World σ → Prop}
    [AllowsSlight relation] {deliver : Deliver σ} {widget : WidgetId}
    (notifies :
      ∀ changed,
        Action.Within relation
          (ObjectId.notify deliver (.widget widget) changed)) (name : String)
    (value : Value) :
    Attempt.Within relation (widget.write deliver name value) := by
  intro world
  rw [WidgetId.write_run]
  cases (world.widget widget).cls.property? name with
  | none => exact Chains.refl world
  | some property =>
    have assigned : ∀ fields,
        relation world (world.updateWidget widget ({ · with fields })) :=
      fun fields => AllowsSlight.slight
        (world.slight_updateWidget widget fun _ => ⟨rfl, rfl⟩)
    dsimp only
    split
    · exact assigned _
    · exact Chains.trans (assigned _) (notifies property.name _)

theorem slight_getProperty (widget : WidgetId) (name : String) :
    Attempt.Within Slight (Toolkit.getProperty widget name : Attempt σ Value) :=
  (AllowsSlight.opens widget).getProperty name

theorem slight_applyOverrides (widget : WidgetId)
    (entries : List (String × Value)) :
    Attempt.Within Slight (applyOverrides widget entries : Attempt σ Unit) :=
  (AllowsSlight.opens widget).applyOverrides entries

theorem slight_event (widget : WidgetId) (name : String) :
    Attempt.Within Slight (widget.event name : Attempt σ String) := by
  refine .bind .getThe fun world => ?_
  simp only
  split
  · exact .pure _
  · exact .throw _

theorem slight_report (error : UiError) :
    Action.Within Slight (report error : Action σ Unit) :=
  .modify fun _ => .of_eq rfl rfl rfl rfl rfl rfl rfl

theorem slight_buildSignal (handle : HandleId) (widget : WidgetId)
    (signal : Signal) :
    Attempt.Within Slight (buildSignal handle widget signal :
      Attempt σ Unit) := by
  refine .bind .getThe fun world => ?_
  simp only
  split
  · exact .throw _
  · split
    · exact .throw _
    · exact .bind (.modifyThe fun _ => .of_eq rfl rfl rfl rfl rfl rfl rfl) fun _ =>
        .bind (slight_event _ _) fun _ => .modifyThe fun world =>
          world.slight_updateWidget widget fun _ => ⟨rfl, rfl⟩

theorem Toolkit.minor_addChild (parent child : WidgetId) :
    Action.Within Minor (Toolkit.addChild parent child : Action σ Unit) :=
  .bind (.modify fun _ => .of_eq rfl rfl rfl rfl rfl) fun _ =>
    .modify fun world => world.minor_addChild parent child

theorem Toolkit.minor_moveChild (parent child : WidgetId) (index : Nat) :
    Action.Within Minor (Toolkit.moveChild parent child index : Action σ Unit) :=
  .bind (.modify fun _ => .of_eq rfl rfl rfl rfl rfl) fun _ =>
    .modify fun _ => .of_eq rfl rfl rfl rfl rfl

/-! ## Taking away what loops have built -/

section Teardown

variable {relation : World σ → World σ → Prop} [AllowsUpkeep relation]
  (removes : ∀ parent child,
    Action.Within relation (Toolkit.removeChild parent child : Action σ Unit))
include removes

theorem within_removeFromParent (widget : WidgetId) :
    Action.Within relation (removeFromParent widget : Action σ Unit) := by
  refine .bind .get fun world => ?_
  split
  · exact removes _ widget
  · exact .pure _

/-- Taking an item down stays within what taking down allows. -/
theorem within_teardownItem (depth : Nat) (item : ItemId) :
    Action.Within relation (teardownItem depth item : Action σ Unit) := by
  induction depth generalizing item with
  | zero => exact .pure _
  | succ depth hypothesis =>
    exact .bind .get fun _ =>
      .bind (.upkeep (.modify fun world => world.upkeep_updateItem item _))
      fun _ => .bind (.forM fun _ _ => .bind .get fun _ =>
        .bind (.upkeep (.modify fun world => world.upkeep_updateBlock _ fun _ =>
          rfl)) fun _ =>
          .forM fun item _ => hypothesis item) fun _ =>
            .bind (.upkeep (.modify fun world => world.upkeep_cancelItem item))
              fun _ =>
              .bind .get fun _ =>
                .bind (.upkeep (.modify fun world =>
                  world.upkeep_updateItem item _)) fun _ =>
                  .forM fun widget _ => within_removeFromParent removes widget

/-- What was built for an item is taken away within a relation that allows to
take children away. -/
theorem within_teardown (item : ItemId) :
    Action.Within relation (item.teardown : Action σ Unit) :=
  .bind .get fun _ => within_teardownItem removes _ _

end Teardown

/-- To take a child away by the widget set is within a relation that allows
slight changes and to take it away. -/
theorem Toolkit.within_removeChild {relation : World σ → World σ → Prop}
    [AllowsSlight relation]
    (removes :
      ∀ (world : World σ) (parent child : WidgetId),
        relation world (world.removeChild parent child))
    (parent child : WidgetId) :
    Action.Within relation (Toolkit.removeChild parent child : Action σ Unit) :=
  .bind (.slight (.modify fun _ => .of_eq rfl rfl rfl rfl rfl rfl rfl)) fun _ =>
    .modify fun world => removes world parent child

end LiveMarkup
