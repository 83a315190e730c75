import LiveMarkup.Proofs.World.Operations
import LiveMarkup.Proofs.World.Outcomes

/-!
# Building within a relation

To build a document is to put new widgets below others.  A relation may allow
that only as long as these are there.  So building is followed through for a
family of relations, one for every list of widgets that are known to be there; a
relation that does not mind is a family with the same relation for all lists.

A new widget is put into the tree when everything below it is in place.  What a
family must allow is therefore the whole step from the world before the widget
was made to the one in which it has its parent.
-/

namespace LiveMarkup

variable {σ α : Type}

open World (Minor Slight)

/-- A family of relations, one for every list of widgets that are known to be
there, that allows what happens while a document is built.  That a widget has
been built since some world is stated along with it. -/
class AllowsGrafting (family : List WidgetId → World σ → World σ → Prop)
    (builds : outParam (List WidgetId → World σ → WidgetId → World σ → Prop)) :
    Prop where
  wider : ∀ {known more world after},
      known ⊆ more → family known world after → family more world after
  create : ∀ known world cls,
      builds known world ⟨world.widgets.size⟩ (world.newWidget cls).2
  before : ∀ {known world middle widget after}, family known world middle →
    builds known middle widget after → builds known world widget after
  later : ∀ {known world widget middle after}, builds known world widget middle →
    family (widget :: known) middle after → builds known world widget after
  within : ∀ {known world widget after},
      builds known world widget after → family known world after
  graft : ∀ {known world parent widget after},
      parent ∈ known → builds known world widget after →
      family known world (after.addChild parent widget)
  block : ∀ {known} (world : World σ) {block : Block}, block.parent ∈ known →
    family known world { world with blocks := world.blocks.add block }
  place : ∀ {known world after id block}, world.block? id = some block →
    family (block.parent :: known) world after → family known world after
  removeChild : ∀ known (world : World σ) parent child,
      family known world (world.removeChild parent child)
  moveChild : ∀ known (world : World σ) parent child index,
    family known world (world.moveChild parent child index)

/-- A relation that allows minor changes does not mind where widgets are put. -/
instance {relation : World σ → World σ → Prop} [AllowsBuilding relation] :
    AllowsGrafting (fun _ => relation) fun _ world _ after =>
      relation world after where
  wider _ same := same
  create _ _ _ := AllowsMinor.minor (.of_eq rfl rfl rfl rfl rfl)
  before := Chains.trans
  later := Chains.trans
  within same := same
  graft _ built :=
    Chains.trans built (AllowsMinor.minor (World.minor_addChild _ _ _))
  block _ _ _ := AllowsMinor.minor (.of_eq rfl rfl rfl rfl rfl)
  place _ same := same
  removeChild _ world _ _ := AllowsMinor.minor (world.minor_removeChild _ _)
  moveChild _ _ _ _ _ := AllowsMinor.minor (.of_eq rfl rfl rfl rfl rfl)

/-! ## New widgets -/

/-- Whatever an attempt returns is the given result. -/
def Attempt.Returns (attempt : Attempt σ α) (result : α) : Prop :=
  ∀ world found after, attempt.run world = (.ok found, after) → found = result

theorem Attempt.Returns.pure (result : α) :
    (Pure.pure result : Attempt σ α).Returns result := by
  intro world found after ran
  cases ran
  rfl

theorem Attempt.Returns.bind {β : Type} {attempt : Attempt σ β}
    {next : β → Attempt σ α} {result : α}
    (each : ∀ found, (next found).Returns result) :
    (attempt >>= next).Returns result := by
  intro world found after ran
  obtain ⟨between, middle, -, ran⟩ := Attempt.bind_ok ran
  exact each between middle found after ran

theorem Attempt.Returns.attempting {things : List Owned}
    {attempt : Attempt σ α} {result : α} (returns : attempt.Returns result) :
    (LiveMarkup.attempting things attempt).Returns result := by
  intro world found after ran
  have inner : (attempt.run (world.pin things)).1 = .ok found :=
    congrArg Prod.fst ran
  exact returns _ found _ (Prod.ext inner rfl)

section Building

variable {family : List WidgetId → World σ → World σ → Prop}
  {builds : List WidgetId → World σ → WidgetId → World σ → Prop}
    {known : List WidgetId}
  {deliver : Deliver σ}

/-- Whether it fails or not, an attempt is within a family; if it succeeds, it
has built a widget. -/
def Attempt.Builds (family : List WidgetId → World σ → World σ → Prop)
    (builds : List WidgetId → World σ → WidgetId → World σ → Prop)
    (known : List WidgetId) (attempt : Attempt σ WidgetId) : Prop :=
  ∀ world, attempt.Ends world (builds known world) (family known world)

namespace Attempt.Builds

variable {attempt : Attempt σ WidgetId}

/-- A widget is built, and what follows takes both into account. -/
theorem bind {next : WidgetId → Attempt σ α}
    (built : attempt.Builds family builds known)
    (rest :
      ∀ world widget middle,
        builds known world widget middle →
        family known world ((next widget).run middle).2) :
    Attempt.Within (family known) (attempt >>= next) := by
  intro world
  rw [Attempt.bind_run]
  rcases ran : attempt.run world with ⟨outcome, middle⟩
  cases outcome with
  | error error => exact (built world).failure error middle ran
  | ok widget =>
    exact rest world widget middle ((built world).success widget middle ran)

variable [AllowsGrafting family builds]

theorem within (built : attempt.Builds family builds known) :
    Attempt.Within (family known) attempt := by
  intro world
  rcases ran : attempt.run world with ⟨outcome, after⟩
  cases outcome with
  | error error => exact (built world).failure error after ran
  | ok widget =>
    exact AllowsGrafting.within ((built world).success widget after ran)

variable [∀ known, AllowsKeeping (family known)]

/-- A widget is built and goes on being worked at. -/
theorem workedAt {things : WidgetId → List Owned}
    {work : WidgetId → Attempt σ WidgetId}
    (built : attempt.Builds family builds known)
    (within : ∀ widget, Attempt.Within (family (widget :: known)) (work widget))
    (returns : ∀ widget, (work widget).Returns widget) :
    (attempt >>= fun widget => attempting (things widget) (work widget)).Builds
      family builds known := by
  refine fun world => (built world).bind (fun widget middle begun => ?_)
    fun _ failed => failed
  constructor
  · intro result after ran
    cases (returns widget).attempting middle result after ran
    exact AllowsGrafting.later begun
      ((within_attempting (within widget)).of_run ran)
  · intro error after ran
    exact AllowsGrafting.within
      (AllowsGrafting.later begun ((within_attempting (within widget)).of_run ran))

end Attempt.Builds

variable [grafting : AllowsGrafting family builds]
include grafting

/-- Callbacks that are within a family whatever is known are within it where
more is known. -/
theorem AllowsGrafting.delivers
    (delivers : Deliver.Within (family []) deliver) (known : List WidgetId) :
    Deliver.Within (family known) deliver := by
  intro callback stays world
  exact AllowsGrafting.wider (List.nil_subset known)
    (delivers callback stays world)

theorem AllowsGrafting.hears
    (delivers : ∀ callback, Action.Within (family []) (deliver callback))
    (known : List WidgetId) (callback : Callback) :
    Action.Within (family known) (deliver callback) := by
  intro world
  exact AllowsGrafting.wider (List.nil_subset known) (delivers callback world)

variable [∀ known, AllowsKeeping (family known)]

/-- A new widget is put below one that is there. -/
theorem AllowsGrafting.addChild {world after : World σ} {parent widget : WidgetId}
    (member : parent ∈ known) (built : builds known world widget after) :
    family known world (Toolkit.addChild parent widget after).2 := by
  have recorded :
      family (widget :: known) after (after.record (.add parent widget)) :=
    AllowsSlight.slight (.of_eq rfl rfl rfl rfl rfl rfl rfl)
  exact AllowsGrafting.graft member (AllowsGrafting.later built recorded)

theorem builds_create (name : String) :
    (Toolkit.create name : Attempt σ WidgetId).Builds family builds known := by
  intro world
  have recorded : family known world (world.record (.create name)) :=
    AllowsSlight.slight (.of_eq rfl rfl rfl rfl rfl rfl rfl)
  refine .modify (.get ?_)
  simp only
  split
  · exact .throw recorded
  · constructor <;> intro result after ran <;> cases ran
    exact AllowsGrafting.before recorded (AllowsGrafting.create family known _ _)

/-! ## Components and loops -/

theorem within_teardownIn (item : ItemId) :
    Action.Within (family known) (item.teardown : Action σ Unit) :=
  within_teardown (Toolkit.within_removeChild
    (AllowsGrafting.removeChild known)) item

/-- An item is built within a family, if it is filled so below a parent that is
known to be there. -/
theorem grafts_buildItem (block : BlockId) (index : Nat) (value : Value)
    {fill : ItemId → WidgetId → Scope → Attempt σ Unit}
    (fills :
      ∀ item parent scope,
        Attempt.Within (family (parent :: known)) (fill item parent scope)) :
    Attempt.Within (family known) (block.buildItem index value fill) := by
  intro world
  unfold BlockId.buildItem
  rw [Attempt.bind_run, Attempt.getThe_run]
  cases found : world.block? block with
  | none =>
    simp only [found]
    exact Chains.refl world
  | some old =>
    cases existing : world.existingWidget? old.parent with
    | none =>
      simp only [found, existing]
      exact Chains.refl world
    | some parent =>
      simp only [found, existing]
      have same : parent = old.parent := by
        unfold World.existingWidget? at existing
        split at existing
        · exact (Option.some.inj existing).symm
        · cases existing
      subst same
      have sets : ∀ change, Action.Within (family (old.parent :: known))
          (block.updateItems change : Action σ Unit) := fun change =>
        .slight (.modify fun world => world.slight_updateBlock block fun _ => rfl)
      have created :
          Action.Within (family (old.parent :: known))
            (ItemId.create : Action σ ItemId) :=
        .slight fun world => .of_eq rfl rfl rfl rfl rfl rfl rfl
      refine AllowsGrafting.place found (Attempt.Within.apply ?_ world)
      exact .bind (.lift created) fun item => .bind (.lift (sets _)) fun _ =>
        within_attempting (.tryCatch (fills _ _ _) fun _ =>
          .bind (.lift (within_teardownIn item)) fun _ =>
            .bind (.lift (sets _)) fun _ => .throw _)

theorem grafts_buildItems (block : BlockId)
    {fill : ItemId → WidgetId → Scope → Attempt σ Unit}
    (fills :
      ∀ item parent scope,
        Attempt.Within (family (parent :: known)) (fill item parent scope))
    (index : Nat) (values : List Value) :
    Attempt.Within (family known) (block.buildItems fill index values) := by
  induction values generalizing index with
  | nil => exact .pure _
  | cons value rest hypothesis =>
    exact .bind (grafts_buildItem block index value fills) fun _ => hypothesis _

set_option linter.unusedSectionVars false in
mutual

/-- A component is built within a family that allows it. -/
theorem builds_component (delivers : Deliver.Within (family []) deliver)
    (context : BuildContext) (known : List WidgetId) :
    (component : Component) → (scope : Scope) →
    (buildComponent deliver context component scope).Builds family builds known
  | ⟨name, aliasName, properties, signals, children, loops, _⟩, scope => by
    rw [buildComponent]
    refine (builds_create name).workedAt (fun widget => ?_) fun widget => ?_
    · have hears := AllowsGrafting.delivers delivers (widget :: known)
      have rest : Attempt.Within (family (widget :: known)) (do
          properties.forM (buildProperty deliver context.handle context.keeper
            widget scope)
          buildChildren deliver context widget children scope
          buildLoops deliver context widget loops none scope
          signals.forM (buildSignal context.handle widget)
          widget.becomeReady deliver
          return widget) :=
        .bind (.forM fun _ => within_buildProperty (within_notify hears) _ _ _
          _ _) fun _ =>
          .bind (grafts_children delivers context _ List.mem_cons_self children
            scope) fun _ =>
            .bind (grafts_loops delivers context _ List.mem_cons_self loops none
              scope) fun _ =>
              .bind (.forM fun _ => .slight (slight_buildSignal _ _ _)) fun _ =>
                .bind (within_becomeReady hears _) fun _ => .pure _
      split
      · exact .bind (.lift (.slight (.modify fun world =>
          world.slight_updateHandle _ fun _ => rfl))) fun _ => rest
      · exact rest
    · have returns : (do
          properties.forM (buildProperty deliver context.handle context.keeper
            widget scope)
          buildChildren deliver context widget children scope
          buildLoops deliver context widget loops none scope
          signals.forM (buildSignal context.handle widget)
          widget.becomeReady deliver
          return widget : Attempt σ WidgetId).Returns widget :=
        .bind fun _ => .bind fun _ => .bind fun _ => .bind fun _ =>
          .bind fun _ => .pure widget
      split
      · exact .bind fun _ => returns
      · exact returns

theorem grafts_children (delivers : Deliver.Within (family []) deliver)
    (context : BuildContext) (known : List WidgetId) {widget : WidgetId}
    (member : widget ∈ known) :
    (components : List Component) → (scope : Scope) →
    Attempt.Within (family known)
      (buildChildren deliver context widget components scope)
  | [], scope => by
    rw [buildChildren]
    exact .pure _
  | component :: rest, scope => by
    rw [buildChildren]
    refine (builds_component delivers context known component scope).bind
      fun world child middle built => ?_
    rw [Attempt.bind_run, Attempt.lift_run]
    exact Chains.trans (AllowsGrafting.addChild member built)
      ((grafts_children delivers context known member rest scope).apply _)

theorem grafts_loops (delivers : Deliver.Within (family []) deliver)
    (context : BuildContext) (known : List WidgetId) {widget : WidgetId}
    (member : widget ∈ known) :
    (loops : List Loop) → (previous : Option BlockId) → (scope : Scope) →
    Attempt.Within (family known)
      (buildLoops deliver context widget loops previous scope)
  | [], previous, scope => by
    rw [buildLoops]
    exact .pure _
  | loop :: rest, previous, scope => by
    rw [buildLoops]
    refine .bind .getThe fun _ =>
      .bind (grafts_loop delivers context known member _ loop scope)
        fun block => .bind (.modifyThe fun world => ?_) fun _ =>
        grafts_loops delivers context known member rest (some block) scope
    have kept : family known world (world.pin [.block block]) :=
      AllowsKeeping.pins world _
    exact Chains.trans kept (AllowsTending.unpin _ _)

theorem grafts_loop (delivers : Deliver.Within (family []) deliver)
    (context : BuildContext) (known : List WidgetId) {parent : WidgetId}
    (member : parent ∈ known) (anchor : Anchor) :
    (loop : Loop) → (scope : Scope) →
    Attempt.Within (family known)
      (buildLoop deliver context parent anchor loop scope)
  | ⟨source, itemType, indexName, valueName, children, loops, span⟩, scope => by
    rw [buildLoop]
    refine .bind (.slight (slight_eval _ _)) fun value => ?_
    split
    · refine .bind (.lift fun world => AllowsGrafting.block world member)
        fun block =>
        .bind .getThe fun _ => within_attempting (.bind
          (grafts_buildItems _ (fun item parent scope => ?_) _ _) fun _ =>
            .bind (.lift (.bind .get
            fun _ => .bind (.slight
              (.modify fun _ => .of_eq rfl rfl rfl rfl rfl rfl rfl)) fun _ =>
              .pure _)) fun _ => .bind (.modifyThe fun world => AllowsSlight.slight
                (world.slight_keepSubscription _ _)) fun _ => .pure _)
      exact .bind (grafts_fillChildren delivers _ _ block item
        List.mem_cons_self children scope) fun _ =>
        grafts_fillLoops delivers _ _ block item List.mem_cons_self loops scope
    · exact .bind .getThe fun _ => .throw _

theorem grafts_fillChildren (delivers : Deliver.Within (family []) deliver)
    (context : BuildContext) (known : List WidgetId) (block : BlockId)
    (item : ItemId) {parent : WidgetId} (member : parent ∈ known) :
    (components : List Component) → (scope : Scope) →
    Attempt.Within (family known)
      (fillChildren deliver context block item parent components scope)
  | [], scope => by
    rw [fillChildren]
    exact .pure _
  | component :: rest, scope => by
    rw [fillChildren]
    refine (builds_component delivers context known component scope).bind
      fun world child middle built => ?_
    simp only [Attempt.bind_run, Attempt.getThe_run, Attempt.lift_run]
    have moved : Action.Within (family known) (do
        Toolkit.moveChild parent child
          (((middle.block? block).map (middle.nextIndex parent · item)).getD 0)
        item.addWidget child : Action σ Unit) :=
      .bind
        (.bind (.slight (.modify fun _ => .of_eq rfl rfl rfl rfl rfl rfl rfl))
          fun _ =>
        .modify fun world => AllowsGrafting.moveChild known world _ _ _) fun _ =>
          .slight (.modify fun _ => .of_eq rfl rfl rfl rfl rfl rfl rfl)
    exact Chains.trans
      (Chains.trans (AllowsGrafting.addChild member built) (moved _))
      ((grafts_fillChildren delivers context known block item member rest
        scope).apply _)

theorem grafts_fillLoops (delivers : Deliver.Within (family []) deliver)
    (context : BuildContext) (known : List WidgetId) (block : BlockId)
    (item : ItemId) {parent : WidgetId} (member : parent ∈ known) :
    (loops : List Loop) → (scope : Scope) →
    Attempt.Within (family known)
      (fillLoops deliver context block item parent loops scope)
  | [], scope => by
    rw [fillLoops]
    exact .pure _
  | loop :: rest, scope => by
    rw [fillLoops]
    refine .bind .getThe ?_
    intro _
    refine .bind (grafts_loop delivers context known member _ loop scope) ?_
    intro _
    refine .bind (.lift
      (.slight (.modify fun _ => .of_eq rfl rfl rfl rfl rfl rfl rfl))) ?_
    intro _
    exact grafts_fillLoops delivers context known block item member rest scope

end

theorem grafts_removeItem (block : BlockId) (index : Nat) :
    Action.Within (family known) (block.removeItem index : Action σ Unit) := by
  refine .bind .get fun world => ?_
  simp only
  split
  · exact .pure _
  · exact within_keeping (.bind (.slight (.modify fun world =>
      world.slight_updateBlock block fun _ => rfl)) fun _ => within_teardownIn _)

/-- Following a change of a list builds below the widget of the loop only. -/
theorem grafts_follow (delivers : Deliver.Within (family []) deliver)
    (block : BlockId) (change : ListChange) :
    Action.Within (family known) (block.follow deliver change) := by
  refine .bind .get fun world => ?_
  split
  · exact .pure _
  · split
    · exact grafts_removeItem _ _
    all_goals
      refine .bind (grafts_buildItem _ _ _ fun item parent scope =>
        .bind (grafts_fillChildren delivers _ _ _ _ List.mem_cons_self _ _) fun _ =>
          grafts_fillLoops delivers _ _ _ _ List.mem_cons_self _ _)
            fun outcome => ?_
      split
      · exact .pure _
      · exact .slight (slight_report _)

end Building

/-! ## Documents -/

section Ending

variable {relation : World σ → World σ → Prop} [AllowsDocuments relation]
  {deliver : Deliver σ}
  (removes : ∀ (world : World σ) (parent child : WidgetId),
    relation world (world.removeChild parent child))
  (delivers : ∀ callback, Action.Within relation (deliver callback))
include removes delivers

/-- Taking a document down stays within what every step allows. -/
theorem within_teardownHandle (handle : HandleId) :
    Action.Within relation (handle.teardown deliver) := by
  refine .bind .get fun world =>
    .bind (.modify fun world => AllowsDocuments.updateHandle world _ _)
    fun _ => .bind (within_keeping (.forM fun _ _ => delivers _)) fun _ =>
      .bind (.modify fun world =>
        AllowsSlight.slight
          ((world.slight_cancelHandle handle).trans (World.slight_sweep _)))
        fun _ =>
        .bind .get fun world => ?_
  split
  · exact .pure _
  · refine within_keeping
      (.bind (.modify fun world => AllowsDocuments.updateHandle world _ _)
        fun _ =>
      .bind .get fun world => ?_)
    split
    · exact .modify fun world => removes world _ _
    · exact .pure _

/-- A document is taken down within a relation that allows to take children away. -/
theorem within_disposal (handle : HandleId) :
    Action.Within relation (handle.dispose deliver) :=
  within_keeping (.bind (.modify fun world => AllowsDocuments.noteLife world _)
    fun _ =>
    .bind .get fun _ => .bind (delivers _) fun _ =>
      within_teardownHandle removes delivers handle)

end Ending

section Documents

variable {relation : World σ → World σ → Prop} [AllowsDocuments relation]
  {deliver : Deliver σ}

theorem within_created
    (delivers : ∀ callback, Action.Within relation (deliver callback))
    (handle : HandleId) : Action.Within relation (handle.created deliver) :=
  .bind (.modify fun world => AllowsDocuments.noteLife world _) fun _ =>
    .bind .get fun _ => delivers _

theorem within_update
    (delivers : ∀ callback, Action.Within relation (deliver callback))
    (handle : HandleId) (delta : Float) :
    Action.Within relation (handle.update deliver delta) :=
  .bind .get fun _ => delivers _

theorem within_createHandle (name : String) (controller : Controller) :
    Action.Within relation (HandleId.create name controller : Action σ HandleId) :=
  fun world => AllowsDocuments.handle world _

end Documents

section Loading

variable {family : List WidgetId → World σ → World σ → Prop}
  {builds : List WidgetId → World σ → WidgetId → World σ → Prop}
  [grafting : AllowsGrafting family builds]
    [∀ known, AllowsDocuments (family known)]
  {known : List WidgetId} {deliver : Deliver σ}
include grafting

/-- A way to load documents is within a family if the place of the document is
known to be there. -/
def Grafts (family : List WidgetId → World σ → World σ → Prop)
    (load : WidgetId → String → Attempt σ HandleId) : Prop :=
  ∀ known, ∀ parent ∈ known, ∀ path, Attempt.Within (family known)
    (load parent path)

/-- Rendering a tree builds below its host only. -/
theorem builds_renderTree
    (delivers : ∀ callback, Action.Within (family []) (deliver callback))
    {load : WidgetId → String → Attempt σ HandleId}
    (loads : Grafts family load) (document : Document) (handle : HandleId)
    {host : WidgetId} (member : host ∈ known) (directory : String) :
    (renderTree deliver load document handle host directory).Builds family
      builds known := by
  refine (builds_component (fun callback _ => delivers callback) _ known
    _ _).workedAt
    (fun root => .bind
      (.modifyThe fun world => AllowsDocuments.updateHandle world _ _) fun _ =>
      .bind (.forM fun entry => ?_) fun _ => .pure _) fun root => .bind fun _ =>
        .bind fun _ => .pure root
  have place : (if entry.topLevel then host else root) ∈ root :: known := by
    split
    · exact List.mem_cons_of_mem root member
    · exact List.mem_cons_self
  refine .bind (loads _ _ place _) fun child => .bind .getThe fun world => ?_
  simp only
  split
  · exact .bind (.modifyThe fun _ =>
      AllowsSlight.slight (.of_eq rfl rfl rfl rfl rfl rfl rfl)) fun _ =>
        .modifyThe fun world => AllowsDocuments.updateHandle world _ _
  · exact .modifyThe fun world => AllowsDocuments.updateHandle world _ _

theorem grafts_renderWith
    (delivers : ∀ callback, Action.Within (family []) (deliver callback))
    {load : WidgetId → String → Attempt σ HandleId}
    (loads : Grafts family load) (document : Document) (handle : HandleId)
    {host : WidgetId} (member : host ∈ known) (directory : String) :
    Attempt.Within (family known)
      (renderWith deliver load document handle host directory) := by
  refine .bind .getThe fun _ => within_attempting (.tryCatch ?_ fun _ => ?_)
  · refine (builds_renderTree delivers loads document handle member directory).bind
      fun world root middle built => ?_
    rw [Attempt.bind_run, Attempt.lift_run]
    exact AllowsGrafting.addChild member built
  · have hears := AllowsGrafting.hears delivers known
    exact .bind (.modifyThe fun _ =>
      AllowsSlight.slight (.of_eq rfl rfl rfl rfl rfl rfl rfl)) fun _ =>
      .bind
        (.lift (within_teardownHandle (AllowsGrafting.removeChild known) hears
          handle)) fun _ =>
            .throw _

/-- Loading a document builds below its host only, however deep its imports
go. -/
theorem grafts_loadWithin
    (delivers : ∀ callback, Action.Within (family []) (deliver callback))
    (depth : Nat) : Grafts family (loadWithin deliver depth) := by
  induction depth with
  | zero => exact fun _ _ _ _ => .throw _
  | succ depth hypothesis =>
    intro known host member path
    refine .bind .getThe fun world => ?_
    split
    · exact .throw _
    · split
      · exact .throw _
      · have hears := AllowsGrafting.hears delivers known
        refine .bind (.bind .getThe fun world => ?_) fun handle => within_attempting
          (.bind (grafts_renderWith delivers hypothesis _ _ member _) fun _ =>
            .bind (.lift (within_created hears handle)) fun _ => .pure _)
        split
        · exact .throw _
        · exact .lift (within_createHandle _ _)

theorem grafts_load
    (delivers : ∀ callback, Action.Within (family []) (deliver callback)) :
    Grafts family (load deliver) := by
  intro known host member path
  exact .bind .getThe fun _ =>
    grafts_loadWithin delivers _ known host member path

theorem grafts_render
    (delivers : ∀ callback, Action.Within (family []) (deliver callback))
    (document : Document) (handle : HandleId) {parent : WidgetId}
    (member : parent ∈ known) (directory : String) :
    Attempt.Within (family known)
      (render deliver document handle parent directory) :=
  .bind .getThe fun _ =>
    grafts_renderWith delivers (grafts_loadWithin delivers _) document handle
      member directory

/-- Rendering from a source builds below the given parent only. -/
theorem grafts_renderSource
    (delivers : ∀ callback, Action.Within (family []) (deliver callback))
    (source : String) (controller : Controller) {parent : WidgetId}
    (member : parent ∈ known) :
    Attempt.Within (family known)
      (renderSource deliver source controller parent) := by
  refine .bind .getThe fun world => ?_
  split
  · exact .throw _
  · exact .bind (.lift (within_createHandle _ _)) fun handle => within_attempting
      (.bind (grafts_render delivers _ handle member _) fun _ =>
        .bind
          (.lift (within_created (AllowsGrafting.hears delivers known) handle))
          fun _ => .pure _)

end Loading

/-! ## Delivering -/

/-- Whatever a host does when it is called is within a relation, as long as the
callbacks are. -/
def Host.Within (relation : World σ → World σ → Prop) (host : Host σ) : Prop :=
  ∀ deliver : Deliver σ, (∀ callback, Action.Within relation (deliver callback)) →
    ∀ call, Action.Within relation (host.respond deliver call)

section Delivering

variable {family : List WidgetId → World σ → World σ → Prop}
  {builds : List WidgetId → World σ → WidgetId → World σ → Prop}
  [grafting : AllowsGrafting family builds] {host : Host σ} {deliver : Deliver σ}
include grafting

/-- What a callback does apart from taking a document down is within a family,
if refreshing a live property is and what the host does. -/
theorem grafts_run [∀ known, AllowsKeeping (family known)]
    (delivers : Deliver.Within (family []) deliver)
    (refreshes :
      ∀ id : BindingId, Action.Within (family []) (id.refresh deliver))
    (responds : ∀ call, Action.Within (family []) (host.respond deliver call))
    {callback : Callback} (stays : ¬ callback.Disposes) :
    Action.Within (family []) (host.run deliver callback) := by
  have calls : ∀ call (controller : Controller), Action.Within (family [])
      (if controller.scripted then host.respond deliver call else pure ()) := by
    intro call controller
    split
    · exact responds call
    · exact .pure _
  cases callback with
  | property listener changed =>
    cases listener with
    | binding id generation property =>
      refine .bind .get fun world => ?_
      simp only
      split
      · exact refreshes id
      · exact .pure _
    | host number => exact responds _
  | list listener change =>
    cases listener with
    | block id => exact grafts_follow delivers id change
    | host number => exact responds _
  | event handler arguments =>
    cases handler with
    | controller controller name => exact calls _ controller
    | host number => exact responds _
  | created controller handle => exact calls _ controller
  | updated controller delta => exact calls _ controller
  | disposed controller => exact calls _ controller
  | dispose handle => exact absurd trivial stays

/-- Delivering a callback is within a family, if refreshing live properties is
and the host keeps to it. -/
theorem grafts_deliver [∀ known, AllowsDocuments (family known)]
    (refreshes :
      ∀ deliver : Deliver σ,
        (∀ callback, Action.Within (family []) (deliver callback)) →
        ∀ id : BindingId, Action.Within (family []) (id.refresh deliver))
    (keeps : host.Within (family [])) (depth : Nat) (callback : Callback) :
    Action.Within (family []) (host.deliver depth callback) := by
  induction depth generalizing callback with
  | zero => exact .modify fun world => AllowsDocuments.exhausted world
  | succ depth hypothesis =>
    change Action.Within (family []) (host.run (host.deliver depth) callback)
    by_cases stays : callback.Disposes
    · cases callback with
      | dispose handle =>
        exact within_disposal (AllowsGrafting.removeChild []) hypothesis handle
      | _ => exact stays.elim
    · exact grafts_run (fun callback _ => hypothesis callback)
        (refreshes _ hypothesis) (keeps _ hypothesis) stays

end Delivering

/-! ## Relations that do not mind where widgets are put -/

section Building

variable {relation : World σ → World σ → Prop} [AllowsBuilding relation]
  {deliver : Deliver σ}

theorem within_buildItems (block : BlockId)
    {fill : ItemId → WidgetId → Scope → Attempt σ Unit}
    (fills :
      ∀ item parent scope, Attempt.Within relation (fill item parent scope))
    (index : Nat) (values : List Value) :
    Attempt.Within relation (block.buildItems fill index values) :=
  @grafts_buildItems σ (fun _ => relation) _ [] _ _ block fill fills index values

theorem within_buildComponent (delivers : Deliver.Within relation deliver)
    (context : BuildContext) (component : Component) (scope : Scope) :
    Attempt.Within relation (buildComponent deliver context component scope) :=
  (@builds_component σ (fun _ => relation) _ deliver _ _ delivers context []
    component scope).within

theorem within_buildChildren (delivers : Deliver.Within relation deliver)
    (context : BuildContext) (widget : WidgetId) (components : List Component)
    (scope : Scope) :
    Attempt.Within relation
      (buildChildren deliver context widget components scope) :=
  @grafts_children σ (fun _ => relation) _ deliver _ _ delivers context [widget]
    widget List.mem_cons_self components scope

theorem within_buildLoops (delivers : Deliver.Within relation deliver)
    (context : BuildContext) (widget : WidgetId) (loops : List Loop)
    (previous : Option BlockId) (scope : Scope) :
    Attempt.Within relation
      (buildLoops deliver context widget loops previous scope) :=
  @grafts_loops σ (fun _ => relation) _ deliver _ _ delivers context [widget] widget
    List.mem_cons_self loops previous scope

theorem within_fillChildren (delivers : Deliver.Within relation deliver)
    (context : BuildContext) (block : BlockId) (item : ItemId)
    (parent : WidgetId) (components : List Component) (scope : Scope) :
    Attempt.Within relation
      (fillChildren deliver context block item parent components scope) :=
  @grafts_fillChildren σ (fun _ => relation) _ deliver _ _ delivers context
    [parent] block item parent List.mem_cons_self components scope

theorem within_fillLoops (delivers : Deliver.Within relation deliver)
    (context : BuildContext) (block : BlockId) (item : ItemId)
    (parent : WidgetId) (loops : List Loop) (scope : Scope) :
    Attempt.Within relation
      (fillLoops deliver context block item parent loops scope) :=
  @grafts_fillLoops σ (fun _ => relation) _ deliver _ _ delivers context
    [parent] block item parent List.mem_cons_self loops scope

theorem within_run {host : Host σ}
    (delivers : Deliver.Within relation deliver)
    (refreshes : ∀ id : BindingId, Action.Within relation (id.refresh deliver))
    (responds : ∀ call, Action.Within relation (host.respond deliver call))
    {callback : Callback} (stays : ¬ callback.Disposes) :
    Action.Within relation (host.run deliver callback) :=
  @grafts_run σ (fun _ => relation) _ _ host deliver _ delivers refreshes
    responds callback stays

end Building

section Loading

variable {relation : World σ → World σ → Prop} [AllowsLoading relation]
  {deliver : Deliver σ}
  (delivers : ∀ callback, Action.Within relation (deliver callback))
include delivers

theorem within_dispose (handle : HandleId) :
    Action.Within relation (handle.dispose deliver) := by
  refine within_disposal ?_ delivers handle
  intro world _ _
  exact AllowsMinor.minor (world.minor_removeChild _ _)

theorem within_loadWithin (depth : Nat) (host : WidgetId) (path : String) :
    Attempt.Within relation (loadWithin deliver depth host path) :=
  @grafts_loadWithin σ (fun _ => relation) _ _ _ deliver delivers depth [host] host
    List.mem_cons_self path

theorem within_load (host : WidgetId) (path : String) :
    Attempt.Within relation (load deliver host path) :=
  @grafts_load σ (fun _ => relation) _ _ _ deliver delivers [host] host
    List.mem_cons_self path

theorem within_renderSource (source : String) (controller : Controller)
    (parent : WidgetId) :
    Attempt.Within relation (renderSource deliver source controller parent) :=
  @grafts_renderSource σ (fun _ => relation) _ _ _ [parent] deliver delivers
    source controller parent List.mem_cons_self

end Loading

/-- Delivering a callback is within a relation, if refreshing live properties is
and the host keeps to it. -/
theorem within_deliver {relation : World σ → World σ → Prop}
    [AllowsLoading relation] {host : Host σ}
    (refreshes :
      ∀ deliver : Deliver σ,
        (∀ callback, Action.Within relation (deliver callback)) →
        ∀ id : BindingId, Action.Within relation (id.refresh deliver))
    (keeps : host.Within relation) (depth : Nat) (callback : Callback) :
    Action.Within relation (host.deliver depth callback) :=
  @grafts_deliver σ (fun _ => relation) _ _ host _ refreshes keeps depth callback

end LiveMarkup
