import LiveMarkup.Proofs.Construction.Rows

/-!
# Components and loops as trees

Whatever is built for a component is a tree for it: its widget is created
first, then its properties are set, what is below it is built, and its signals
are connected; at last it becomes ready.  Only then does it come below its
parent.
-/

namespace LiveMarkup

variable {σ α : Type} {note : HostCall → σ → σ} {deliver : Deliver σ}

open World (Yields YieldsTree YieldsRow PassesSome LeadsTo)

/-! ## Single widgets -/

namespace World

variable {world : World σ}

/-- A widget is created of the class of its name, or the widget set was only
asked for it. -/
theorem ends_create (note : HostCall → σ → σ) (component : Component)
    (world : World σ) :
    (Toolkit.create component.name : Attempt σ WidgetId).Ends world
      (fun widget after => widget.index = world.widgets.size ∧
        after.pins = world.pins ∧ ∃ cls, world.registry.find component.name =
        some cls ∧ after.widget widget = .ofClass cls ∧
        Yields note [(widget, component)] [.call (.create component.name)] []
        world after) (PassesSome note world) := by
  have asked := Yields.record note world (.create component.name)
  refine .modify (.get ?_)
  dsimp only
  cases found : (world.record (.create component.name)).registry.find
    component.name with
  | none => exact .throw asked.passesSome
  | some cls =>
    constructor <;> intro outcome after ran <;> cases ran
    have older (id : WidgetId)
        (inside : id.index <
          (world.record (.create component.name)).widgets.size) :
        (((world.record (.create component.name)).newWidget cls).2.widget
          id).fields =
          ((world.record (.create component.name)).widget id).fields := by
      rw [widget_newWidget, if_neg (Nat.ne_of_lt inside)]
    have made :
        Yields note [(⟨world.widgets.size⟩, component)] [] []
          (world.record (.create component.name))
          ((world.record (.create component.name)).newWidget cls).2 :=
      { Passes.of_lasts (lasts_newWidget _ cls) older rfl rfl rfl rfl with
        widgetCount := Store.size_add ..
        new := rfl
        keeps := .of_eq rfl }
    refine ⟨rfl, rfl, cls, found, ?_, asked.trans made⟩
    exact (widget_newWidget ..).trans (if_pos rfl)

/-- The properties of a widget are set in order. -/
theorem ends_properties (records : deliver.Records note) (handle : HandleId)
    (keeper : SubscriptionKeeper) (widget : WidgetId) (scope : Scope)
    (properties : List Property) (world : World σ) :
    (properties.forM (buildProperty deliver handle keeper widget scope) :
      Attempt σ PUnit).Ends world
      (fun _ after => ∃ accesses, Equips widget properties accesses ∧
        Yields note [] (accesses.map (.call ·.call)) [] world after)
      (PassesSome note world) := by
  induction properties generalizing world with
  | nil => exact .pure ⟨[], .nil, .refl world⟩
  | cons property rest hypothesis =>
    have sets :=
      equipping_buildProperty records handle keeper widget scope property world
    have keeps :=
      keepsWidgets_buildProperty records handle keeper widget scope property
    have first :
        (buildProperty deliver handle keeper widget scope property).Ends world
          (fun _ middle => ∃ accesses, Equipped widget property accesses ∧
            Yields note [] (accesses.map (.call ·.call)) [] world middle)
          (PassesSome note world) := by
      refine ⟨fun result middle ran => ?_,
        fun error middle ran => (sets.failure error middle ran).passesSome⟩
      obtain ⟨accesses, done, equipped⟩ := sets.success result middle ran
      exact ⟨accesses, equipped,
        .of_passes done.passes done.widgetCount (keeps.of_run ran)⟩
    refine first.bind ?_ fun _ failed => failed
    rintro _ middle ⟨accesses, equipped, before⟩
    refine (hypothesis middle).mono (fun _ after => ?_) fun _ failed =>
      before.then_some failed
    rintro ⟨others, equips, later⟩
    exact ⟨accesses ++ others, .cons equipped equips,
      List.map_append ▸ before.trans later⟩

/-- A name is given to a widget. -/
theorem yields_registerNode (note : HostCall → σ → σ) (handle : HandleId)
    (aliasName : String) (widget : WidgetId) :
    Action.Within (Yields note [] [] [])
      (registerNode handle aliasName widget : Action σ Unit) := by
  intro world
  exact .of_upkeep (world.upkeep_updateHandle handle fun _ => ⟨rfl, rfl⟩)

/-! ## Items -/

/-- A widget that is held exists. -/
theorem existingWidget?_of_pinned {widget : WidgetId}
    (pinned : .widget widget ∈ world.pins) :
    world.existingWidget? widget = some widget := by
  have rooted : world.roots.contains (.widget widget) = true := by
    unfold World.roots
    simp [pinned]
  have there : world.existing (.widget widget) = true := by
    unfold World.existing World.existsWithin
    rw [rooted, Bool.true_or]
  rw [existingWidget?, if_pos there]

theorem yields_updateItems (note : HostCall → σ → σ) (id : BlockId)
    (change : List ItemId → List ItemId) :
    Action.Within (Yields note [] [] [])
      (id.updateItems change : Action σ Unit) := by
  intro world
  exact .of_upkeep (world.upkeep_updateBlock id fun _ => rfl)

theorem yields_createBlock (note : HostCall → σ → σ) (block : Block) :
    Action.Within (Yields note [] [] [])
      (BlockId.create block : Action σ BlockId) := by
  intro world
  exact .of_passes (.of_lasts (world.lasts_newBlock block) (fun _ _ => rfl) rfl
    rfl rfl rfl) rfl (.of_eq rfl)

theorem block?_create (block : Block) (world : World σ) :
    (BlockId.create block world).2.block? (BlockId.create block world).1 =
      some block :=
  (Store.get?_add ..).trans (if_pos rfl)

theorem yields_createItem (note : HostCall → σ → σ) :
    Action.Within (Yields note [] [] []) (ItemId.create : Action σ ItemId) := by
  intro _
  exact .of_passes (.of_lasts (.of_eq rfl rfl rfl rfl rfl rfl rfl)
    (fun _ _ => rfl) rfl rfl rfl rfl) rfl (.of_eq rfl)

/-- An item is built by filling it below the parent of its loop, if that is
there.  If it cannot be filled, it is taken away again. -/
theorem ends_buildItem {last : World σ} {id : BlockId} {block : Block}
    (found : world.block? id = some block)
    (there : world.existingWidget? block.parent = some block.parent)
    (index : Nat) (value : Value) {shape : WidgetRow → Prop}
    {handle : HandleId} {fill : ItemId → WidgetId → Scope → Attempt σ Unit}
    (fills :
      ∀ item,
        (fill item block.parent
          (block.template.locals index value :: block.scope)).Raises note world
          last handle block.parent shape) :
    (id.buildItem index value fill).Ends world
      (fun _ after => ∃ row, (after.LeadsTo last → shape row) ∧
        YieldsRow note world handle block.parent row world after)
      (PassesSome note world) := by
  refine .get ?_
  simp only [found, there]
  have created := yields_createItem note world
  have noted :=
    yields_updateItems note id
      (fun items => items.take index ++ (ItemId.create world).1 ::
        items.drop index) (ItemId.create world).2
  refine .perform (.perform (.attempting ?_))
  have opened := Chains.trans created (Chains.trans noted (Yields.pin note _
    (.item (ItemId.create world).1 :: .widget block.parent :: value.owns)))
  have pinned :
      Owned.widget block.parent ∈
        (World.pin (id.updateItems
          (fun items => items.take index ++ (ItemId.create world).1 ::
            items.drop index) (ItemId.create world).2).2
          (.item (ItemId.create world).1 :: .widget block.parent ::
            value.owns)).pins :=
    List.mem_append_left _ (List.mem_cons_of_mem _ List.mem_cons_self)
  have filled := fills (ItemId.create world).1 _ opened.passesSome pinned
  refine .tryCatch (filled.mono (fun _ after => ?_) fun after failed =>
    opened.then_some failed) fun error after failed =>
    .perform (.perform (.throw ?_))
  · rintro ⟨row, shaped, yields⟩
    have whole :
        Yields note row.preorder (row.moments block.parent)
          (readyCallsOf world.registry (world.handle handle).controller
            row.postorder) world after :=
      opened.trans yields
    have closed := LeadsTo.release after world.pins
    refine ⟨row, ?_, whole.release fun _ kept => kept⟩
    intro leads
    exact shaped (closed.trans leads)
  · -- What was built is taken away again, and the reason is thrown once more.
    have taken :=
      Chains.trans failed
        (passesSome_teardown note (ItemId.create world).1 after)
    obtain ⟨moments, handled, passes⟩ :=
      Chains.trans taken
        (yields_updateItems note id (·.erase (ItemId.create world).1)
          (ItemId.teardown (ItemId.create world).1 after).2).passesSome
    exact (passes.release _).some

variable {known last : World σ} {lists : Scope → Expr → List Value → Prop}

/-- An item is filled with the components of a template and with the loops
inside. -/
theorem raises_item {loop : Loop} {scope : Scope} {handle : HandleId}
    {parent : WidgetId}
    {children loops : Attempt σ Unit}
    (own : children.Raises note known last handle parent
    (WidgetRow.IsForAll lists true loop.children scope))
    (nested : loops.Raises note known last handle parent
    (WidgetRow.IsForLoops lists loop.loops scope)) :
    (do children; loops).Raises note known last handle parent
    (WidgetRow.IsForItem lists loop scope) :=
  (own.bind fun _ => nested).mono (by
    rintro _ ⟨one, shapedOne, two, shapedTwo, rfl⟩
    exact .build shapedOne shapedTwo)

/-- The items of a loop are built in order. -/
theorem raises_buildItems {id : BlockId} {block : Block}
    (found : known.block? id = some block) {handle : HandleId}
    {fill : ItemId → WidgetId → Scope → Attempt σ Unit}
    (fills :
      ∀ item scope,
        (fill item block.parent scope).Raises note known last handle
          block.parent (WidgetRow.IsForItem lists block.template scope))
    (index : Nat) (values : List Value) :
    (id.buildItems fill index values).Raises note known last handle block.parent
      (WidgetRow.IsForItems lists block.template block.scope index values) := by
  induction values generalizing index with
  | nil => exact .pure () .nil
  | cons value rest hypothesis =>
    have item :
        (id.buildItem index value fill).Raises note known last handle
          block.parent (WidgetRow.IsForItem lists block.template
            (block.template.locals index value :: block.scope)) := by
      intro world since pinned
      -- The items before have changed the loop, but not what it builds and where.
      obtain ⟨later, foundLater, plan⟩ := since.lasts.block found
      simp only [Block.plan, Prod.mk.injEq] at plan
      obtain ⟨template, -, parent, scope⟩ := plan
      rw [← parent, ← template] at fills ⊢
      rw [← scope]
      refine (ends_buildItem foundLater
        (parent ▸ existingWidget?_of_pinned pinned) index value fun item =>
          (fills item _).later since).mono (fun _ after => ?_)
        fun _ failed => failed
      rintro ⟨row, shaped, yields⟩
      exact ⟨row, shaped, yields.of_later since.lasts⟩
    refine (item.bind fun _ => hypothesis (index + 1)).mono ?_
    rintro _ ⟨one, itemRow, two, others, rfl⟩
    exact .cons itemRow others

/-- The items of a loop are built, and then it listens to its list. -/
theorem raises_listen (last : World σ)
    (lists : Scope → Expr → List Value → Prop) (handle : HandleId)
    {id : BlockId} {block : Block}
    (found : known.block? id = some block)
    {fill : ItemId → WidgetId → Scope → Attempt σ Unit}
    {things : List Owned} {values : List Value} {list : ListId}
    {keeper : SubscriptionKeeper}
    (fills : ∀ item scope,
    (fill item block.parent scope).Raises note known last handle block.parent
      (WidgetRow.IsForItem lists block.template scope)) :
    (attempting things do
      id.buildItems fill 0 values
      let number ← (list.subscribe (.block id) : Action σ Nat)
      modifyThe (World σ) (·.keepSubscription keeper (.list list number))
      return id : Attempt σ BlockId).Raises note known last handle block.parent
      (WidgetRow.IsForItems lists block.template block.scope 0 values) := by
  refine .attempting
    ((raises_buildItems found fills 0 values).before fun _ =>
      .behind (.lift fun world => ?_) fun number =>
        .behind (.modifyThe fun world =>
          .of_upkeep (world.upkeep_keepSubscription _ _)) fun _ => .pure _ rfl)
  exact .of_passes (.of_lasts (world.lasts_updateList list fun _ => rfl)
    (fun _ _ => rfl) rfl rfl rfl rfl) rfl (.of_eq rfl)

/-! ## Widgets at work -/

/-- A widget was created for a component since a start, and is kept; nothing is
connected to it yet. -/
structure Newborn (note : HostCall → σ → σ) (base start : World σ)
    (component : Component) (widget : WidgetId) (world : World σ) : Prop where
  yields :
      Yields note [(widget, component)] [.call (.create component.name)]
        [] start world
  new : widget.index = start.widgets.size
  pinned : .widget widget ∈ world.pins
  cls : base.registry.find component.name = some (world.widget widget).cls
  unconnected : (world.widget widget).connections = []

namespace Newborn

variable {base start after : World σ} {component : Component} {widget : WidgetId}

theorem inside (newborn : Newborn note base start component widget world) :
    widget.index < world.widgets.size := by
  rw [newborn.yields.widgetCount, newborn.new]
  exact Nat.lt_succ_self _

theorem quietly (newborn : Newborn note base start component widget world)
    (quiet : Yields note [] [] [] world after) :
    Newborn note base start component widget after where
  yields := newborn.yields.idle quiet
  new := newborn.new
  pinned := quiet.keeps widget newborn.pinned
  cls := (quiet.classes widget newborn.inside).symm ▸ newborn.cls
  unconnected := (quiet.connections widget newborn.inside).trans newborn.unconnected

/-- When everything below a widget is built, its signals are connected and it
becomes ready. -/
theorem finish (records : deliver.Records note) {handle : HandleId}
    {built : List (WidgetId × Component)}
    {moments : List Moment} {handled : List HostCall} (lasts : base.Lasts start)
    (newborn : Newborn note base start component widget world)
    (below : Yields note built moments handled world after) :
    (do
      component.signals.forM (buildSignal handle widget)
      widget.becomeReady deliver
      return widget : Attempt σ WidgetId).Ends after
      (fun result last => result = widget ∧
        Yields note ((widget, component) :: built)
        (.call (.create component.name) :: moments ++ component.wiring widget ++
          [.ready widget])
        (handled ++ component.readyCalls base.registry
          (base.handle handle).controller) start last ∧
        after.LeadsTo last)
      (PassesSome note start) := by
  have whole :
      Yields note ((widget, component) :: built)
        (.call (.create component.name) :: moments) handled start after :=
    newborn.yields.trans below
  have inside : widget.index < after.widgets.size :=
    Nat.lt_of_lt_of_le newborn.inside below.widgetsGrow
  have signals :=
    Yields.signals handle (Nat.le_of_eq newborn.new.symm) component.signals
      whole inside
  refine signals.bind ?_ fun _ failed => failed
  rintro _ wired ⟨grown, leads, -, cls, connections⟩
  -- Nothing below has touched the widget: it has the class it was created of,
  -- and no other connections.
  rw [below.classes widget newborn.inside] at cls connections
  rw [below.connections widget newborn.inside, newborn.unconnected,
    List.nil_append, ← cls] at connections
  refine (ends_becomeReady records connections).bind ?_ fun _ failed =>
    grown.then_some failed
  intro _ last ready
  refine .pure ⟨rfl, ?_, leads.trans ready.passesSome.leadsTo⟩
  have calls : component.readyCalls base.registry (base.handle handle).controller =
      if (start.handle handle).controller.scripted then
        (component.signals.filter
          ((wired.widget widget).cls.event? ·.event == some "ready")).map
          (.handler (start.handle handle).controller ·.handler [])
      else [] := by
    rw [Component.readyCalls, newborn.cls, lasts.controllers, cls]
  rw [calls]
  have ended := grown.trans ready
  rw [List.append_nil] at ended
  exact ended

end Newborn

end World

open World (Newborn)

/-! ## Components and loops -/

/-- The widget of a tree is kept while the tree is built. -/
theorem Attempt.Ends.tree {base last start created : World σ}
    {handle : HandleId} {shape : WidgetTree → Prop} {things : List Owned}
    {attempt : Attempt σ WidgetId} (pins : created.pins = start.pins)
    (ends :
      attempt.Ends (created.pin things)
        (fun result after => ∃ tree, tree.widget = result ∧
          (after.LeadsTo last → shape tree) ∧
          YieldsTree note base handle tree start after) (PassesSome note start)) :
    (LiveMarkup.attempting things attempt).Ends created
      (fun result after => ∃ tree, tree.widget = result ∧
        (after.LeadsTo last → shape tree) ∧
        YieldsTree note base handle tree start after)
      (PassesSome note start) := by
  refine .attempting (ends.mono (fun result after => ?_) fun after failed => ?_)
  · rintro ⟨tree, same, shaped, grown⟩
    have closed := LeadsTo.release after created.pins
    refine ⟨tree, same, ?_, Yields.release grown fun _ kept => pins.symm ▸ kept⟩
    intro leads
    exact shaped (closed.trans leads)
  · obtain ⟨moments, handled, passes⟩ := failed
    exact (passes.release created.pins).some

section Building

variable (records : deliver.Records note) (base last : World σ)
include records

/-- What is done for a widget when it is new, if it is known what is built below
it. -/
theorem World.Newborn.work {start newborn : World σ} {component : Component}
    {widget : WidgetId}
    {context : BuildContext} {scope : Scope} {children loops : Attempt σ Unit}
    {lists : Scope → Expr → List Value → Prop}
    (since : base.PassesSome note start)
    (new : Newborn note base start component widget newborn)
    (raisesChildren : children.Raises note base last context.handle widget
      (WidgetRow.IsForAll lists false component.children scope))
    (raisesLoops : loops.Raises note base last context.handle widget
      (WidgetRow.IsForLoops lists component.loops scope)) :
    (do
      component.properties.forM
        (buildProperty deliver context.handle context.keeper widget scope)
      children
      loops
      component.signals.forM (buildSignal context.handle widget)
      widget.becomeReady deliver
      return widget : Attempt σ WidgetId).Ends newborn
      (fun result after => ∃ tree : WidgetTree, tree.widget = result ∧
        (after.LeadsTo last → tree.IsFor lists component scope) ∧
          YieldsTree note base context.handle tree start after)
      (PassesSome note start) := by
  refine (World.ends_properties records context.handle context.keeper widget
    scope component.properties newborn).bind ?_ fun _ failed =>
      new.yields.then_some failed
  rintro _ equipped ⟨accesses, equips, set⟩
  have named := Chains.trans since new.yields.passesSome
  refine (raisesChildren equipped (Chains.trans named set.passesSome)
    (set.keeps widget new.pinned)).bind ?_ fun _ failed =>
      new.yields.then_some (set.then_some failed)
  rintro _ parental ⟨own, shapedOwn, grownOwn⟩
  have first := set.trans grownOwn
  refine (raisesLoops parental (Chains.trans named first.passesSome)
    (first.keeps widget new.pinned)).bind ?_ fun _ failed =>
      new.yields.then_some (first.then_some failed)
  rintro _ built ⟨nested, shapedNested, grownNested⟩
  have below := first.trans grownNested
  refine (new.finish records since.lasts below).mono (fun result after => ?_)
    fun _ failed => failed
  rintro ⟨rfl, whole, rest⟩
  refine ⟨⟨result, component, accesses, own.append nested⟩, rfl,
    fun leads => ?_, ?_⟩
  · have reached := rest.trans leads
    have shapedChildren := shapedOwn (grownNested.passesSome.leadsTo.trans reached)
    exact .build equips shapedChildren (shapedNested reached)
  · unfold YieldsTree
    rw [WidgetTree.preorder, WidgetTree.moments, WidgetTree.postorder,
      WidgetRow.preorder_append, WidgetRow.moments_append,
      WidgetRow.postorder_append]
    simpa only [readyCallsOf_append, readyCallsOf_singleton, List.nil_append,
      List.append_assoc, List.cons_append] using whole

set_option linter.unusedSectionVars false in
mutual

/-- A tree is built for a component. -/
theorem plants_component (context : BuildContext) :
    (component : Component) → (scope : Scope) →
    (buildComponent deliver context component scope).Plants note base last
      context.handle (WidgetTree.IsFor
        (base.Enumerates note last context.handle) component scope)
  | ⟨name, aliasName, properties, signals, children, loops, span⟩, scope => by
    intro start since
    rw [buildComponent]
    refine (World.ends_create note
      ⟨name, aliasName, properties, signals, children, loops, span⟩ start).bind
      ?_ fun _ failed => failed
    rintro widget created ⟨new, pins, cls, found, own, yields⟩
    have held := Yields.pin note created [.widget widget]
    have newborn :
        Newborn note base start ⟨name, aliasName, properties, signals, children,
          loops, span⟩ widget (created.pin [.widget widget]) := by
      refine ⟨yields.idle held, new,
        List.mem_append_left _ List.mem_cons_self, ?_, ?_⟩
      · exact (since.lasts.registry ▸ found).trans
          (congrArg (fun widget : Widget => some widget.cls) own.symm)
      · exact congrArg Widget.connections own
    refine .tree pins ?_
    have children := raises_children context widget children scope
    have loops := raises_loops context widget loops none scope
    cases aliasName with
    | none => exact newborn.work records base last since children loops
    | some aliasName =>
      have named :=
        newborn.quietly (World.yields_registerNode note context.handle
          aliasName widget _)
      exact .perform (named.work records base last since children loops)

/-- The children of a component become a row of trees, in order. -/
theorem raises_children (context : BuildContext) (parent : WidgetId) :
    (components : List Component) → (scope : Scope) →
    (buildChildren deliver context parent components scope).Raises note base
      last context.handle parent
      (WidgetRow.IsForAll (base.Enumerates note last context.handle) false
        components scope)
  | [], scope => by
    rw [buildChildren]
    exact .pure () .nil
  | component :: rest, scope => by
    rw [buildChildren]
    refine (plants_component context component scope).bind
      (raises_children context parent rest scope) .cons ?_
    intro child world
    exact ⟨none, _, rfl, World.yields_addChild note world parent child, rfl⟩

/-- The loops of a component become rows, one after the other. -/
theorem raises_loops (context : BuildContext) (parent : WidgetId) :
    (loops : List Loop) → (previous : Option BlockId) → (scope : Scope) →
    (buildLoops deliver context parent loops previous scope).Raises note base
      last context.handle parent
      (WidgetRow.IsForLoops (base.Enumerates note last context.handle)
        loops scope)
  | [], previous, scope => by
    rw [buildLoops]
    exact .pure () .nil
  | loop :: rest, previous, scope => by
    rw [buildLoops]
    refine .getThe fun world => ?_
    refine ((raises_loop context parent _ loop scope).bind fun block =>
      .behind (.modifyThe fun world => ?_) fun _ =>
        raises_loops context parent rest (some block) scope).mono ?_
    · exact Chains.trans (Yields.pin note world [.block block])
        (Yields.unpin note _ fun id widget => by
        cases previous <;> simp at widget)
    · rintro _ ⟨items, ⟨values, gives, shaped⟩, others, shapedLater, rfl⟩
      exact .cons gives shaped shapedLater

/-- A loop becomes a row of trees for the elements that its list has when it is
read. -/
theorem raises_loop (context : BuildContext) (parent : WidgetId)
    (anchor : Anchor) :
    (loop : Loop) → (scope : Scope) →
    (buildLoop deliver context parent anchor loop scope).Raises note base last
      context.handle parent fun row =>
      ∃ values, base.Enumerates note last context.handle scope loop.source
        values ∧ WidgetRow.IsForItems (base.Enumerates note last context.handle)
        loop scope 0 values row
  | ⟨source, itemType, indexName, valueName, children, loops, span⟩, scope => by
    intro world since pinned
    rw [buildLoop]
    have evaluates :
        (EvaluationContext.eval ⟨some context.handle, scope, none⟩ source).Ends
          world (fun value middle =>
            (EvaluationContext.eval ⟨some context.handle, scope, none⟩
              source).run world = (.ok value, middle) ∧
              Yields note [] [] [] world middle) (PassesSome note world) := by
      have upkeep := @upkeep_eval σ ⟨some context.handle, scope, none⟩ source
      exact ⟨fun value middle ran => ⟨ran, .of_upkeep (upkeep.of_run ran)⟩,
        fun error middle ran =>
          (Yields.of_upkeep (upkeep.of_run ran)).passesSome⟩
    refine evaluates.bind ?_ fun _ failed => failed
    rintro value middle ⟨ran, quiet⟩
    split
    case h_2 => exact .get (.throw quiet.passesSome)
    case h_1 list =>
      let block : Block :=
        ⟨⟨source, itemType, indexName, valueName, children, loops, span⟩,
          context.handle, parent, anchor, scope, [], true⟩
      have added := World.yields_createBlock note block middle
      have kept := quiet.trans added
      have known := Chains.trans since kept.passesSome
      refine .perform (.get
        ((World.raises_listen last (base.Enumerates note last context.handle)
          context.handle (World.block?_create block middle)
          (fun item scope => ?_) _ (Chains.refl _)
          (kept.keeps parent pinned)).mono (fun _ after => ?_) fun _ failed =>
            kept.then_some failed))
      · have own :=
          raises_fillChildren ⟨context.handle, .item item⟩ ⟨middle.blocks.size⟩
            item parent children scope
        have nested :=
          raises_fillLoops ⟨context.handle, .item item⟩ ⟨middle.blocks.size⟩
            item parent loops scope
        exact (World.raises_item own nested).later known
      · rintro ⟨row, shaped, yields⟩
        refine ⟨row, fun leads => ?_, kept.trans (yields.of_later known.lasts)⟩
        have rest :=
          (Chains.trans added.passesSome yields.passesSome).leadsTo.trans leads
        exact ⟨_, ⟨world, middle, list, since, rest, ran, rfl⟩, shaped leads⟩

/-- The components of a template become trees in the row of an item. -/
theorem raises_fillChildren (context : BuildContext) (block : BlockId)
    (item : ItemId) (parent : WidgetId) :
    (components : List Component) → (scope : Scope) →
    (fillChildren deliver context block item parent components scope).Raises
      note base last context.handle parent
      (WidgetRow.IsForAll (base.Enumerates note last context.handle) true
        components scope)
  | [], scope => by
    rw [fillChildren]
    exact .pure () .nil
  | component :: rest, scope => by
    rw [fillChildren]
    refine (plants_component context component scope).bind
      (raises_fillChildren context block item parent rest scope) .cons
      fun child world => ?_
    have added := World.yields_addChild note world parent child
    have moved :=
      World.yields_moveChild note (Toolkit.addChild parent child world).2 parent
        child (((world.block? block).map (world.nextIndex parent · item)).getD
          0)
    exact ⟨some _, _, rfl,
      (added.trans moved).idle (.of_upkeep (World.upkeep_updateItem _ item _)),
      rfl⟩

/-- And so do the loops in it. -/
theorem raises_fillLoops (context : BuildContext) (block : BlockId)
    (item : ItemId) (parent : WidgetId) :
    (loops : List Loop) → (scope : Scope) →
    (fillLoops deliver context block item parent loops scope).Raises note base
      last context.handle parent
      (WidgetRow.IsForLoops (base.Enumerates note last context.handle)
        loops scope)
  | [], scope => by
    rw [fillLoops]
    exact .pure () .nil
  | loop :: rest, scope => by
    rw [fillLoops]
    refine .getThe fun world => ?_
    refine ((raises_loop context parent _ loop scope).bind fun inner =>
      .behind (.lift fun world =>
        Yields.of_upkeep (world.upkeep_updateItem item _)) fun _ =>
        raises_fillLoops context block item parent rest scope).mono ?_
    · rintro _ ⟨items, ⟨values, gives, shaped⟩, others, shapedLater, rfl⟩
      exact .cons gives shaped shapedLater

end

end Building

end LiveMarkup
