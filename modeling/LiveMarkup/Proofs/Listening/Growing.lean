import LiveMarkup.Proofs.Listening.Heeding

/-!
# Building and taking away leaves live properties listening

New live properties are evaluated as soon as they begin, and those of a part
that is taken away end with its records.  All others listen to what they did.
-/

namespace LiveMarkup

variable {σ : Type}

open World (Heeds Attentive)

/-! ## The tree -/

namespace World.Attentive

variable {world : World σ}

theorem addChild (attentive : Attentive world) (parent child : WidgetId) :
    world.Heeds ((Toolkit.addChild parent child : Action σ Unit) world).2 :=
  have noted := attentive.record (.add parent child)
  noted.trans ((World.retrees_addChild _ parent child).alters.heeds noted.attentive)

theorem removeChild (attentive : Attentive world) (parent child : WidgetId) :
    world.Heeds (world.removeChild parent child) :=
  (World.retrees_removeChild world parent child).alters.heeds attentive

theorem moveChild (attentive : Attentive world) (parent child : WidgetId)
    (index : Nat) : world.Heeds (world.moveChild parent child index) :=
  (World.furnishes_moveChild world parent child index).toAlters.heeds attentive

/-- A widget leaves its parent with all live properties listening. -/
theorem removeFromParent (attentive : Attentive world) (widget : WidgetId) :
    world.Heeds ((removeFromParent widget : Action σ Unit) world).2 := by
  unfold LiveMarkup.removeFromParent
  rw [Action.bind_apply, Action.get_apply]
  cases world.parent? widget with
  | none => exact .refl attentive
  | some parent =>
    have noted := attentive.record (.remove parent widget)
    exact noted.trans (noted.attentive.removeChild parent widget)

/-! ## Taking away -/

theorem updateItem (attentive : Attentive world) (item : ItemId)
    {change : Item → Item}
    (same : ∀ old, (change old).subscriptions = old.subscriptions) :
    world.Heeds (world.updateItem item change) :=
  (World.furnishes_updateItem world item fun old _ member =>
    .inl (same old ▸ member)).toAlters.heeds attentive

theorem updateBlock (attentive : Attentive world) (block : BlockId)
    (change : List ItemId → List ItemId) :
    world.Heeds (world.updateBlock block fun old =>
      { old with items := change old.items }) :=
  have furnishes : World.Furnishes world
      (world.updateBlock block fun old => { old with items := change old.items }) :=
    World.furnishes_updateBlock world block fun _ => ⟨rfl, rfl, rfl⟩
  furnishes.toAlters.heeds attentive

/-- An item is taken down with everything in it, and the others go on to listen.
-/
theorem teardownItem (attentive : Attentive world) (depth : Nat) (item : ItemId) :
    world.Heeds ((teardownItem depth item : Action σ Unit) world).2 := by
  induction depth generalizing world item with
  | zero => exact .refl attentive
  | succ depth hypothesis =>
    unfold LiveMarkup.teardownItem
    have cleared : world.Heeds (world.updateItem item ({ · with nested := [] })) :=
      attentive.updateItem item fun _ => rfl
    refine .bind (.refl attentive) (.bind cleared ?_)
    have looped : World.Heeds _ (((world.item item).nested.forM fun block => do
        let items := (((← get).block? block).map (·.items)).getD []
        modify (·.updateBlock block ({ · with items := [] }))
        items.forM (LiveMarkup.teardownItem depth) : Action σ Unit) _).2 :=
      .forM cleared.attentive fun block _ middle begun => by
        have emptied := begun.attentive.updateBlock block fun _ => []
        exact .bind (.refl begun.attentive)
          (.bind emptied (.forM emptied.attentive fun inner _ later after =>
            hypothesis after.attentive inner))
    have cancelled := looped.attentive.cancelItem item
    have given :
        World.Heeds _ (World.updateItem _ item ({ · with widgets := [] })) :=
      cancelled.attentive.updateItem item fun _ => rfl
    exact .bind looped
      (.bind cancelled (.bind (.refl cancelled.attentive)
        (.bind given (.forM given.attentive fun widget _ _ begun =>
          begun.attentive.removeFromParent widget))))

theorem teardown (attentive : Attentive world) (item : ItemId) :
    world.Heeds ((item.teardown : Action σ Unit) world).2 := by
  unfold ItemId.teardown
  rw [Action.bind_apply, Action.get_apply]
  dsimp only
  exact attentive.teardownItem world.blockDepth item

/-- A loop takes one of its items away. -/
theorem removeItem (attentive : Attentive world) (block : BlockId) (index : Nat) :
    world.Heeds ((block.removeItem index : Action σ Unit) world).2 := by
  unfold BlockId.removeItem
  rw [Action.bind_apply, Action.get_apply]
  dsimp only
  cases (((world.block? block).map (·.items)).getD [])[index]? with
  | none => exact .refl attentive
  | some item =>
    have pinned := attentive.pin [.item item]
    have taken := pinned.attentive.updateBlock block (·.eraseIdx index)
    exact .keeping attentive (.bind taken (taken.attentive.teardown item))

end World.Attentive

/-! ## Building -/

/-- Where a part of a document can be built: the document and the values of the
variables are there. -/
structure World.Welcomes (world : World σ) (handle : HandleId) (scope : Scope) :
    Prop where
  attentive : Attentive world
  handle : handle.index < world.handles.size
  scope : scope.Known world world.loaded

namespace World.Welcomes

variable {world after : World σ} {handle : HandleId} {scope : Scope}

theorem later (welcomes : world.Welcomes handle scope) (heeds : world.Heeds after) :
    after.Welcomes handle scope :=
  ⟨heeds.attentive, heeds.handle welcomes.handle, heeds.scope welcomes.scope⟩

end World.Welcomes

/-- A new widget is there after it was created. -/
theorem World.Attentive.createWidget {world : World σ}
    (attentive : Attentive world) (name : String) :
    (Toolkit.create name : Attempt σ WidgetId).Heedful world fun widget after =>
      widget.index < after.widgets.size := by
  have noted := attentive.record (.create name)
  refine .modify noted (.get ?_)
  dsimp only
  cases (world.record (.create name)).registry.find name with
  | none => exact .throw noted.attentive
  | some cls =>
    have made :=
      (World.furnishes_newWidget (world.record (.create name))
        cls).toAlters.heeds noted.attentive
    refine .of_run made fun widget gave => ?_
    cases gave
    exact Store.size_add (world.record (.create name)).widgets _ ▸
      Nat.lt_succ_self _

/-- An alias comes to stand for a widget that was made. -/
theorem World.Attentive.registerNode {world : World σ}
    (attentive : Attentive world) (handle : HandleId) (aliasName : String)
    {widget : WidgetId} (inside : widget.index < world.widgets.size) :
    world.Heeds ((registerNode handle aliasName widget : Action σ Unit)
      world).2 := by
  have apart : World.Apart world (world.updateHandle handle fun old =>
      { old with nodes := putEntry aliasName widget old.nodes }) :=
    World.apart_updateHandle world handle _ (fun _ => rfl)
      (fun entry member => (mem_putEntry member).imp_right fun same =>
        by rw [same]; exact inside)
      (fun _ member => .inl member) fun _ member => .inl member
  exact apart.heeds attentive

section Building

variable {deliver : Deliver σ} {world : World σ}

/-- An item that could not be built is taken away again. -/
theorem World.Attentive.discard (attentive : Attentive world) (block : BlockId)
    (item : ItemId)
    (error : UiError) :
    (do
      (item.teardown : Action σ Unit)
      (block.updateItems (·.erase item) : Action σ Unit)
      throw error : Attempt σ Unit).Heedful world fun _ _ => True := by
  have gone := attentive.teardown item
  refine .perform gone ?_
  have rested := gone.attentive
  generalize ((item.teardown : Action σ Unit) world).2 = later at rested
  have erased := rested.updateBlock block (·.erase item)
  exact .perform erased (.throw erased.attentive)

/-- An item is built for a value, or taken away again. -/
theorem heedful_buildItem (block : BlockId) (index : Nat) {value : Value}
    {fill : ItemId → WidgetId → Scope → Attempt σ Unit}
    (attentive : Attentive world) (known : value.Known world world.loaded)
    (fills :
      ∀ item parent scope middle,
        world.Heeds middle → parent.index < middle.widgets.size →
        scope.Known middle middle.loaded →
        (fill item parent scope).Heedful middle fun _ _ => True) :
    (block.buildItem index value fill).Heedful world fun _ _ => True := by
  unfold BlockId.buildItem
  refine .get ?_
  cases found : world.block? block with
  | none => exact .pure attentive trivial
  | some old =>
    dsimp only
    cases existing : world.existingWidget? old.parent with
    | none => exact .pure attentive trivial
    | some parent =>
      dsimp only
      have same : parent = old.parent := by
        unfold World.existingWidget? at existing
        split at existing
        · exact (Option.some.inj existing).symm
        · cases existing
      subst same
      obtain ⟨_, knownParent, knownScope⟩ := attentive.sound.blocks block old found
      have made := (World.furnishes_createItem world).toAlters.heeds attentive
      have put := made.attentive.updateBlock block fun items =>
        items.take index ++ ⟨world.items.size⟩ :: items.drop index
      have begun := made.trans put
      refine .perform made
        (.perform put (.attempting put.attentive ?_ fun _ _ _ _ _ => trivial))
      have pinned := put.attentive.pin
        (.item ⟨world.items.size⟩ :: .widget old.parent :: value.owns)
      have far := begun.trans pinned
      refine .tryCatch (fills _ _ _ _ far (far.widget knownParent)
        fun locals member => ?_) fun error after failed => ?_
      · rcases List.mem_cons.mp member with rfl | outer
        · exact ⟨trivial, far.value known, trivial⟩
        · exact far.scope knownScope locals outer
      · exact failed.attentive.discard block _ error

/-- Items are built one after the other, if each of them can be filled. -/
theorem heedful_buildItems (block : BlockId) {values : List Value}
    {fill : ItemId → WidgetId → Scope → Attempt σ Unit}
    (attentive : Attentive world)
    (known : ∀ value ∈ values, value.Known world world.loaded)
    (fills :
      ∀ item parent scope middle,
        world.Heeds middle → parent.index < middle.widgets.size →
        scope.Known middle middle.loaded →
        (fill item parent scope).Heedful middle fun _ _ => True) (index : Nat) :
    (block.buildItems fill index values).Heedful world fun _ _ => True := by
  induction values generalizing world index with
  | nil => exact .pure attentive trivial
  | cons value rest hypothesis =>
    refine .bind (heedful_buildItem block index attentive
      (known value (List.mem_cons_self ..)) fills)
      fun _ middle begun _ => hypothesis begun.attentive ?_
        (fun item parent scope later ended =>
          fills item parent scope later (begun.trans ended)) (index + 1)
    refine begun.values ?_
    intro other member
    exact known other (List.mem_cons_of_mem _ member)

set_option linter.unusedSectionVars false in
mutual

/-- A component is built, and the widget for it is there. -/
theorem heedful_component (delivers : deliver.Heedful)
    (context : BuildContext) :
    (component : Component) → (scope : Scope) → (world : World σ) →
    world.Welcomes context.handle scope →
    (buildComponent deliver context component scope).Heedful world
      fun widget after => widget.index < after.widgets.size
  | ⟨name, aliasName, properties, signals, children, loops, _⟩, scope,
      world, welcomes => by
    rw [buildComponent]
    refine .bind (welcomes.attentive.createWidget name)
      fun widget made begun inside => ?_
    refine .attempting begun.attentive ?_ fun _ _ _ heeds known =>
      heeds.widget known
    have pinned := begun.attentive.pin [.widget widget]
    have rest : ∀ middle, (made.pin [.widget widget]).Heeds middle → (do
        properties.forM (buildProperty deliver context.handle context.keeper
          widget scope)
        buildChildren deliver context widget children scope
        buildLoops deliver context widget loops none scope
        signals.forM (buildSignal context.handle widget)
        widget.becomeReady deliver
        return widget : Attempt σ WidgetId).Heedful middle fun widget after =>
          widget.index < after.widgets.size := by
      intro middle since
      have far := (begun.trans pinned).trans since
      have known := (pinned.trans since).widget inside
      refine .bind (.forM far.attentive fun property _ later ended => ?_)
        fun _ second first _ => ?_
      · have whole := welcomes.later (far.trans ended)
        exact delivers.hearing.buildProperty ended.attentive _ property
          whole.handle (ended.widget known) whole.scope
      refine .bind (heedful_children delivers context children scope widget second
        (welcomes.later (far.trans first))) fun _ third after _ => ?_
      have far := (far.trans first).trans after
      have known := (first.trans after).widget known
      refine .bind (heedful_loops delivers context loops none scope widget third
        (welcomes.later far) known) fun _ fourth after _ => ?_
      have known := after.widget known
      refine .bind (.forM after.attentive fun signal _ later ended =>
        ended.attentive.buildSignal _ _ signal) fun _ fifth after _ => ?_
      have known := after.widget known
      refine .bind (delivers.becomeReady after.attentive widget)
        fun _ last after _ => ?_
      exact .pure after.attentive (after.widget known)
    split
    · next aliasName =>
      have named :=
        pinned.attentive.registerNode context.handle aliasName
          (pinned.widget inside)
      exact .perform named (rest _ named)
    · exact rest _ (.refl pinned.attentive)

/-- The children of a component are built one after the other. -/
theorem heedful_children (delivers : deliver.Heedful) (context : BuildContext) :
    (components : List Component) → (scope : Scope) → (widget : WidgetId) →
    (world : World σ) → world.Welcomes context.handle scope →
    (buildChildren deliver context widget components scope).Heedful world
      fun _ _ => True
  | [], scope, widget, world, welcomes => by
    rw [buildChildren]
    exact .pure welcomes.attentive trivial
  | component :: rest, scope, widget, world, welcomes => by
    rw [buildChildren]
    refine .bind (heedful_component delivers context component scope world welcomes)
      fun child middle begun _ => ?_
    have put := begun.attentive.addChild widget child
    exact .perform put (heedful_children delivers context rest scope widget _
      (welcomes.later (begun.trans put)))

/-- So are its loops. -/
theorem heedful_loops (delivers : deliver.Heedful) (context : BuildContext) :
    (loops : List Loop) → (previous : Option BlockId) → (scope : Scope) →
    (widget : WidgetId) → (world : World σ) →
    world.Welcomes context.handle scope → widget.index < world.widgets.size →
    (buildLoops deliver context widget loops previous scope).Heedful world
      fun _ _ => True
  | [], previous, scope, widget, world, welcomes, _ => by
    rw [buildLoops]
    exact .pure welcomes.attentive trivial
  | loop :: rest, previous, scope, widget, world, welcomes, inside => by
    rw [buildLoops]
    refine .get (.bind
      (heedful_loop delivers context loop _ scope widget world welcomes inside)
      fun block middle begun _ => ?_)
    have pinned := begun.attentive.pin [.block block]
    have kept :=
      pinned.trans (pinned.attentive.unpin (previous.map Owned.block).toList)
    have far := begun.trans kept
    exact .modify kept
      (heedful_loops delivers context rest (some block) scope widget _
        (welcomes.later far) (far.widget inside))

/-- A loop is built for the elements of its list, and listens to it. -/
theorem heedful_loop (delivers : deliver.Heedful) (context : BuildContext) :
    (loop : Loop) → (anchor : Anchor) → (scope : Scope) →
    (parent : WidgetId) → (world : World σ) →
    world.Welcomes context.handle scope → parent.index < world.widgets.size →
    (buildLoop deliver context parent anchor loop scope).Heedful world
      fun _ _ => True
  | ⟨source, itemType, indexName, valueName, children, loops, span⟩, anchor,
      scope, parent, world, welcomes, inside => by
    rw [buildLoop]
    refine .bind (welcomes.attentive.heedful_evaluateOnce welcomes.handle
      welcomes.scope source) fun value middle begun knownValue => ?_
    split
    · next list =>
      have here := welcomes.later begun
      let fresh : Block :=
        ⟨⟨source, itemType, indexName, valueName, children, loops, span⟩,
          context.handle, parent, anchor, scope, [], true⟩
      have made :
          middle.Heeds ((BlockId.create fresh : Action σ BlockId) middle).2 :=
        (World.alters_createBlock middle here.handle (begun.widget inside)
          here.scope).heeds begun.attentive
      refine .perform made
        (.get (.attempting made.attentive ?_ fun _ _ _ _ _ => trivial))
      generalize ((BlockId.create _ : Action σ BlockId) middle).1 = block
      generalize ((BlockId.create _ : Action σ BlockId) middle).2 = created at made
      have pinned := made.attentive.pin
        (.block block :: .list list :: (created.list list).items.flatMap Value.owns)
      refine .bind (heedful_buildItems block pinned.attentive
        (pinned.attentive.sound.items list)
        (fun item parent scope later ended knownParent knownScope => ?_) 0)
        fun _ filled after _ => ?_
      · have welcomed : later.Welcomes context.handle scope :=
          ⟨ended.attentive, ((made.trans pinned).trans ended).handle
            here.handle, knownScope⟩
        refine .bind (heedful_fillChildren delivers ⟨context.handle, .item item⟩
          children scope block item parent later welcomed)
          fun _ last done _ => ?_
        exact heedful_fillLoops delivers ⟨context.handle, .item item⟩ loops
          scope block item parent last (welcomed.later done)
          (done.widget knownParent)
      · have subscribes : World.Furnishes filled (filled.updateList list fun old =>
            { old with listeners := old.listeners.subscribe (.block block) }) :=
          World.furnishes_updateList filled list fun _ => rfl
        have listens := subscribes.toAlters.heeds after.attentive
        have recorded := (World.furnishes_keepList _ context.keeper list
          (filled.list list).listeners.next).toAlters.heeds listens.attentive
        exact .perform listens (.modify recorded (.pure recorded.attentive trivial))
    · exact .get (.throw begun.attentive)

/-- An item is filled with the components of its template. -/
theorem heedful_fillChildren (delivers : deliver.Heedful)
    (context : BuildContext) :
    (components : List Component) → (scope : Scope) → (block : BlockId) →
    (item : ItemId) → (parent : WidgetId) → (world : World σ) →
    world.Welcomes context.handle scope →
    (fillChildren deliver context block item parent components scope).Heedful
      world fun _ _ => True
  | [], scope, block, item, parent, world, welcomes => by
    rw [fillChildren]
    exact .pure welcomes.attentive trivial
  | component :: rest, scope, block, item, parent, world, welcomes => by
    rw [fillChildren]
    refine .bind (heedful_component delivers context component scope world welcomes)
      fun child middle begun _ => .get ?_
    have put := begun.attentive.addChild parent child
    refine .perform put ?_
    generalize ((Toolkit.addChild parent child : Action σ Unit) middle).2 =
      added at put
    have noted :=
      put.attentive.record
        (.move parent child
          (((middle.block? block).map (middle.nextIndex parent · item)).getD 0))
    have moved := noted.trans (noted.attentive.moveChild parent child
      (((middle.block? block).map (middle.nextIndex parent · item)).getD 0))
    have listed : World.Heeds _ (World.updateItem _ item fun old =>
        { old with widgets := old.widgets ++ [child] }) :=
      moved.attentive.updateItem item fun _ => rfl
    exact .perform moved
      (.perform listed (heedful_fillChildren delivers context rest scope block
        item parent _ (welcomes.later
          (((begun.trans put).trans moved).trans listed))))

/-- And with the loops in it. -/
theorem heedful_fillLoops (delivers : deliver.Heedful)
    (context : BuildContext) :
    (loops : List Loop) → (scope : Scope) → (block : BlockId) →
    (item : ItemId) → (parent : WidgetId) → (world : World σ) →
    world.Welcomes context.handle scope → parent.index < world.widgets.size →
    (fillLoops deliver context block item parent loops scope).Heedful world
      fun _ _ => True
  | [], scope, block, item, parent, world, welcomes, _ => by
    rw [fillLoops]
    exact .pure welcomes.attentive trivial
  | loop :: rest, scope, block, item, parent, world, welcomes, inside => by
    rw [fillLoops]
    refine .get (.bind
      (heedful_loop delivers context loop _ scope parent world welcomes inside)
      fun inner middle begun _ => ?_)
    have listed : middle.Heeds (middle.updateItem item fun old =>
        { old with nested := old.nested ++ [inner] }) :=
      begun.attentive.updateItem item fun _ => rfl
    have far := begun.trans listed
    exact .perform listed
      (heedful_fillLoops delivers context rest scope block item parent _
        (welcomes.later far) (far.widget inside))

end

/-- A change of its list is carried through to a loop. -/
theorem Deliver.Heedful.follow (delivers : deliver.Heedful)
    (attentive : Attentive world) (id : BlockId) {change : ListChange}
    (known : change.value.Known world world.loaded) :
    world.Heeds (id.follow deliver change world).2 := by
  unfold BlockId.follow
  rw [Action.bind_apply, Action.get_apply]
  cases found : world.block? id with
  | none => exact .refl attentive
  | some block =>
    have knownHandle := (attentive.sound.blocks id block found).1
    let fill : ItemId → WidgetId → Scope → Attempt σ Unit :=
      fun item parent scope => do
      fillChildren deliver ⟨block.handle, .item item⟩ id item parent
        block.template.children scope
      fillLoops deliver ⟨block.handle, .item item⟩ id item parent
        block.template.loops scope
    have builds : ∀ index value, value.Known world world.loaded →
        world.Heeds ((id.buildItem index value fill).run world).2 := by
      intro index value knownValue
      refine (heedful_buildItem id index attentive knownValue
        fun item parent scope middle begun knownParent knownScope => ?_).heeds
      refine .bind (heedful_fillChildren delivers _ _ scope id item parent
        middle ⟨begun.attentive, begun.handle knownHandle, knownScope⟩)
        fun _ later ended _ => ?_
      exact heedful_fillLoops delivers _ _ scope id item parent later
        ⟨ended.attentive, ended.handle (begun.handle knownHandle),
          ended.scope knownScope⟩ (ended.widget knownParent)
    cases change with
    | remove index value => exact attentive.removeItem id index
    | add index value | insert index value =>
      have built := builds index value known
      refine .bind built ?_
      dsimp only
      generalize ExceptT.run (id.buildItem index value fill) world = ran at built
      rcases ran with ⟨_ | _, after⟩
      · exact built.attentive.report _
      · exact .refl built.attentive

end Building

end LiveMarkup
