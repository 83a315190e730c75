import LiveMarkup.Proofs.Bindings.Building

/-!
# Building whole trees

A component, with everything below it, is built into a tree of widgets in which
all live properties are settled.  Components and loops contain each other, and
so do the statements about them.
-/

namespace LiveMarkup.World

variable {σ : Type} {world middle after : World σ} {deliver : Deliver σ}
  {bound : Nat}
  {roots : List Owned} {handle : HandleId} {names : List String}

/-- A component has become a widget that is below no other one yet. -/
structure Grown (roots : List Owned) (handle : HandleId) (names : List String)
    (world after : World σ) (id : WidgetId) : Prop where
  settled : Settled none (.widget id :: roots) after [] []
  builds : Builds handle names world after
  pins : after.pins = world.pins
  new : world.widgets.size ≤ id.index
  inside : id.index < after.widgets.size
  free : (after.widget id).parent = none

/-- A widget of the tree below which something is built. -/
structure Below (roots : List Owned) (widget : WidgetId) (scope : Scope)
    (world : World σ) : Prop where
  held : world.Held roots widget
  inside : widget.index < world.widgets.size
  known : scope.Known world world.loaded

theorem Below.builds {widget : WidgetId} {scope : Scope}
    (below : Below roots widget scope world)
    (builds : Builds handle names world after) :
    Below roots widget scope after where
  held := below.held.mono (List.Subset.refl _) builds.children
  inside := Nat.lt_of_lt_of_le below.inside builds.later.fits.widgets
  known := Scope.Known.mono builds.later.fits builds.later.loaded below.known

/-- A new tree is put below a widget. -/
theorem Grown.addChild {parent child : WidgetId} {scope : Scope}
    (grown : Grown roots handle names world middle child)
    (below : Below roots parent scope world)
    (success :
      (liftM (Toolkit.addChild parent child : Action σ Unit) :
        Attempt σ Unit).run middle = (.ok (), after)) :
    Built roots handle names world after := by
  cases success
  have recorded := grown.settled.record (.add parent child)
  have builds := grown.builds.unnamed (recorded.stays.builds handle)
  have there := below.builds builds
  have placed : (middle.record (.add parent child)).addChild parent child = _ :=
    addChild_free grown.free
  exact ⟨recorded.settled.addChild grown.free there.held there.inside,
    builds.addChild grown.free grown.new,
    (congrArg World.pins placed).trans grown.pins⟩

/-- A widget is moved among the children of its parent. -/
theorem Site.moveChild {parent child : WidgetId} {index : Nat}
    (site : Site roots handle world)
    (success :
      (liftM (Toolkit.moveChild parent child index : Action σ Unit) :
        Attempt σ Unit).run world = (.ok (), after)) :
    Built roots handle [] world after := by
  cases success
  have recorded := site.settled.record (.move parent child index)
  refine ⟨?_, ?_, rfl⟩
  · exact recorded.settled.furnishes (furnishes_moveChild _ parent child index)
  · exact (recorded.stays.builds handle).trans
      (builds_moveChild _ parent child index handle)

/-! ## Items of loops -/

/-- A way to fill an item that builds below a widget of the tree. -/
def Fills (fill : ItemId → WidgetId → Scope → Attempt σ Unit) (roots : List Owned)
    (handle : HandleId) (bound : Nat) : Prop :=
  ∀ item parent scope world after, Site roots handle world →
    Below roots parent scope world →
    (fill item parent scope).run world = (.ok (), after) →
    after.liveCount + 1 < bound → Built roots handle [] world after

theorem existingWidget?_some {id widget : WidgetId}
    (found : world.existingWidget? id = some widget) : widget = id := by
  unfold existingWidget? at found
  split at found <;> cases found
  rfl

/-- The parent of a loop is in the tree. -/
theorem Settled.below {stack : List BindingId} {pending : List Callback}
    (settled : Settled none roots world stack pending) {id : BlockId}
    {block : Block} (found : world.block? id = some block) :
    Below roots block.parent block.scope world :=
  have known := settled.sound.blocks id block found
  ⟨settled.heldBlocks id block found, known.2.1, known.2.2⟩

/-- What fills an item builds while the item is kept. -/
theorem Site.fillItem (site : Site roots handle world) {things : List Owned}
    {block : BlockId}
    {fill : ItemId → WidgetId → Scope → Attempt σ Unit}
    (fills : Fills fill roots handle bound)
    {item : ItemId} {parent : WidgetId} {scope : Scope}
    (below : Below roots parent scope world)
    (success : (attempting things (tryCatch (fill item parent scope) fun error => do
      (item.teardown : Action σ Unit)
      (block.updateItems (·.erase item) : Action σ Unit)
      throw error)).run world = (.ok (), after))
    (room : after.liveCount + 1 < bound) : Built roots handle [] world after := by
  obtain ⟨inner, ran, rfl⟩ := attempting_ok success
  have filled := tryCatch_ok (fun error world after result same => by
    obtain ⟨_, _, _, rest⟩ := Attempt.bind_ok same
    obtain ⟨_, _, _, rest⟩ := Attempt.bind_ok rest
    cases rest) ran
  have built := fills item parent scope _ inner (site.pin things)
    (below.builds (builds_pin world things handle)) filled (by
      rwa [World.liveCount_sweep] at room)
  exact built.builds.release built.settled

/-- The item of an element is built below the parent of its loop. -/
theorem Site.buildItem (site : Site roots handle world) {block : BlockId}
    {index : Nat} {value : Value}
    {fill : ItemId → WidgetId → Scope → Attempt σ Unit}
    (fills : Fills fill roots handle bound)
    (known : value.Known world world.loaded)
    (success : (block.buildItem index value fill).run world = (.ok (), after))
    (room : after.liveCount + 1 < bound) :
    Built roots handle [] world after := by
  obtain ⟨_, _, gets, builds⟩ := Attempt.bind_ok success
  cases gets
  split at builds
  case h_1 =>
    cases builds
    exact site.refl
  case h_2 loop found =>
    split at builds
    case h_1 =>
      cases builds
      exact site.refl
    case h_2 parent existing =>
      cases existingWidget?_some existing
      obtain ⟨item, created, creates, places⟩ := Attempt.bind_ok builds
      obtain ⟨_, placed, puts, attempts⟩ := Attempt.bind_ok places
      have made : Built roots handle [] world created := by
        cases creates
        exact site.furnishes (furnishes_createItem world) rfl rfl (fun _ => rfl) rfl
      have put : Built roots handle [] created placed := by
        cases puts
        exact (made.site site).furnishes
          (furnishes_updateBlock created block fun _ => ⟨rfl, rfl, rfl⟩) rfl rfl
          (fun _ => rfl) rfl
      have ready := made.trans put
      have below := site.settled.below found
      have locals :
          Below roots loop.parent
            ([(loop.template.indexName, .int index),
              (loop.template.valueName, value)] :: loop.scope) world := by
        refine ⟨below.held, below.inside, fun entries member => ?_⟩
        rcases List.mem_cons.mp member with rfl | outer
        · exact ⟨trivial, known, trivial⟩
        · exact below.known entries outer
      exact ready.trans ((ready.site site).fillItem fills
        (locals.builds ready.builds) attempts room)

/-- The items of the elements of a list are built in order. -/
theorem Site.buildItems {block : BlockId}
    {fill : ItemId → WidgetId → Scope → Attempt σ Unit}
    (fills : Fills fill roots handle bound)
    (keeps : ∀ item parent scope, Attempt.Keeps (fill item parent scope))
    (values : List Value) (index : Nat) (world : World σ)
    (site : Site roots handle world)
    (known : ∀ value ∈ values, value.Known world world.loaded)
    (success : (block.buildItems fill index values).run world = (.ok (), after))
    (room : after.liveCount + 1 < bound) :
    Built roots handle [] world after := by
  induction values generalizing index world with
  | nil =>
    cases success
    exact site.refl
  | cons value rest hypothesis =>
    obtain ⟨_, between, first, others⟩ := Attempt.bind_ok success
    have grown := (within_buildItems block keeps (index + 1) rest).le others
    have built := site.buildItem fills (known value (List.mem_cons_self ..)) first
      (Nat.lt_of_le_of_lt (Nat.succ_le_succ grown) room)
    refine built.trans (hypothesis (index + 1) between (built.site site) ?_ others)
    intro other member
    exact Value.Known.mono built.builds.later.fits built.builds.later.loaded _
      (known other (List.mem_cons_of_mem _ member))

/-! ## Loops -/

/-- A loop is made below a widget of the tree and listens to its list. -/
theorem Site.createBlock (site : Site roots handle world) {block : Block}
    {id : BlockId} (below : Below roots block.parent block.scope world)
    (same : block.handle = handle)
    (success :
      (liftM (BlockId.create block : Action σ BlockId) :
        Attempt σ BlockId).run world = (.ok id, after)) :
    Built roots handle [] world after := by
  cases success
  obtain ⟨alters, settled⟩ :=
    site.settled.createBlock below.held (same ▸ site.inside)
      below.inside below.known
  exact ⟨settled, alters.builds rfl rfl (fun _ => rfl) handle, rfl⟩

/-- To listen to a list builds nothing. -/
theorem Site.subscribe (site : Site roots handle world) {list : ListId}
    {listener : ListListener} {number : Nat}
    (success :
      (liftM (list.subscribe listener : Action σ Nat) :
        Attempt σ Nat).run world = (.ok number, after)) :
    Built roots handle [] world after := by
  cases success
  exact site.furnishes (furnishes_updateList world list fun _ => rfl) rfl rfl
    (fun _ => rfl) rfl

/-- Nor does it to keep the registration with a list. -/
theorem Site.keepList (site : Site roots handle world)
    (keeper : SubscriptionKeeper) (list : ListId) (number : Nat) :
    Built roots handle [] world
      (world.keepSubscription keeper (.list list number)) := by
  refine site.furnishes (furnishes_keepList world keeper list number) ?_ ?_
    (fun id => ?_) ?_
  · cases keeper <;> rfl
  · cases keeper <;> rfl
  · cases keeper with
    | item => rfl
    | handle other =>
      rw [keepSubscription, handle_updateHandle]
      split <;> rfl
  · cases keeper <;> rfl

/-! ## Components -/

/-- Callbacks leave no live property behind and take none away. -/
structure Carries (deliver : Deliver σ) (bound : Nat) : Prop where
  serves : Serves deliver bound
  keeps : ∀ callback, Action.Keeps (deliver callback)

/-- The loops of a widget have been built; the one built last is kept. -/
structure BuiltLoops (roots : List Owned) (handle : HandleId) (base : List Owned)
    (world after : World σ) : Prop where
  settled : Settled none roots after [] []
  builds : Builds handle [] world after
  pins : ∃ last : Option BlockId, after.pins = (last.map Owned.block).toList ++ base

/-- When a loop takes the place of the one before it, that one alone is no
longer held. -/
theorem pins_pin_erase {base : List Owned} {previous : Option BlockId}
    (block : BlockId)
    (pinned : world.pins = (previous.map Owned.block).toList ++ base) :
    (previous.map Owned.block).toList.foldl List.erase
      (world.pin [.block block]).pins = .block block :: base := by
  simp only [World.pin, pinned]
  cases previous with
  | none => rfl
  | some other =>
    by_cases same : block = other
    · subst same
      simp
    · have apart : Owned.block block ≠ .block other :=
        fun equal => same (by cases equal; rfl)
      simp [List.erase_cons_tail, apart]

/-- The loop built last takes the place of the one before it among what is kept. -/
theorem Site.keepBlock {base : List Owned} {previous : Option BlockId}
    (block : BlockId) (site : Site roots handle world)
    (rooted : ∀ thing ∈ roots, thing ∈ world.held ++ base)
    (pinned : world.pins = (previous.map Owned.block).toList ++ base)
    (kept :
      (world.pin [.block block]).unpin (previous.map Owned.block).toList =
        after) :
    Site roots handle after ∧ Builds handle [] world after ∧
    after.held = world.held ∧
    after.pins = ((some block).map Owned.block).toList ++ base := by
  obtain ⟨settled, stays, pins⟩ :=
    (site.pin [.block block]).settled.release
      ((previous.map Owned.block).toList.foldl List.erase
        (world.pin [.block block]).pins)
  change World.unpin _ _ = _ at kept
  rw [World.unpin] at kept
  rw [kept] at settled stays pins
  rw [pins_pin_erase block pinned] at pins
  have builds : Builds handle [] world after :=
    (builds_pin world [.block block] handle).trans (stays.builds handle)
  refine ⟨⟨settled, fun thing member => ?_, ?_⟩, builds, builds.held, pins⟩
  · rw [pins, builds.held]
    rcases List.mem_append.mp (rooted thing member) with held | kept
    · exact List.mem_append_left _ held
    · exact List.mem_append_right _ (List.mem_cons_of_mem _ kept)
  · exact Nat.lt_of_lt_of_le site.inside builds.later.fits.handles

/-- An alias that is not declared yet is given to a widget. -/
theorem Site.declare {widget : WidgetId} {aliasName : String}
    (site : Site roots handle world)
    (inside : widget.index < world.widgets.size)
    (fresh : world.aliasWidget? handle aliasName = none)
    (success :
      (liftM (registerNode handle aliasName widget : Action σ Unit) :
        Attempt σ Unit).run world = (.ok (), after)) :
    Built roots handle [aliasName] world after := by
  cases success
  exact ⟨site.settled.furnishes (furnishes_registerNode world fresh inside),
    builds_registerNode world fresh inside, rfl⟩

theorem Builds.knows {scope : Scope} (builds : Builds handle names world after)
    (known : scope.Known world world.loaded) : scope.Known after after.loaded :=
  Scope.Known.mono builds.later.fits builds.later.loaded known

/-- The signals of a widget are connected. -/
theorem Site.buildSignals (site : Site roots handle world) {widget : WidgetId}
    {signals : List Signal}
    (success :
      (signals.forM (LiveMarkup.buildSignal handle widget : Signal →
        Attempt σ Unit)).run world = (.ok ⟨⟩, after)) :
    Built roots handle [] world after :=
  have room : after.liveCount < after.liveCount + 1 := Nat.lt_succ_self _
  Built.forM (fun signal => .slight (slight_buildSignal handle widget signal))
    (fun _ => True) (fun _ _ _ _ => trivial)
    (fun _ _ _ site _ success _ => site.buildSignal success) signals world site
    trivial success room

theorem declaredNames_cons (component : Component) (rest : List Component) :
    declaredNames (component :: rest) =
      component.aliasName.toList ++ declaredNames rest := by
  rw [declaredNames, List.filterMap_cons]
  cases component.aliasName <;> rfl

/-- The loops of a widget are part of building it. -/
theorem BuiltLoops.site {base : List Owned}
    (built : BuiltLoops roots handle base world after)
    (site : Site roots handle world)
    (rooted : ∀ thing ∈ roots, thing ∈ world.held ++ base) :
    Site roots handle after := by
  obtain ⟨last, pins⟩ := built.pins
  refine ⟨built.settled, fun thing member => ?_,
    Nat.lt_of_lt_of_le site.inside built.builds.later.fits.handles⟩
  rw [built.builds.held, pins]
  rcases List.mem_append.mp (rooted thing member) with held | kept
  · exact List.mem_append_left _ held
  · exact List.mem_append_right _ (List.mem_append_right _ kept)

/-- What was built for an item is noted. -/
theorem Site.noteItem (site : Site roots handle world) (item : ItemId)
    {change : Item → Item}
    (same : ∀ old, (change old).subscriptions = old.subscriptions) :
    Built roots handle [] world (world.updateItem item change) := by
  refine site.furnishes
    (furnishes_updateItem world item fun old record member => .inl ?_) rfl rfl
    (fun _ => rfl) rfl
  rwa [same] at member

mutual

/-- A component grows into a tree of widgets. -/
theorem Carries.buildComponent (carries : Carries deliver bound)
    (handle : HandleId) (keeper : SubscriptionKeeper) :
    (component : Component) → (scope : Scope) → (roots : List Owned) →
    (world after : World σ) → (id : WidgetId) → Site roots handle world →
    scope.Known world world.loaded →
    Declarable handle world component.walk →
    (LiveMarkup.buildComponent deliver ⟨handle, keeper⟩ component scope).run
      world = (.ok id, after) →
    after.liveCount + 1 < bound →
    Grown roots handle (declaredNames component.walk) world after id
  | ⟨name, aliasName, properties, signals, children, loops, span⟩, scope => by
    intro roots world after id site known declarable success room
    rw [LiveMarkup.buildComponent] at success
    obtain ⟨widget, created, creates, fills⟩ := Attempt.bind_ok success
    obtain ⟨made, new, inside, free⟩ := site.createWidget creates
    obtain ⟨inner, ran, rfl⟩ := attempting_ok fills
    rw [World.liveCount_sweep] at room
    change inner.liveCount + 1 < bound at room
    -- the widget is kept, and with it everything that is put below it
    have pinned := (made.site site).pin [.widget widget]
    have start :
        Site (.widget widget :: roots) handle (created.pin [.widget widget]) :=
      ⟨pinned.settled.grow (List.subset_cons_self ..), fun thing member => by
        rcases List.mem_cons.mp member with rfl | old
        · exact List.mem_append_right _ (List.mem_cons_self ..)
        · exact pinned.rooted thing old, pinned.inside⟩
    have toStart : Builds handle [] world (created.pin [.widget widget]) :=
      made.builds.trans (builds_pin created [.widget widget] handle)
    have below :
        Below (.widget widget :: roots) widget scope
          (created.pin [.widget widget]) :=
      ⟨.root (List.mem_cons_self ..), inside, toStart.knows known⟩
    rw [Component.walk] at declarable ⊢
    have declarableStart := declarable.later toStart
    obtain ⟨named, declared, ran⟩ : ∃ middle,
        Built (.widget widget :: roots) handle aliasName.toList
          (created.pin [.widget widget]) middle ∧
          (do
            properties.forM (buildProperty deliver handle keeper widget scope)
            LiveMarkup.buildChildren deliver ⟨handle, keeper⟩ widget children scope
            LiveMarkup.buildLoops deliver ⟨handle, keeper⟩ widget loops none scope
            signals.forM (buildSignal handle widget)
            widget.becomeReady deliver
            return widget : Attempt σ WidgetId).run middle = (.ok id, inner) := by
      cases aliasName with
      | none => exact ⟨_, start.refl, ran⟩
      | some aliasName =>
        obtain ⟨_, middle, declares, rest⟩ := Attempt.bind_ok ran
        refine ⟨middle, start.declare inside
          (declarableStart.fresh aliasName ?_) declares, rest⟩
        exact List.mem_cons_self ..
    obtain ⟨_, furnished, sets, ran⟩ := Attempt.bind_ok ran
    obtain ⟨_, filled, fills, ran⟩ := Attempt.bind_ok ran
    obtain ⟨_, looped, loopsRan, ran⟩ := Attempt.bind_ok ran
    obtain ⟨_, connected, connects, ran⟩ := Attempt.bind_ok ran
    obtain ⟨_, _, raises, ends⟩ := Attempt.bind_ok ran
    cases ends
    have kept :=
      (within_becomeReady (fun callback _ => carries.keeps callback) id).le
        raises
    have keptSignals :=
      (Attempt.Within.forM fun signal =>
        .slight (slight_buildSignal handle id signal)).le connects
    have keptLoops :=
      (within_buildLoops (fun callback _ => carries.keeps callback)
        ⟨handle, keeper⟩ id loops none scope).le loopsRan
    have keptChildren :=
      (within_buildChildren (fun callback _ => carries.keeps callback)
        ⟨handle, keeper⟩ id children scope).le fills
    have atNamed := declared.site start
    have belowNamed := below.builds declared.builds
    have set :=
      atNamed.buildProperties carries.serves carries.keeps keeper
        belowNamed.held belowNamed.inside belowNamed.known sets (by omega)
    have own : aliasName.toList =
          declaredNames [⟨name, aliasName, properties, signals, children, loops,
            span⟩] := by
      rw [declaredNames_cons]
      exact (List.append_nil _).symm
    have toChildren :
        Builds handle (declaredNames
          [⟨name, aliasName, properties, signals, children, loops, span⟩]) world
          furnished :=
      own ▸ toStart.trans (declared.builds.unnamed set.builds)
    have behindName := Declarable.behind declarable toChildren
    have atSet := set.site atNamed
    have belowSet := belowNamed.builds set.builds
    have grown :=
      carries.buildChildren handle keeper children scope _ _ _ id atSet belowSet
        behindName.before fills (by omega)
    have atGrown := grown.site atSet
    have unnamed : ∀ part ∈ Loop.walkAll loops, part.aliasName = none :=
      declarable.templates _ (List.mem_cons_self ..)
    have repeated :=
      carries.buildLoops handle keeper loops none scope _ _ _ id filled.pins
        atGrown (belowSet.builds grown.builds) unnamed atGrown.rooted rfl
        loopsRan (by omega)
    have atRepeated := repeated.site atGrown atGrown.rooted
    have signalled := atRepeated.buildSignals connects
    have raised :=
      carries.serves.becomeReady (signalled.site atRepeated) raises (by omega)
    obtain ⟨settled, stays, pins⟩ := raised.settled.release created.pins
    have builds :=
      (((((declared.builds.unnamed set.builds).trans grown.builds).unnamed
        repeated.builds).unnamed signalled.builds).unnamed
        raised.builds).unnamed (stays.builds handle)
    have names :
        declaredNames (⟨name, aliasName, properties, signals, children, loops,
          span⟩ :: (Component.walkAll children ++ Loop.walkAll loops)) =
          aliasName.toList ++ declaredNames (Component.walkAll children) := by
      rw [declaredNames_cons, declaredNames_append,
        declaredNames_unnamed unnamed, List.append_nil]
    rw [names]
    exact {
      settled
      builds := toStart.trans builds
      pins := pins.trans made.pins
      new := Nat.le_of_eq new.symm
      inside := Nat.lt_of_lt_of_le inside builds.later.fits.widgets
      free := (builds.parent id inside).trans free }

/-- The children of a widget are built in order. -/
theorem Carries.buildChildren (carries : Carries deliver bound)
    (handle : HandleId) (keeper : SubscriptionKeeper) :
    (components : List Component) → (scope : Scope) → (roots : List Owned) →
    (world after : World σ) → (widget : WidgetId) → Site roots handle world →
    Below roots widget scope world →
    Declarable handle world (Component.walkAll components) →
    (LiveMarkup.buildChildren deliver ⟨handle, keeper⟩ widget components
      scope).run world = (.ok (), after) →
    after.liveCount + 1 < bound →
    Built roots handle (declaredNames (Component.walkAll components)) world
      after
  | [], scope => by
    intro roots world after widget site below declarable success room
    rw [LiveMarkup.buildChildren] at success
    cases success
    exact site.refl
  | component :: rest, scope => by
    intro roots world after widget site below declarable success room
    rw [LiveMarkup.buildChildren] at success
    obtain ⟨child, built, builds, success⟩ := Attempt.bind_ok success
    obtain ⟨_, placed, places, others⟩ := Attempt.bind_ok success
    rw [Component.walkAll] at declarable ⊢
    have kept :=
      (within_buildChildren (fun callback _ => carries.keeps callback)
        ⟨handle, keeper⟩ widget rest scope).le others
    have keptPlace :=
      (Attempt.Within.lift (.minor (Toolkit.minor_addChild widget child))).le
        places
    have grown :=
      carries.buildComponent handle keeper component scope roots world built
        child site below.known declarable.before builds (by omega)
    have first := grown.addChild below places
    have more :=
      carries.buildChildren handle keeper rest scope roots placed after widget
        (first.site site) (below.builds first.builds)
        (declarable.behind first.builds) others room
    rw [declaredNames_append]
    exact first.trans more

/-- The loops of a widget are built in order. -/
theorem Carries.buildLoops (carries : Carries deliver bound)
    (handle : HandleId) (keeper : SubscriptionKeeper) :
    (loops : List Loop) → (previous : Option BlockId) → (scope : Scope) →
    (roots : List Owned) → (world after : World σ) → (widget : WidgetId) →
    (base : List Owned) → Site roots handle world →
    Below roots widget scope world →
    (∀ part ∈ Loop.walkAll loops, part.aliasName = none) →
    (∀ thing ∈ roots, thing ∈ world.held ++ base) →
    world.pins = (previous.map Owned.block).toList ++ base →
    (LiveMarkup.buildLoops deliver ⟨handle, keeper⟩ widget loops previous
      scope).run world = (.ok (), after) →
    after.liveCount + 1 < bound →
    BuiltLoops roots handle base world after
  | [], previous, scope => by
    intro roots world after widget base site below unnamed rooted pinned
      success room
    rw [LiveMarkup.buildLoops] at success
    cases success
    exact ⟨site.settled, .refl handle [] world, previous, pinned⟩
  | loop :: rest, previous, scope => by
    intro roots world after widget base site below unnamed rooted pinned
      success room
    rw [LiveMarkup.buildLoops] at success
    obtain ⟨_, _, gets, success⟩ := Attempt.bind_ok success
    cases gets
    obtain ⟨block, built, builds, success⟩ := Attempt.bind_ok success
    obtain ⟨_, kept, keeps, others⟩ := Attempt.bind_ok success
    rw [Loop.walkAll] at unnamed
    have grownKept :=
      (within_buildLoops (fun callback _ => carries.keeps callback)
        ⟨handle, keeper⟩ widget rest (some block) scope).le others
    have grown : kept.liveCount = built.liveCount := by
      cases keeps
      exact World.liveCount_sweep _
    have first :=
      carries.buildLoop handle keeper loop scope roots world built widget _
        block site below (fun part member =>
          unnamed part (List.mem_append_left _ member)) builds (by omega)
    have rootedBuilt : ∀ thing ∈ roots, thing ∈ built.held ++ base := by
      rw [first.builds.held]
      exact rooted
    obtain ⟨atKept, keptBuilds, held, pins⟩ :=
      Site.keepBlock block (first.site site) rootedBuilt
        (first.pins.trans pinned) (congrArg Prod.snd keeps)
    have more :=
      carries.buildLoops handle keeper rest (some block) scope roots kept after
        widget base atKept (below.builds (first.builds.trans keptBuilds))
        (fun part member => unnamed part (List.mem_append_right _ member))
        (by rwa [held]) pins others room
    exact ⟨more.settled, (first.builds.trans keptBuilds).trans more.builds,
      more.pins⟩

/-- A loop is built for every element of its list and listens to the list. -/
theorem Carries.buildLoop (carries : Carries deliver bound)
    (handle : HandleId) (keeper : SubscriptionKeeper) :
    (loop : Loop) → (scope : Scope) → (roots : List Owned) →
    (world after : World σ) → (parent : WidgetId) → (anchor : Anchor) →
    (block : BlockId) → Site roots handle world →
    Below roots parent scope world →
    (∀ part ∈ loop.walk, part.aliasName = none) →
    (LiveMarkup.buildLoop deliver ⟨handle, keeper⟩ parent anchor loop scope).run
      world = (.ok block, after) →
    after.liveCount + 1 < bound → Built roots handle [] world after
  | ⟨source, itemType, indexName, valueName, children, loops, span⟩, scope => by
    intro roots world after parent anchor block site below unnamed success room
    rw [LiveMarkup.buildLoop] at success
    obtain ⟨value, evaluated, evaluates, success⟩ := Attempt.bind_ok success
    obtain ⟨served, knownValue⟩ :=
      site.settled.evaluateOnce site.inside below.known evaluates
    have read := served.built handle
    split at success
    case h_2 =>
      obtain ⟨_, _, _, fails⟩ := Attempt.bind_ok success
      cases fails
    case h_1 list =>
      obtain ⟨id, created, creates, success⟩ := Attempt.bind_ok success
      obtain ⟨_, _, gets, success⟩ := Attempt.bind_ok success
      cases gets
      obtain ⟨inner, ran, rfl⟩ := attempting_ok success
      rw [World.liveCount_sweep] at room
      change inner.liveCount + 1 < bound at room
      obtain ⟨_, filled, fills, ran⟩ := Attempt.bind_ok ran
      obtain ⟨number, listening, subscribes, ran⟩ := Attempt.bind_ok ran
      obtain ⟨_, _, keepsRecord, ends⟩ := Attempt.bind_ok ran
      cases ends
      cases keepsRecord
      replace room :
          (listening.keepSubscription keeper (.list list number)).liveCount +
            1 < bound :=
        room
      rw [World.liveCount_keepSubscription] at room
      have listens : listening.liveCount = filled.liveCount := by
        cases subscribes
        rfl
      have belowRead := below.builds read.builds
      have made := (read.site site).createBlock belowRead rfl creates
      have known : ∀ value ∈ (created.list list).items,
          value.Known created created.loaded :=
        made.settled.sound.items list
      have knownPinned :=
        fun value member => Value.Known.mono
          (builds_pin created
            (.block block :: .list list :: (created.list list).items.flatMap
              Value.owns) handle).later.fits (Nat.le_refl _) value
          (known value member)
      have atCreated := (read.trans made).site site
      have atPinned := atCreated.pin (.block block :: .list list ::
        (created.list list).items.flatMap Value.owns)
      rw [Loop.walk] at unnamed
      have built := atPinned.buildItems
        (fun item parent scope world after site below success room => by
          obtain ⟨_, between, fillsChildren, fillsLoops⟩ := Attempt.bind_ok success
          have kept :=
            (within_fillLoops (fun callback _ => carries.keeps callback)
              ⟨handle, .item item⟩ block item parent loops scope).le fillsLoops
          have first :=
            carries.fillChildren handle (.item item) children scope roots world
              between parent block item site below
              (fun part member => unnamed part (List.mem_append_left _ member))
              fillsChildren (Nat.lt_of_le_of_lt (Nat.succ_le_succ kept) room)
          exact first.trans (carries.fillLoops handle (.item item) loops scope
            roots between after parent
            block item (first.site site) (below.builds first.builds)
            (fun part member => unnamed part (List.mem_append_right _ member))
              fillsLoops room))
        (fun item parent scope =>
          .bind (within_fillChildren (fun callback _ => carries.keeps callback)
            _ _ _ _ _ _) fun _ =>
              within_fillLoops (fun callback _ => carries.keeps callback) _ _ _ _ _
                _) _ 0 _ knownPinned fills (by omega)
      have filledBuilt :=
        ((read.trans made).builds.trans (builds_pin created _ handle)).trans
          built.builds
      have heard := (built.site atPinned).subscribe subscribes
      have recorded :=
        (heard.site (built.site atPinned)).keepList keeper list number
      have settled := recorded.settled.release created.pins
      exact ⟨settled.1, ((filledBuilt.trans heard.builds).trans
        recorded.builds).trans (settled.2.1.builds handle),
        settled.2.2.trans (read.trans made).pins⟩

/-- The components of a template are built for an item. -/
theorem Carries.fillChildren (carries : Carries deliver bound)
    (handle : HandleId) (keeper : SubscriptionKeeper) :
    (components : List Component) → (scope : Scope) → (roots : List Owned) →
    (world after : World σ) → (parent : WidgetId) → (block : BlockId) →
    (item : ItemId) → Site roots handle world →
    Below roots parent scope world →
    (∀ part ∈ Component.walkAll components, part.aliasName = none) →
    (LiveMarkup.fillChildren deliver ⟨handle, keeper⟩ block item parent
      components scope).run world = (.ok (), after) →
    after.liveCount + 1 < bound → Built roots handle [] world after
  | [], scope => by
    intro roots world after parent block item site below unnamed success room
    rw [LiveMarkup.fillChildren] at success
    cases success
    exact site.refl
  | component :: rest, scope => by
    intro roots world after parent block item site below unnamed success room
    rw [LiveMarkup.fillChildren] at success
    obtain ⟨child, built, builds, success⟩ := Attempt.bind_ok success
    obtain ⟨_, _, gets, success⟩ := Attempt.bind_ok success
    cases gets
    obtain ⟨_, placed, places, success⟩ := Attempt.bind_ok success
    obtain ⟨_, moved, moves, success⟩ := Attempt.bind_ok success
    obtain ⟨_, noted, notes, others⟩ := Attempt.bind_ok success
    have declarable := Declarable.unnamed unnamed handle world
    rw [Component.walkAll] at unnamed declarable
    have keptRest :=
      (within_fillChildren (fun callback _ => carries.keeps callback)
        ⟨handle, keeper⟩ block item parent rest scope).le others
    have keptMove :=
      (Attempt.Within.lift (.minor (Toolkit.minor_moveChild parent child _))).le
        moves
    have keptPlace :=
      (Attempt.Within.lift (.minor (Toolkit.minor_addChild parent child))).le
        places
    have keptNote : noted.liveCount = moved.liveCount := by
      cases notes
      rfl
    have grown :=
      carries.buildComponent handle keeper component scope roots world built
        child site below.known declarable.before builds (by omega)
    cases notes
    have put := grown.addChild below places
    rw [declaredNames_unnamed fun part member =>
      unnamed part (List.mem_append_left _ member)] at put
    have shifted := (put.site site).moveChild moves
    have placement := put.trans shifted
    have recorded : Built roots handle [] moved (moved.updateItem item fun old =>
        { old with widgets := old.widgets ++ [child] }) :=
      (placement.site site).noteItem item fun _ => rfl
    have written := placement.trans recorded
    exact written.trans
      (carries.fillChildren handle keeper rest scope roots _ after parent block
        item (written.site site) (below.builds written.builds)
        (fun part member => unnamed part (List.mem_append_right _ member))
        others room)

/-- The loops of a template are built for an item. -/
theorem Carries.fillLoops (carries : Carries deliver bound)
    (handle : HandleId) (keeper : SubscriptionKeeper) :
    (loops : List Loop) → (scope : Scope) → (roots : List Owned) →
    (world after : World σ) → (parent : WidgetId) → (block : BlockId) →
    (item : ItemId) → Site roots handle world →
    Below roots parent scope world →
    (∀ part ∈ Loop.walkAll loops, part.aliasName = none) →
    (LiveMarkup.fillLoops deliver ⟨handle, keeper⟩ block item parent loops
      scope).run world = (.ok (), after) →
    after.liveCount + 1 < bound → Built roots handle [] world after
  | [], scope => by
    intro roots world after parent block item site below unnamed success room
    rw [LiveMarkup.fillLoops] at success
    cases success
    exact site.refl
  | loop :: rest, scope => by
    intro roots world after parent block item site below unnamed success room
    rw [LiveMarkup.fillLoops] at success
    obtain ⟨_, _, gets, success⟩ := Attempt.bind_ok success
    cases gets
    obtain ⟨inner, built, builds, success⟩ := Attempt.bind_ok success
    obtain ⟨_, noted, notes, others⟩ := Attempt.bind_ok success
    rw [Loop.walkAll] at unnamed
    have keptRest :=
      (within_fillLoops (fun callback _ => carries.keeps callback)
        ⟨handle, keeper⟩ block item parent rest scope).le others
    have keptNote : noted.liveCount = built.liveCount := by
      cases notes
      rfl
    have first :=
      carries.buildLoop handle keeper loop scope roots world built parent _
        inner site below (fun part member =>
          unnamed part (List.mem_append_left _ member)) builds (by omega)
    cases notes
    have second : Built roots handle [] built (built.updateItem item fun old =>
        { old with nested := old.nested ++ [inner] }) :=
      (first.site site).noteItem item fun _ => rfl
    have both := first.trans second
    exact both.trans (carries.fillLoops handle keeper rest scope roots _ after
      parent block item (both.site site) (below.builds both.builds)
      (fun part member => unnamed part (List.mem_append_right _ member))
      others room)

end

end LiveMarkup.World
