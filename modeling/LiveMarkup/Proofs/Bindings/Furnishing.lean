import LiveMarkup.Proofs.Bindings.Steps
import LiveMarkup.Proofs.World.Documents
import LiveMarkup.Rendering.Lifecycle

/-!
# Making and placing things

Bags, lists, widgets, documents, loops and items are made, named and put into
the tree without touching any live property or any listener of a property.
-/

namespace LiveMarkup.World

variable {σ : Type} {world middle after : World σ}

/-! ## Changes apart from live properties -/

/-- A change that leaves live properties and the listeners of properties alone. -/
structure Alters (world after : World σ) : Prop where
  agrees : world.Agrees after
  fits : Value.Fits world after
  loaded : after.loaded = world.loaded
  bindings : after.bindings = world.bindings
  sound : world.Sound world.loaded → after.Sound world.loaded
  listeners : ∀ post, after.listenersAt post = world.listenersAt post
  kept : ∀ keeper, ∀ record ∈ after.kept keeper,
    record ∈ world.kept keeper ∨ ∃ list number, record = .list list number
  plain : ∀ slot, world.Has slot.1 → after.Plain slot → world.Plain slot

theorem Alters.binding? (alters : Alters world after) (id : BindingId) :
    after.binding? id = world.binding? id := by
  simp only [World.binding?, alters.bindings]

theorem Alters.announcer (alters : Alters world after) {object : ObjectId}
    (has : world.Has object) : after.announcer object = world.announcer object := by
  cases object with
  | bag => rfl
  | widget => rfl
  | handle id =>
    exact congrArg (fun owner => Sum.inl owner.state)
      (alters.agrees.controller id has)

theorem Alters.later (alters : Alters world after) : world.Later after where
  agrees := alters.agrees
  fits := alters.fits
  loaded := Nat.le_of_eq alters.loaded.symm
  bindingCount := Nat.le_of_eq (congrArg Store.size alters.bindings.symm)
  bindings id binding found :=
    ⟨binding, (alters.binding? id).trans found, .refl binding⟩

theorem Alters.recorded (alters : Alters world after) {id : BindingId}
    (recorded : after.Recorded id) : world.Recorded id := by
  obtain ⟨keeper, member⟩ := recorded
  rcases alters.kept keeper _ member with old | ⟨list, number, same⟩
  · exact ⟨keeper, old⟩
  · cases same

/-- Listeners, live properties and the records of them fit together as long as
they stay, and objects announce their changes where they did. -/
theorem Wired.carry (wired : world.Wired) (fits : Value.Fits world after)
    (bindings : after.bindings = world.bindings)
    (listeners : ∀ post, after.listenersAt post = world.listenersAt post)
    (announcer :
      ∀ object,
        world.Has object → after.announcer object = world.announcer object)
    (kept :
      ∀ keeper, ∀ record ∈ after.kept keeper,
        record ∈ world.kept keeper ∨ ∃ list number, record = .list list number) :
    after.Wired := by
  have binding? : ∀ id, after.binding? id = world.binding? id := fun id => by
    simp only [World.binding?, bindings]
  refine ⟨fun post => ?_, fun post number id generation property member => ?_,
    fun id binding found record member => ?_,
    fun id binding found slot member => ?_, fun keeper record member => ?_,
    fun id keeper other member otherMember => ?_⟩
  · rw [listeners]
    exact wired.ordered post
  · rw [listeners] at member
    obtain ⟨binding, found, below, current⟩ :=
      wired.heard post number id generation property member
    refine ⟨binding, (binding? id).trans found, below, fun now => ?_⟩
    obtain ⟨object, announced, watched⟩ := current now
    have has := (wired.watched id binding found _ watched).1
    exact ⟨object, (announcer object has).trans announced, watched⟩
  · rw [binding?] at found
    obtain ⟨object, number, rfl, has, below, only⟩ :=
      wired.records id binding found record member
    refine ⟨object, number, rfl, fits.has has, ?_, fun listener entry => ?_⟩
    · rw [announcer object has, listeners]
      exact below
    · rw [announcer object has, listeners] at entry
      exact only listener entry
  · rw [binding?] at found
    have before := wired.watched id binding found slot member
    exact ⟨fits.has before.1, before.2⟩
  · rw [bindings]
    rcases kept keeper record member with old | list
    · exact wired.keepers keeper record old
    · exact .inl list
  · rcases kept keeper _ member with old | ⟨_, _, same⟩
    · rcases kept other _ otherMember with otherOld | ⟨_, _, same⟩
      · exact wired.single id keeper other old otherOld
      · cases same
    · cases same

theorem Alters.wired (alters : Alters world after) (wired : world.Wired) :
    after.Wired :=
  wired.carry alters.fits alters.bindings alters.listeners
    (fun _ has => alters.announcer has) alters.kept

/-- A change that alters no live property is a step in which none is left out.
-/
theorem Alters.transition (alters : Alters world after) :
    Transition none world after where
  later := alters.later
  sound sound := by
    rw [alters.loaded]
    exact alters.sound sound
  wired := alters.wired
  bindings id binding found :=
    ⟨binding, (alters.binding? id).symm.trans found, .refl binding, rfl,
      fun _ => rfl⟩
  recorded _ := alters.recorded
  covered wired id _ _ covered := by
    intro binding found slot member
    rw [alters.binding?] at found
    obtain ⟨number, entry⟩ := covered binding found slot member
    refine ⟨number, ?_⟩
    rw [alters.announcer (wired.watched id binding found slot member).1,
      alters.listeners]
    exact entry
  plain := alters.plain

/-- Nothing is taken out of the tree, and no plain property looks different. -/
structure Furnishes (world after : World σ) : Prop extends Alters world after where
  children : ∀ parent : WidgetId,
      (world.widget parent).children ⊆ (after.widget parent).children
  blocks : ∀ id block, after.block? id = some block →
    ∃ old, world.block? id = some old ∧ block.parent = old.parent
  sees : world.Sound world.loaded → ∀ slot, world.Has slot.1 → after.Plain slot →
    after.sees slot = world.sees slot

theorem Settled.furnishes {left : Option BindingId} {roots : List Owned}
    {stack : List BindingId} {pending : List Callback}
    (settled : Settled left roots world stack pending)
    (furnishes : Furnishes world after) :
    Settled left roots after stack pending :=
  settled.quiet (furnishes.transition.weaken left) furnishes.children
    furnishes.blocks (furnishes.sees settled.sound)

/-- A slot shows the same if all that it could be read from is the same. -/
theorem sees_same {limit : Nat} (sound : world.Sound limit)
    {slot : ObjectId × String} (has : world.Has slot.1)
    (values :
      ∀ id : BagId,
        id.index < world.bags.size →
        (after.bag id).values = (world.bag id).values)
    (widgets :
      ∀ id : WidgetId,
        id.index < world.widgets.size →
          (after.widget id).cls = (world.widget id).cls ∧
          (after.widget id).fields = (world.widget id).fields)
    (handles :
      ∀ id : HandleId,
        slot.1 = .handle id →
          (after.handle id).controller = (world.handle id).controller ∧
          (after.handle id).imports.lookup slot.2 =
            (world.handle id).imports.lookup slot.2) :
    after.sees slot = world.sees slot := by
  obtain ⟨object, name⟩ := slot
  cases object with
  | bag id => simp only [World.sees, BagId.get?, values id has]
  | widget id => simp only [World.sees, widgets id has]
  | handle id =>
    obtain ⟨controller, imports⟩ := handles id rfl
    simp only [World.sees, BagId.get?, controller,
      values _ (sound.states id has), imports]

/-! ## Objects -/

theorem bag_newBag (world : World σ) (typeName : String)
    (values : List (String × Value)) (id : BagId) :
    (world.newBag typeName values).2.bag id =
      if id.index = world.bags.size then ⟨typeName, values, .none⟩
      else world.bag id := by
  simp only [newBag, bag, Store.get?_add]
  split <;> rfl

theorem bag_of_not_lt {id : BagId} (absent : ¬ id.index < world.bags.size) :
    world.bag id = default := by
  simp only [bag, Store.get?_of_not_lt absent]
  rfl

/-- A bag may be made at any time. -/
theorem furnishes_newBag (world : World σ) (typeName : String)
    {values : List (String × Value)}
    (known : Value.EntriesKnown world world.loaded values) :
    Furnishes world (world.newBag typeName values).2 := by
  have fits : Value.Fits world (world.newBag typeName values).2 :=
    ⟨by rw [newBag, Store.size_add]; exact Nat.le_succ _, Nat.le_refl _,
      Nat.le_refl _,
      Nat.le_refl _⟩
  have old : ∀ id : BagId, id.index < world.bags.size →
      (world.newBag typeName values).2.bag id = world.bag id := by
    intro id inside
    rw [bag_newBag, if_neg (Nat.ne_of_lt inside)]
  have named : NamesKnown world.loaded world (world.newBag typeName values).2 := by
    refine { fits, values := fun id entry member => ?_ }
    rw [bag_newBag] at member
    split at member
    · refine .inr (Value.Known.mono fits (Nat.le_refl _) _ ?_)
      exact (Value.entriesKnown_iff ..).mp known entry member
    · exact .inl member
  refine {
    agrees := .of_same (fun id inside => by rw [old id inside])
      (fun _ _ => rfl) (fun _ _ => rfl) fun _ _ => rfl
    fits
    loaded := rfl
    bindings := rfl
    sound := fun sound => sound.extend named
    listeners := fun post => ?_
    kept := fun _ _ member => .inl member
    plain := fun slot _ plain => ?_
    children := fun _ => List.Subset.refl _
    blocks := fun _ block found => ⟨block, found, rfl⟩
    sees := fun sound slot has _ =>
      sees_same sound has (fun id inside => by rw [old id inside])
      (fun _ _ => ⟨rfl, rfl⟩) fun _ _ => ⟨rfl, rfl⟩ }
  · cases post with
    | inl id =>
      simp only [listenersAt, bag_newBag]
      split
      case isTrue here =>
        rw [bag_of_not_lt (Nat.not_lt.mpr (Nat.le_of_eq here.symm))]
        rfl
      case isFalse => rfl
    | inr => rfl
  · obtain ⟨object, name⟩ := slot
    cases object <;> exact plain

theorem list_newList (world : World σ) (values : List Value) (id : ListId) :
    (world.newList values).2.list id =
      if id.index = world.lists.size then ⟨values, .none⟩ else world.list id := by
  simp only [newList, list, Store.get?_add]
  split <;> rfl

/-- A list may be made at any time. -/
theorem furnishes_newList (world : World σ) {values : List Value}
    (known : ∀ value ∈ values, value.Known world world.loaded) :
    Furnishes world (world.newList values).2 := by
  have fits : Value.Fits world (world.newList values).2 :=
    ⟨Nat.le_refl _, by rw [newList, Store.size_add]; exact Nat.le_succ _,
      Nat.le_refl _,
      Nat.le_refl _⟩
  have named : NamesKnown world.loaded world (world.newList values).2 := by
    refine { fits, items := fun id value member => ?_ }
    rw [list_newList] at member
    split at member
    · exact .inr (Value.Known.mono fits (Nat.le_refl _) _ (known value member))
    · exact .inl member
  refine {
    agrees := .of_same (fun _ _ => rfl)
      (fun id inside => by rw [list_newList, if_neg (Nat.ne_of_lt inside)])
      (fun _ _ => rfl) fun _ _ => rfl
    fits
    loaded := rfl
    bindings := rfl
    sound := fun sound => sound.extend named
    listeners := fun _ => rfl
    kept := fun _ _ member => .inl member
    plain := fun slot _ plain => ?_
    children := fun _ => List.Subset.refl _
    blocks := fun _ block found => ⟨block, found, rfl⟩
    sees := fun sound slot has _ =>
      sees_same sound has (fun _ _ => rfl) (fun _ _ => ⟨rfl, rfl⟩)
      fun _ _ => ⟨rfl, rfl⟩ }
  obtain ⟨object, name⟩ := slot
  cases object <;> exact plain

/-- What a new widget holds names nothing, and rows only in a class with rows. -/
theorem initialFields_furnished (world : World σ) (limit : Nat)
    {cls : WidgetClass} {entry : String × Field}
    (member : entry ∈ cls.initialFields) :
    entry.2.Known world limit ∧
    ∀ texts,
      entry.2 = .rows texts →
      ∃ property ∈ cls.properties, ∃ selection,
        property.kind = .rows selection := by
  obtain ⟨property, registered, rfl⟩ := List.mem_map.mp member
  cases kind : property.kind with
  | rows selection =>
    simp only [PropertyKind.initial]
    exact ⟨trivial, fun _ _ => ⟨property, registered, selection, kind⟩⟩
  | labelSettings =>
    simp only [PropertyKind.initial]
    exact ⟨trivial, nofun⟩
  | _ =>
    simp only [PropertyKind.initial]
    refine ⟨Value.IsScalar.known ?_ world limit, nofun⟩
    trivial

/-- A new widget furnishes the world with something that nobody has read yet. -/
theorem furnishes_newWidget (world : World σ) (cls : WidgetClass) :
    Furnishes world (world.newWidget cls).2 := by
  have fits : Value.Fits world (world.newWidget cls).2 :=
    ⟨Nat.le_refl _, Nat.le_refl _,
      by rw [newWidget, Store.size_add]; exact Nat.le_succ _,
      Nat.le_refl _⟩
  have old : ∀ id : WidgetId, id.index < world.widgets.size →
      (world.newWidget cls).2.widget id = world.widget id := by
    intro id inside
    rw [widget_newWidget, if_neg (Nat.ne_of_lt inside)]
  have named : NamesKnown world.loaded world (world.newWidget cls).2 := by
    refine { fits, fields := fun id entry member => ?_ }
    rw [widget_newWidget] at member ⊢
    split at member
    case isTrue here =>
      rw [if_pos here]
      exact .inr (initialFields_furnished _ _ member)
    case isFalse elsewhere =>
      rw [if_neg elsewhere]
      exact .inl ⟨member, rfl⟩
  refine {
    agrees := .of_same (fun _ _ => rfl) (fun _ _ => rfl)
      (fun id inside => by rw [old id inside]) fun _ _ => rfl
    fits
    loaded := rfl
    bindings := rfl
    sound := fun sound => sound.extend named
    listeners := fun post => ?_
    kept := fun _ _ member => .inl member
    plain := fun slot has plain => ?_
    children := fun parent => ?_
    blocks := fun _ block found => ⟨block, found, rfl⟩
    sees := fun sound slot has _ => sees_same sound has (fun _ _ => rfl)
      (fun id inside => by rw [old id inside]; exact ⟨rfl, rfl⟩) fun _ _ =>
        ⟨rfl, rfl⟩ }
  · cases post with
    | inl => rfl
    | inr id =>
      simp only [listenersAt, widget_newWidget]
      split
      case isTrue here =>
        rw [widget_of_not_lt (Nat.not_lt.mpr (Nat.le_of_eq here.symm))]
        rfl
      case isFalse => rfl
  · obtain ⟨object, name⟩ := slot
    cases object with
    | bag => exact plain
    | widget id => simpa only [Plain, old id has] using plain
    | handle => exact plain
  · rw [widget_newWidget]
    split
    case isTrue here =>
      rw [widget_of_not_lt (Nat.not_lt.mpr (Nat.le_of_eq here.symm))]
      exact List.nil_subset _
    case isFalse => exact List.Subset.refl _

/-! ## Documents -/

/-- A document gets a handle of its own. -/
theorem furnishes_createHandle (world : World σ) (name : String)
    {controller : Controller}
    (known : controller.state.index < world.bags.size) :
    Furnishes world ((HandleId.create name controller : Action σ HandleId)
      world).2 := by
  have fits :
      Value.Fits world ((HandleId.create name controller :
        Action σ HandleId) world).2 :=
    ⟨Nat.le_refl _, Nat.le_refl _, Nat.le_refl _,
      by rw [HandleId.create, Store.size_add]; exact Nat.le_succ _⟩
  have old : ∀ id : HandleId, id.index < world.handles.size →
      ((HandleId.create name controller : Action σ HandleId) world).2.handle id =
        world.handle id := by
    intro id inside
    rw [handle_create, if_neg (Nat.ne_of_lt inside)]
  have named : NamesKnown world.loaded world
      ((HandleId.create name controller : Action σ HandleId) world).2 := by
    refine {
      fits
      handles := fun id inside => ?_
      nodes := fun id entry member => ?_
      imports := fun id entry member => ?_ }
    · rw [handle_create]
      split
      · exact .inr known
      case isFalse elsewhere =>
        refine .inl ⟨?_, rfl⟩
        rw [HandleId.create, Store.size_add] at inside
        omega
    · rw [handle_create] at member
      split at member
      · cases member
      · exact .inl member
    · rw [handle_create] at member
      split at member
      · cases member
      · exact .inl member
  refine {
    agrees := .of_same (fun _ _ => rfl) (fun _ _ => rfl) (fun _ _ => rfl) old
    fits
    loaded := rfl
    bindings := rfl
    sound := fun sound => sound.extend named
    listeners := fun _ => rfl
    kept := fun keeper record member => ?_
    plain := fun slot has plain => ?_
    children := fun _ => List.Subset.refl _
    blocks := fun _ block found => ⟨block, found, rfl⟩
    sees := fun sound slot has _ =>
      sees_same sound has (fun _ _ => rfl) (fun _ _ => ⟨rfl, rfl⟩)
      fun id same => ?_ }
  · cases keeper with
    | item => exact .inl member
    | handle id =>
      rw [World.kept, handle_create] at member
      split at member
      · cases member
      · exact .inl member
  · obtain ⟨object, name⟩ := slot
    cases object with
    | bag => exact plain
    | widget => exact plain
    | handle id => simpa only [Plain, old id has] using plain
  · rw [same] at has
    rw [old id has]
    exact ⟨rfl, rfl⟩

/-- An entry of a document is changed: a widget is named, or an import added. -/
theorem furnishes_updateHandle (world : World σ) (handle : HandleId)
    {change : Handle → Handle} (name : ∀ old, (change old).name = old.name)
    (controller : ∀ old, (change old).controller = old.controller)
    (subscriptions : ∀ old, (change old).subscriptions = old.subscriptions)
    (nodes :
      ∀ aliasName node,
        world.aliasWidget? handle aliasName = some node →
        (change (world.handle handle)).nodes.lookup aliasName = some node)
    (knownNodes :
      ∀ entry ∈ (change (world.handle handle)).nodes,
        entry ∈ (world.handle handle).nodes ∨
        entry.2.index < world.widgets.size)
    (imports :
      ∀ name,
        (change (world.handle handle)).imports.lookup name = none →
        (world.handle handle).imports.lookup name = none)
    (knownImports :
      ∀ entry ∈ (change (world.handle handle)).imports,
        entry ∈ (world.handle handle).imports ∨
        entry.2.index < world.handles.size) :
    Furnishes world (world.updateHandle handle change) := by
  have owner : ∀ id, ((world.updateHandle handle change).handle id).controller =
      (world.handle id).controller :=
    fun id => handle_project world handle id change Handle.controller controller
  refine {
    agrees := {
      globals := rfl
      resources := rfl
      files := rfl
      converters := rfl
      bagType := fun _ _ => rfl
      items := fun _ _ => rfl
      cls := fun _ _ => rfl
      name := fun id _ =>
        handle_project world handle id change Handle.name name
      controller := fun id _ => owner id
      nodes := fun id aliasName node inside found => ?_ }
    fits := fits_updateHandle world handle change
    loaded := rfl
    bindings := rfl
    sound := fun sound =>
      sound.extend (.updateHandle controller knownNodes knownImports)
    listeners := fun _ => rfl
    kept := fun keeper record member => ?_
    plain := fun slot has plain => ?_
    children := fun _ => List.Subset.refl _
    blocks := fun _ block found => ⟨block, found, rfl⟩
    sees := fun sound slot has plain =>
      sees_same sound has (fun _ _ => rfl) (fun _ _ => ⟨rfl, rfl⟩)
      fun id same => ⟨owner id, ?_⟩ }
  · rw [aliasWidget?, handle_updateHandle]
    split
    case isTrue here =>
      obtain ⟨rfl, _⟩ := here
      exact nodes aliasName node found
    case isFalse => exact found
  · cases keeper with
    | item => exact .inl member
    | handle id =>
      have same :=
        handle_project world handle id change Handle.subscriptions subscriptions
      rw [World.kept, same] at member
      exact .inl member
  · obtain ⟨object, name⟩ := slot
    cases object with
    | bag => exact plain
    | widget => exact plain
    | handle id =>
      simp only [Plain, handle_updateHandle] at plain ⊢
      split at plain
      case isTrue here =>
        obtain ⟨rfl, _⟩ := here
        exact imports name plain
      case isFalse => exact plain
  · obtain ⟨object, name⟩ := slot
    cases same
    simp only [Plain] at plain
    rw [plain]
    rw [handle_updateHandle] at plain
    split at plain
    case isTrue here =>
      obtain ⟨rfl, _⟩ := here
      exact (imports name plain).symm
    case isFalse => exact plain.symm

/-! ## Loops and records -/

/-- Objects are as they were; loops, items, records and the listeners of lists
may differ. -/
structure SameObjects (world after : World σ) : Prop where
  bags : after.bags = world.bags
  widgets : after.widgets = world.widgets
  environment : after.globals = world.globals ∧ after.resources = world.resources ∧
    after.files = world.files ∧ after.controllers = world.controllers ∧
      after.loaded = world.loaded ∧ after.converters = world.converters
  listCount : after.lists.size = world.lists.size
  items : ∀ id, (after.list id).items = (world.list id).items
  handleCount : after.handles.size = world.handles.size
  handles : ∀ id, (after.handle id).name = (world.handle id).name ∧
    (after.handle id).controller = (world.handle id).controller ∧
      (after.handle id).nodes = (world.handle id).nodes ∧
        (after.handle id).imports = (world.handle id).imports

namespace SameObjects

theorem bag (same : SameObjects world after) (id : BagId) :
    after.bag id = world.bag id := by
  simp only [World.bag, same.bags]

theorem widget (same : SameObjects world after) (id : WidgetId) :
    after.widget id = world.widget id := by
  simp only [World.widget, same.widgets]

theorem fits (same : SameObjects world after) : Value.Fits world after :=
  ⟨Nat.le_of_eq (congrArg Store.size same.bags.symm),
    Nat.le_of_eq same.listCount.symm,
    Nat.le_of_eq (congrArg Store.size same.widgets.symm),
    Nat.le_of_eq same.handleCount.symm⟩

/-- Worlds with the same objects agree. -/
theorem agrees (same : SameObjects world after) : world.Agrees after where
  globals := same.environment.1
  resources := same.environment.2.1
  files := same.environment.2.2.1
  converters := same.environment.2.2.2.2.2
  bagType id _ := by rw [same.bag]
  items id _ := same.items id
  cls id _ := by rw [same.widget]
  name id _ := (same.handles id).1
  controller id _ := (same.handles id).2.1
  nodes id aliasName node _ found := by
    simpa only [aliasWidget?, (same.handles id).2.2.1] using found

theorem listenersAt (same : SameObjects world after) (post : BagId ⊕ WidgetId) :
    after.listenersAt post = world.listenersAt post := by
  cases post with
  | inl id => simp only [World.listenersAt, same.bag]
  | inr id => simp only [World.listenersAt, same.widget]

theorem announcer (same : SameObjects world after) (object : ObjectId) :
    after.announcer object = world.announcer object := by
  cases object with
  | bag => rfl
  | widget => rfl
  | handle id => simp only [World.announcer, (same.handles id).2.1]

theorem plain (same : SameObjects world after) {slot : ObjectId × String}
    (plain : after.Plain slot) : world.Plain slot := by
  obtain ⟨object, name⟩ := slot
  cases object with
  | bag => trivial
  | widget id => simpa only [Plain, same.widget] using plain
  | handle id => simpa only [Plain, (same.handles id).2.2.2] using plain

/-- They know the same names, if live properties and loops name no more. -/
theorem sound (same : SameObjects world after)
    (sound : world.Sound world.loaded)
    (bindings :
      ∀ id binding,
        after.binding? id = some binding →
          (∃ old,
            world.binding? id = some old ∧ binding.handle = old.handle ∧
            binding.widget = old.widget ∧ binding.scope = old.scope) ∨
          (binding.handle.index < world.handles.size ∧
           binding.widget.index < world.widgets.size ∧
           binding.scope.Known world world.loaded))
    (blocks :
      ∀ id block,
        after.block? id = some block →
          (∃ old,
            world.block? id = some old ∧ block.handle = old.handle ∧
            block.parent = old.parent ∧ block.scope = old.scope) ∨
          (block.handle.index < world.handles.size ∧
           block.parent.index < world.widgets.size ∧
           block.scope.Known world world.loaded)) :
    after.Sound world.loaded := by
  refine sound.extend {
    fits := same.fits
    globals := same.environment.1
    controllers := same.environment.2.2.2.1
    values := fun id _ member => .inl (same.bag id ▸ member)
    items := fun id _ member => .inl (same.items id ▸ member)
    fields := fun id _ member =>
      .inl ⟨same.widget id ▸ member, by rw [same.widget]⟩
    handles := fun id inside =>
      .inl ⟨same.handleCount ▸ inside, (same.handles id).2.1⟩
    nodes := fun id _ member => .inl ((same.handles id).2.2.1 ▸ member)
    imports := fun id _ member => .inl ((same.handles id).2.2.2 ▸ member)
    bindings := ?_
    blocks := ?_ }
  · intro id binding found
    rw [same.handleCount, same.widgets]
    exact (bindings id binding found).imp_right fun known =>
      ⟨known.1, known.2.1, Scope.Known.mono same.fits (Nat.le_refl _) known.2.2⟩
  · intro id block found
    rw [same.handleCount, same.widgets]
    exact (blocks id block found).imp_right fun known =>
      ⟨known.1, known.2.1, Scope.Known.mono same.fits (Nat.le_refl _) known.2.2⟩

/-- A change of records and loops alters nothing that can be read. -/
theorem alters (same : SameObjects world after)
    (bindings : after.bindings = world.bindings)
    (kept :
      ∀ keeper, ∀ record ∈ after.kept keeper,
        record ∈ world.kept keeper ∨ ∃ list number, record = .list list number)
    (blocks :
      ∀ id block,
        after.block? id = some block →
          (∃ old,
            world.block? id = some old ∧ block.handle = old.handle ∧
            block.parent = old.parent ∧ block.scope = old.scope) ∨
          (block.handle.index < world.handles.size ∧
           block.parent.index < world.widgets.size ∧
           block.scope.Known world world.loaded)) : Alters world after where
  agrees := same.agrees
  fits := same.fits
  loaded := same.environment.2.2.2.2.1
  bindings
  sound sound := same.sound sound (fun id binding found => .inl ⟨binding, by
    simpa only [World.binding?, bindings] using found, rfl, rfl, rfl⟩) blocks
  listeners := same.listenersAt
  kept
  plain _ _ := same.plain

end SameObjects

/-- A slot shows the same in worlds with the same objects. -/
theorem SameObjects.sees (same : SameObjects world after)
    (slot : ObjectId × String) : after.sees slot = world.sees slot := by
  obtain ⟨object, name⟩ := slot
  cases object with
  | bag id => simp only [World.sees, BagId.get?, same.bag]
  | widget id => simp only [World.sees, same.widget]
  | handle id =>
    simp only [World.sees, BagId.get?, same.bag, (same.handles id).2.1,
      (same.handles id).2.2.2]

theorem SameObjects.children (same : SameObjects world after) (parent : WidgetId) :
    (world.widget parent).children ⊆ (after.widget parent).children := by
  simp only [World.widget, same.widgets]
  exact List.Subset.refl _

/-- A change of records and loops furnishes the world. -/
theorem SameObjects.furnishes (same : SameObjects world after)
    (bindings : after.bindings = world.bindings)
    (kept :
      ∀ keeper, ∀ record ∈ after.kept keeper,
        record ∈ world.kept keeper ∨ ∃ list number, record = .list list number)
    (blocks :
      ∀ id block,
        after.block? id = some block →
        ∃ old,
          world.block? id = some old ∧ block.handle = old.handle ∧
          block.parent = old.parent ∧ block.scope = old.scope) :
    Furnishes world after where
  toAlters :=
    same.alters bindings kept fun id block found => .inl (blocks id block found)
  children := same.children
  blocks id block found := by
    obtain ⟨old, foundOld, _, parent, _⟩ := blocks id block found
    exact ⟨old, foundOld, parent⟩
  sees _ slot _ _ := same.sees slot

/-- A new item does. -/
theorem furnishes_createItem (world : World σ) :
    Furnishes world ((ItemId.create : Action σ ItemId) world).2 := by
  have same : SameObjects world ((ItemId.create : Action σ ItemId) world).2 :=
    ⟨rfl, rfl, ⟨rfl, rfl, rfl, rfl, rfl, rfl⟩, rfl, fun _ => rfl, rfl,
      fun _ => ⟨rfl, rfl, rfl, rfl⟩⟩
  refine same.furnishes rfl (fun keeper record member => .inl ?_)
    fun _ block found => ⟨block, found, rfl, rfl, rfl⟩
  cases keeper with
  | handle => exact member
  | item id =>
    simp only [World.kept, World.item, ItemId.create, Store.get?_add] at member
    split at member
    · cases member
    · exact member

/-- So does an item that comes to keep a registration with a list. -/
theorem furnishes_updateItem (world : World σ) (item : ItemId)
    {change : Item → Item}
    (subscriptions :
      ∀ old, ∀ record ∈ (change old).subscriptions,
        record ∈ old.subscriptions ∨ ∃ list number, record = .list list number) :
    Furnishes world (world.updateItem item change) := by
  have same : SameObjects world (world.updateItem item change) :=
    ⟨rfl, rfl, ⟨rfl, rfl, rfl, rfl, rfl, rfl⟩, rfl, fun _ => rfl, rfl,
      fun _ => ⟨rfl, rfl, rfl, rfl⟩⟩
  refine same.furnishes rfl (fun keeper record member => ?_)
    fun _ block found => ⟨block, found, rfl, rfl, rfl⟩
  cases keeper with
  | handle => exact .inl member
  | item id =>
    rw [World.kept, item_updateItem] at member
    split at member
    · exact subscriptions _ record member
    · exact .inl member

/-- A loop may change its items. -/
theorem furnishes_updateBlock (world : World σ) (block : BlockId)
    {change : Block → Block}
    (keeps :
      ∀ old,
        (change old).handle = old.handle ∧ (change old).parent = old.parent ∧
        (change old).scope = old.scope) :
    Furnishes world (world.updateBlock block change) := by
  have same : SameObjects world (world.updateBlock block change) :=
    ⟨rfl, rfl, ⟨rfl, rfl, rfl, rfl, rfl, rfl⟩, rfl, fun _ => rfl, rfl,
      fun _ => ⟨rfl, rfl, rfl, rfl⟩⟩
  refine same.furnishes rfl
    (fun keeper record member => .inl (by cases keeper <;> exact member))
    fun id changed found => ?_
  rw [block?_updateBlock] at found
  split at found
  · obtain ⟨old, foundOld, rfl⟩ := Option.map_eq_some_iff.mp found
    exact ⟨old, foundOld, keeps old⟩
  · exact ⟨changed, found, rfl, rfl, rfl⟩

/-- A list may change its listeners. -/
theorem furnishes_updateList (world : World σ) (list : ListId)
    {change : ObservableList → ObservableList}
    (items : ∀ old, (change old).items = old.items) :
    Furnishes world (world.updateList list change) := by
  have same : SameObjects world (world.updateList list change) := by
    refine ⟨rfl, rfl, ⟨rfl, rfl, rfl, rfl, rfl, rfl⟩, Store.size_update ..,
      fun id => ?_, rfl, fun _ => ⟨rfl, rfl, rfl, rfl⟩⟩
    rw [list_updateList]
    split
    · exact items _
    · rfl
  refine same.furnishes rfl ?_ ?_
  · intro keeper record member
    exact .inl (by cases keeper <;> exact member)
  · intro _ block found
    exact ⟨block, found, rfl, rfl, rfl⟩

/-- Somebody may keep a registration with a list. -/
theorem furnishes_keepList (world : World σ) (keeper : SubscriptionKeeper)
    (list : ListId) (number : Nat) :
    Furnishes world (world.keepSubscription keeper (.list list number)) := by
  cases keeper with
  | item id =>
    refine furnishes_updateItem world id fun old record member => ?_
    rcases List.mem_append.mp member with before | new
    · exact .inl before
    · exact .inr ⟨list, number, List.mem_singleton.mp new⟩
  | handle id =>
    have same :
        SameObjects world (world.keepSubscription (.handle id)
          (.list list number)) := by
      refine ⟨rfl, rfl, ⟨rfl, rfl, rfl, rfl, rfl, rfl⟩, rfl, fun _ => rfl,
        Store.size_update .., fun other => ?_⟩
      simp only [keepSubscription, handle_updateHandle]
      split <;> exact ⟨rfl, rfl, rfl, rfl⟩
    refine same.furnishes rfl (fun keeper record member => ?_)
      fun _ block found => ⟨block, found, rfl, rfl, rfl⟩
    cases keeper with
    | item => exact .inl member
    | handle other =>
      simp only [World.kept, keepSubscription, handle_updateHandle] at member
      split at member
      · rcases List.mem_append.mp member with before | new
        · exact .inl before
        · exact .inr ⟨list, number, List.mem_singleton.mp new⟩
      · exact .inl member

/-- A loop is begun below a widget in the tree. -/
theorem Settled.createBlock {roots : List Owned} {stack : List BindingId}
    {pending : List Callback}
    (settled : Settled none roots world stack pending) {block : Block}
    (held : world.Held roots block.parent)
    (handle : block.handle.index < world.handles.size)
    (parent : block.parent.index < world.widgets.size)
    (scope : block.scope.Known world world.loaded) :
    Alters world ((BlockId.create block : Action σ BlockId) world).2 ∧
    Settled none roots ((BlockId.create block : Action σ BlockId) world).2 stack
      pending := by
  have same :
      SameObjects world ((BlockId.create block : Action σ BlockId) world).2 :=
    ⟨rfl, rfl, ⟨rfl, rfl, rfl, rfl, rfl, rfl⟩, rfl, fun _ => rfl, rfl,
      fun _ => ⟨rfl, rfl, rfl, rfl⟩⟩
  have before : ∀ id found,
      ((BlockId.create block : Action σ BlockId) world).2.block? id =
        some found →
      world.block? id = some found ∨ found = block := by
    intro id found foundAfter
    simp only [World.block?, BlockId.create, Store.get?_add] at foundAfter
    split at foundAfter
    · exact .inr (Option.some.inj foundAfter).symm
    · exact .inl foundAfter
  have alters :=
    same.alters rfl (fun keeper record member =>
      .inl (by cases keeper <;> exact member)) fun id found foundAfter => by
        rcases before id found foundAfter with old | rfl
        · exact .inl ⟨found, old, rfl, rfl, rfl⟩
        · exact .inr ⟨handle, parent, scope⟩
  have mono : ∀ id, world.Held roots id →
      ((BlockId.create block : Action σ BlockId) world).2.Held roots id :=
    fun id held => held.mono (List.Subset.refl _) same.children
  refine ⟨alters, List.nil_append pending ▸
    settled.transition alters.transition mono ?_ ?_⟩
  · intro id found foundAfter
    rcases before id found foundAfter with old | rfl
    · exact mono _ (settled.heldBlocks id found old)
    · exact mono _ held
  · exact fun id binding _ _ _ _ => .inl fun slot _ => same.sees slot

end LiveMarkup.World
