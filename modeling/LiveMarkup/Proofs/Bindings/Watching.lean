import LiveMarkup.Proofs.Bindings.Wiring

/-!
# What an evaluation leaves behind

An evaluation reads, loads and makes lists of rows; apart from that only the
live property it is made for changes, which from then on listens to what was
read.
-/

namespace LiveMarkup

/-- A live property with more that its evaluation has read. -/
structure LiveBinding.Grows (binding later : LiveBinding) : Prop where
  same : later = { binding with
    watched := later.watched
    everWatched := later.everWatched
    subscriptions := later.subscriptions }
  watched : binding.watched ⊆ later.watched
  everWatched : binding.everWatched ⊆ later.everWatched

namespace World

variable {σ : Type}

/-- What a live property has read in its current evaluation. -/
def watching (world : World σ) : Option BindingId → List (ObjectId × String)
  | none => []
  | some id => ((world.binding? id).map (·.watched)).getD []

/-- A world in which all values stay known: nothing but scalars came to lists,
and objects, handles and loops are as they were. -/
theorem Sound.transfer {world after : World σ} {limit : Nat}
    (sound : world.Sound limit) (content : world.SameContent after)
    (handles : after.handles = world.handles)
    (globals : after.globals = world.globals)
    (controllers : after.controllers = world.controllers)
    (listCount : world.lists.size ≤ after.lists.size)
    (items :
      ∀ id, ∀ value ∈ (after.list id).items,
        value ∈ (world.list id).items ∨ value.IsScalar)
    (bindings :
      ∀ id binding,
        after.binding? id = some binding →
        ∃ old,
          world.binding? id = some old ∧ binding.handle = old.handle ∧
          binding.widget = old.widget ∧ binding.scope = old.scope)
    (blocks :
      ∀ id block,
        after.block? id = some block →
        ∃ old,
          world.block? id = some old ∧ block.handle = old.handle ∧
          block.parent = old.parent ∧ block.scope = old.scope) :
    after.Sound limit := by
  have handleSame : ∀ id, after.handle id = world.handle id := fun id => by
    simp only [World.handle, handles]
  have fits : Value.Fits world after :=
    ⟨Nat.le_of_eq content.bagCount.symm, listCount,
      Nat.le_of_eq content.widgetCount.symm,
      Nat.le_of_eq (congrArg Store.size handles.symm)⟩
  refine sound.extend {
    fits
    globals
    controllers
    values := ?_
    items := fun id value member =>
      (items id value member).imp_right (·.known after limit)
    fields := ?_
    handles := ?_
    nodes := ?_
    imports := ?_
    bindings := fun id binding found => .inl (bindings id binding found)
    blocks := fun id block found => .inl (blocks id block found) }
  · intro id entry member
    rw [content.values] at member
    exact .inl member
  · intro id entry member
    rw [content.fields] at member
    exact .inl ⟨member, content.cls id⟩
  · intro id inside
    rw [handles] at inside
    exact .inl ⟨inside, congrArg Handle.controller (handleSame id)⟩
  · intro id entry member
    rw [handleSame] at member
    exact .inl member
  · intro id entry member
    rw [handleSame] at member
    exact .inl member

/-- The world after a live property began to listen to a property of an object. -/
def listen (world : World σ) (id : BindingId) (binding : LiveBinding)
    (object : ObjectId) (name : String) : World σ :=
  (world.updateListenersAt (world.announcer object)
    (·.subscribe (.binding id binding.generation name))).updateBinding
    id fun old =>
      { old with
        watched := (object, name) :: old.watched
        everWatched := (object, name) :: old.everWatched.erase (object, name)
        subscriptions := old.subscriptions ++
          [.object object (world.listenersAt (world.announcer object)).next] }

/-- What an evaluation does, step by step: the live property that it is made for
begins to listen to what exists, lists of rows are made, and resources are
loaded. -/
inductive Attends (watcher : Option BindingId) (world : World σ) : World σ → Prop
  | done : Attends watcher world world
  | listen {middle : World σ} {id : BindingId} {binding : LiveBinding}
      {object : ObjectId} (name : String) :
      Attends watcher world middle → watcher = some id →
      middle.binding? id = some binding → middle.Has object →
      middle.HasPost (middle.announcer object) →
      Attends watcher world (middle.listen id binding object name)
  | newList {middle : World σ} (values : List Value) :
      Attends watcher world middle →
      Attends watcher world (middle.newList values).2
  | newResource {middle : World σ} (path : String) (size : Nat) :
      Attends watcher world middle →
      Attends watcher world (middle.newResource path size).2

/-- Attending in two steps is attending to both. -/
theorem Attends.trans {watcher : Option BindingId} {world middle after : World σ}
    (first : Attends watcher world middle) (second : Attends watcher middle after) :
    Attends watcher world after := by
  induction second with
  | done => exact first
  | listen name _ own found has present hypothesis =>
    exact .listen name hypothesis own found has present
  | newList values _ hypothesis => exact .newList values hypothesis
  | newResource path size _ hypothesis => exact .newResource path size hypothesis

/-- Part of an evaluation took place, for a live property if one is named. -/
structure Watches (watcher : Option BindingId) (world after : World σ) : Prop where
  content : world.SameContent after
  rest : after = { world with
    bags := after.bags
    widgets := after.widgets
    lists := after.lists
    bindings := after.bindings
    loaded := after.loaded }
  loaded : world.loaded ≤ after.loaded
  listCount : world.lists.size ≤ after.lists.size
  lists : ∀ id : ListId, id.index < world.lists.size → after.list id = world.list id
  bindingCount : after.bindings.size = world.bindings.size
  others : ∀ id, watcher ≠ some id → after.binding? id = world.binding? id
  own : ∀ id, watcher = some id → ∀ binding, world.binding? id = some binding →
    ∃ later, after.binding? id = some later ∧ binding.Grows later
  sound : ∀ limit, world.Sound limit → after.Sound limit
  wired : world.Wired → after.Wired
  covered : world.Wired → ∀ id, world.Covered id → after.Covered id
  attends : Attends watcher world after

namespace Watches

variable {watcher : Option BindingId} {world middle after : World σ}

theorem refl (watcher : Option BindingId) (world : World σ) :
    Watches watcher world world where
  content := .refl world
  rest := rfl
  loaded := Nat.le_refl _
  listCount := Nat.le_refl _
  lists _ _ := rfl
  bindingCount := rfl
  others _ _ := rfl
  own _ _ binding found :=
    ⟨binding, found, rfl, List.Subset.refl _, List.Subset.refl _⟩
  sound _ sound := sound
  wired wired := wired
  covered _ _ covered := covered
  attends := .done

/-- Watching in two steps is watching both. -/
theorem trans (first : Watches watcher world middle)
    (second : Watches watcher middle after) : Watches watcher world after where
  content := first.content.trans second.content
  rest := by rw [second.rest, first.rest]
  loaded := Nat.le_trans first.loaded second.loaded
  listCount := Nat.le_trans first.listCount second.listCount
  lists id inside :=
    (second.lists id (Nat.lt_of_lt_of_le inside first.listCount)).trans
      (first.lists id inside)
  bindingCount := second.bindingCount.trans first.bindingCount
  others id other := (second.others id other).trans (first.others id other)
  own id same binding found := by
    obtain ⟨between, foundBetween, grows⟩ := first.own id same binding found
    obtain ⟨later, foundLater, growsAgain⟩ :=
      second.own id same between foundBetween
    refine ⟨later, foundLater, ?_,
      List.Subset.trans grows.watched growsAgain.watched,
      List.Subset.trans grows.everWatched growsAgain.everWatched⟩
    rw [growsAgain.same, grows.same]
  sound limit sound := second.sound limit (first.sound limit sound)
  wired wired := second.wired (first.wired wired)
  covered wired id covered :=
    second.covered (first.wired wired) id (first.covered wired id covered)
  attends := first.attends.trans second.attends

theorem handles (watches : Watches watcher world after) :
    after.handles = world.handles := by
  rw [watches.rest]

theorem handle (watches : Watches watcher world after) (id : HandleId) :
    after.handle id = world.handle id := by
  simp only [World.handle, watches.handles]

theorem fits (watches : Watches watcher world after) : Value.Fits world after := by
  refine ⟨Nat.le_of_eq watches.content.bagCount.symm, watches.listCount,
    Nat.le_of_eq watches.content.widgetCount.symm, ?_⟩
  exact Nat.le_of_eq (congrArg Store.size watches.handles.symm)

theorem sees (watches : Watches watcher world after) (slot : ObjectId × String) :
    after.sees slot = world.sees slot :=
  watches.content.sees watches.handles slot

theorem plain (watches : Watches watcher world after) (slot : ObjectId × String) :
    after.Plain slot ↔ world.Plain slot := by
  obtain ⟨object, name⟩ := slot
  cases object with
  | bag id => exact Iff.rfl
  | widget id => simp only [World.Plain, watches.content.cls]
  | handle id => simp only [World.Plain, watches.handle]

theorem aliasWidget? (watches : Watches watcher world after) (handle : HandleId)
    (aliasName : String) :
    after.aliasWidget? handle aliasName = world.aliasWidget? handle aliasName := by
  simp only [World.aliasWidget?, watches.handle]

/-- Worlds agree if only listeners were added to one of them. -/
theorem agrees (watches : Watches watcher world after) : world.Agrees after where
  globals := by rw [watches.rest]
  resources := by rw [watches.rest]
  files := by rw [watches.rest]
  converters := by rw [watches.rest]
  bagType id _ := watches.content.typeName id
  items id inside := by rw [watches.lists id inside]
  cls id _ := watches.content.cls id
  name id _ := by rw [watches.handle]
  controller id _ := by rw [watches.handle]
  nodes id aliasName _ _ found := (watches.aliasWidget? id aliasName).trans found

/-- What the current evaluation has read grows. -/
theorem watching_subset (watches : Watches watcher world after) :
    world.watching watcher ⊆ after.watching watcher := by
  cases watcher with
  | none => exact List.Subset.refl _
  | some id =>
    cases found : world.binding? id with
    | none => simp [watching, found]
    | some binding =>
      obtain ⟨later, foundLater, grows⟩ := watches.own id rfl binding found
      simp only [watching, found, foundLater, Option.map_some, Option.getD_some]
      exact grows.watched

theorem known (watches : Watches watcher world after) {value : Value}
    (known : value.Known world world.loaded) : value.Known after after.loaded :=
  Value.Known.mono watches.fits watches.loaded value known

theorem entriesKnown (watches : Watches watcher world after)
    {entries : List (String × Value)}
    (known : Value.EntriesKnown world world.loaded entries) :
    Value.EntriesKnown after after.loaded entries :=
  Value.EntriesKnown.mono watches.fits watches.loaded entries known

theorem soundLoaded (watches : Watches watcher world after)
    (sound : world.Sound world.loaded) : after.Sound after.loaded :=
  (watches.sound _ sound).raise watches.loaded

end Watches

/-! ## The steps of an evaluation -/

section Listen

variable {world : World σ} {id : BindingId} {binding : LiveBinding}
  {object : ObjectId}
  {name : String}

/-- The live property that begins to listen has the slot among those it watches.
-/
theorem listen_binding_self (found : world.binding? id = some binding) :
    (world.listen id binding object name).binding? id = some
      { binding with
        watched := (object, name) :: binding.watched
        everWatched := (object, name) :: binding.everWatched.erase (object, name)
        subscriptions := binding.subscriptions ++
          [.object object (world.listenersAt (world.announcer object)).next] } := by
  have same :
      (world.updateListenersAt (world.announcer object)
        (·.subscribe (.binding id binding.generation name))).binding? id =
        world.binding? id := by
    cases world.announcer object <;> rfl
  rw [listen, binding?_updateBinding, if_pos rfl, same, found]
  rfl

theorem listen_binding_other {other : BindingId} (different : id ≠ other) :
    (world.listen id binding object name).binding? other =
      world.binding? other := by
  rw [listen, binding?_updateBinding, if_neg different]
  cases world.announcer object <;> rfl

theorem listen_handle (handle : HandleId) :
    (world.listen id binding object name).handle handle = world.handle handle := by
  unfold listen
  cases world.announcer object <;> rfl

theorem listen_announcer (other : ObjectId) :
    (world.listen id binding object name).announcer other =
      world.announcer other := by
  cases other with
  | bag => rfl
  | widget => rfl
  | handle handle => simp only [announcer, listen_handle]

theorem listen_content :
    world.SameContent (world.listen id binding object name) := by
  have same := world.sameContent_updateListenersAt (world.announcer object)
    (·.subscribe (.binding id binding.generation name))
  exact ⟨same.bagCount, same.widgetCount, same.bags, same.widgets⟩

theorem listen_at (present : world.HasPost (world.announcer object)) :
    (world.listen id binding object name).listenersAt (world.announcer object) =
      (world.listenersAt (world.announcer object)).subscribe
        (.binding id binding.generation name) :=
  listenersAt_updateListenersAt_self present _

theorem listen_elsewhere {post : BagId ⊕ WidgetId}
    (different : world.announcer object ≠ post) :
    (world.listen id binding object name).listenersAt post =
      world.listenersAt post :=
  listenersAt_updateListenersAt_of_ne different _

/-- The same objects are there as before. -/
theorem listen_has (other : ObjectId) :
    (world.listen id binding object name).Has other ↔ world.Has other := by
  have content : world.SameContent (world.listen id binding object name) :=
    listen_content
  cases other with
  | bag => simp only [Has, content.bagCount]
  | widget => simp only [Has, content.widgetCount]
  | handle =>
    simp only [Has, listen]
    cases world.announcer object <;> exact Iff.rfl

/-- A listener is an old one, or the new one at its post. -/
theorem mem_listen (present : world.HasPost (world.announcer object))
    {post : BagId ⊕ WidgetId} {entry : Nat × PropertyListener} :
    entry ∈ ((world.listen id binding object name).listenersAt post).entries ↔
      entry ∈ (world.listenersAt post).entries ∨
      (world.announcer object = post ∧
       entry =
         ((world.listenersAt post).next,
            .binding id binding.generation name)) := by
  by_cases here : world.announcer object = post
  · subst here
    rw [listen_at present]
    simp [Listeners.subscribe]
  · rw [listen_elsewhere here]
    simp [here]

/-- Numbers of listeners only grow. -/
theorem le_next_listen (present : world.HasPost (world.announcer object))
    (post : BagId ⊕ WidgetId) :
    (world.listenersAt post).next ≤
      ((world.listen id binding object name).listenersAt post).next := by
  by_cases here : world.announcer object = post
  · subst here
    rw [listen_at present]
    exact Nat.le_succ _
  · exact Nat.le_of_eq (by rw [listen_elsewhere here])

/-- Records belong where they did. -/
theorem listen_belongs (present : world.HasPost (world.announcer object))
    {other : BindingId} {record : Subscription}
    (own : world.Belongs other record) :
    (world.listen id binding object name).Belongs other record := by
  obtain ⟨watched, number, rfl, has, below, only⟩ := own
  refine ⟨watched, number, rfl, (listen_has watched).mpr has, ?_, ?_⟩
  · rw [listen_announcer]
    exact Nat.lt_of_lt_of_le below (le_next_listen present _)
  · intro listener member
    rw [listen_announcer] at member
    rcases (mem_listen present).mp member with old | ⟨_, equal⟩
    · exact only listener old
    · cases equal
      exact absurd below (Nat.lt_irrefl _)

/-- The registrations agree with the records when a live property has begun to
listen: the new record is the number of the new listener. -/
theorem Wired.listen (wired : world.Wired)
    (found : world.binding? id = some binding) (has : world.Has object)
    (present : world.HasPost (world.announcer object)) :
    (world.listen id binding object name).Wired where
  ordered post := by
    by_cases here : world.announcer object = post
    · subst here
      rw [listen_at present]
      exact (wired.ordered _).subscribe _
    · rw [listen_elsewhere here]
      exact wired.ordered post
  heard post number other generation property member := by
    rcases (mem_listen present).mp member with old | ⟨here, equal⟩
    · obtain ⟨before, foundBefore, below, current⟩ :=
        wired.heard post number other generation property old
      by_cases same : id = other
      · subst same
        cases found.symm.trans foundBefore
        refine ⟨_, listen_binding_self found, below, fun now => ?_⟩
        obtain ⟨watched, announced, member⟩ := current now
        exact ⟨watched, (listen_announcer watched).trans announced,
          List.mem_cons_of_mem _ member⟩
      · refine ⟨before, (listen_binding_other same).trans foundBefore, below,
          fun now => ?_⟩
        obtain ⟨watched, announced, member⟩ := current now
        exact ⟨watched, (listen_announcer watched).trans announced, member⟩
    · cases equal
      exact ⟨_, listen_binding_self found, Nat.le_refl _, fun _ =>
        ⟨object, (listen_announcer object).trans here, List.mem_cons_self ..⟩⟩
  records other after foundAfter record member := by
    by_cases same : id = other
    · subst same
      cases (listen_binding_self found).symm.trans foundAfter
      rcases List.mem_append.mp member with old | new
      · exact listen_belongs present (wired.records id binding found record old)
      · cases List.mem_singleton.mp new
        refine ⟨object, _, rfl, (listen_has object).mpr has, ?_, ?_⟩
        · rw [listen_announcer, listen_at present]
          exact Nat.lt_succ_self _
        · intro listener entry
          rw [listen_announcer] at entry
          rcases (mem_listen present).mp entry with old | ⟨_, equal⟩
          · exact absurd ((wired.ordered _).below _ old) (Nat.lt_irrefl _)
          · cases equal
            exact ⟨_, _, rfl⟩
    · rw [listen_binding_other same] at foundAfter
      exact listen_belongs present
        (wired.records other after foundAfter record member)
  watched other after foundAfter slot member := by
    by_cases same : id = other
    · subst same
      cases (listen_binding_self found).symm.trans foundAfter
      rcases List.mem_cons.mp member with rfl | old
      · exact ⟨(listen_has _).mpr has, List.mem_cons_self ..⟩
      · have before := wired.watched id binding found slot old
        refine ⟨(listen_has _).mpr before.1, ?_⟩
        by_cases equal : slot = (object, name)
        · rw [equal]
          exact List.mem_cons_self ..
        · exact List.mem_cons_of_mem _ ((List.mem_erase_of_ne equal).mpr before.2)
    · rw [listen_binding_other same] at foundAfter
      have before := wired.watched other after foundAfter slot member
      exact ⟨(listen_has _).mpr before.1, before.2⟩
  keepers keeper record member := by
    have same : (world.listen id binding object name).kept keeper =
          world.kept keeper := by
      unfold World.listen
      cases world.announcer object <;> rfl
    have count : (world.listen id binding object name).bindings.size =
          world.bindings.size := by
      unfold World.listen
      cases world.announcer object <;> exact Store.size_update ..
    rw [same] at member
    rw [count]
    exact wired.keepers keeper record member
  single other keeper second member secondMember := by
    have same : ∀ keeper, (world.listen id binding object name).kept keeper
        = world.kept keeper := by
      intro keeper
      unfold World.listen
      cases world.announcer object <;> rfl
    rw [same] at member secondMember
    exact wired.single other keeper second member secondMember

/-- What covers a live property goes on to cover it, and the new slot is covered
by the new listener. -/
theorem Covered.listen (found : world.binding? id = some binding)
    (present : world.HasPost (world.announcer object)) {other : BindingId}
    (covered : world.Covered other) :
    (world.listen id binding object name).Covered other := by
  intro after foundAfter slot member
  by_cases same : id = other
  · subst same
    cases (listen_binding_self found).symm.trans foundAfter
    rcases List.mem_cons.mp member with rfl | old
    · refine ⟨(world.listenersAt (world.announcer object)).next, ?_⟩
      rw [listen_announcer]
      exact (mem_listen present).mpr (.inr ⟨rfl, rfl⟩)
    · obtain ⟨number, entry⟩ := covered binding found slot old
      refine ⟨number, ?_⟩
      rw [listen_announcer]
      exact (mem_listen present).mpr (.inl entry)
  · rw [listen_binding_other same] at foundAfter
    obtain ⟨number, entry⟩ := covered after foundAfter slot member
    refine ⟨number, ?_⟩
    rw [listen_announcer]
    exact (mem_listen present).mpr (.inl entry)

/-- Listening to a property is a step of an evaluation. -/
theorem watches_listen (found : world.binding? id = some binding)
    (has : world.Has object)
    (present : world.HasPost (world.announcer object)) :
    Watches (some id) world (world.listen id binding object name) where
  content := listen_content
  rest := by
    unfold listen
    cases world.announcer object <;> rfl
  loaded := by
    unfold listen
    cases world.announcer object <;> exact Nat.le_refl _
  listCount := by
    unfold listen
    cases world.announcer object <;> exact Nat.le_refl _
  lists := by
    unfold listen
    cases world.announcer object <;> exact fun _ _ => rfl
  bindingCount := by
    unfold listen
    cases world.announcer object <;> exact Store.size_update ..
  others other different :=
    listen_binding_other fun same => different (congrArg some same)
  own other same old foundOld := by
    cases same
    cases found.symm.trans foundOld
    refine ⟨_, listen_binding_self found, rfl, List.subset_cons_self .., ?_⟩
    intro slot member
    by_cases equal : slot = (object, name)
    · rw [equal]
      exact List.mem_cons_self ..
    · exact List.mem_cons_of_mem _ ((List.mem_erase_of_ne equal).mpr member)
  sound limit sound := by
    refine sound.transfer listen_content ?_ ?_ ?_ ?_ ?_ ?_ ?_
    · unfold listen
      cases world.announcer object <;> rfl
    · unfold listen
      cases world.announcer object <;> rfl
    · unfold listen
      cases world.announcer object <;> rfl
    · unfold listen
      cases world.announcer object <;> exact Nat.le_refl _
    · unfold listen
      cases world.announcer object <;> exact fun _ _ member => .inl member
    · intro other after foundAfter
      by_cases same : id = other
      · subst same
        cases (listen_binding_self found).symm.trans foundAfter
        exact ⟨binding, found, rfl, rfl, rfl⟩
      · rw [listen_binding_other same] at foundAfter
        exact ⟨after, foundAfter, rfl, rfl, rfl⟩
    · unfold listen
      cases world.announcer object <;>
        exact fun _ block found => ⟨block, found, rfl, rfl, rfl⟩
  wired wired := wired.listen found has present
  covered _ _ covered := covered.listen found present
  attends := .listen name .done rfl found has present

end Listen

/-- Making a list of scalars is a step of an evaluation. -/
theorem watches_newList (watcher : Option BindingId) (world : World σ)
    (values : List Value) (scalars : ∀ value ∈ values, value.IsScalar) :
    Watches watcher world (world.newList values).2 where
  content := ⟨rfl, rfl, fun _ => rfl, fun _ => rfl⟩
  rest := rfl
  loaded := Nat.le_refl _
  listCount := by
    rw [newList, Store.size_add]
    exact Nat.le_succ _
  lists id inside := Store.getD_add_of_lt inside
  bindingCount := rfl
  others _ _ := rfl
  own _ _ binding found :=
    ⟨binding, found, rfl, List.Subset.refl _, List.Subset.refl _⟩
  sound limit sound := by
    refine sound.transfer ⟨rfl, rfl, fun _ => rfl, fun _ => rfl⟩ rfl rfl
      rfl ?_ ?_ ?_ ?_
    · rw [newList, Store.size_add]
      exact Nat.le_succ _
    · intro id value member
      simp only [list, newList, Store.get?_add] at member
      split at member
      · exact .inr (scalars value member)
      · exact .inl member
    · exact fun _ binding found => ⟨binding, found, rfl, rfl, rfl⟩
    · exact fun _ block found => ⟨block, found, rfl, rfl, rfl⟩
  wired wired := { wired with }
  covered _ _ covered := covered
  attends := .newList values .done

/-- Loading a resource is a step of an evaluation. -/
theorem watches_newResource (watcher : Option BindingId) (world : World σ)
    (path : String) (size : Nat) :
    Watches watcher world (world.newResource path size).2 where
  content := ⟨rfl, rfl, fun _ => rfl, fun _ => rfl⟩
  rest := rfl
  loaded := Nat.le_succ _
  listCount := Nat.le_refl _
  lists _ _ := rfl
  bindingCount := rfl
  others _ _ := rfl
  own _ _ binding found :=
    ⟨binding, found, rfl, List.Subset.refl _, List.Subset.refl _⟩
  sound _ sound := sound.transfer ⟨rfl, rfl, fun _ => rfl, fun _ => rfl⟩ rfl rfl rfl
    (Nat.le_refl _) (fun _ _ member => .inl member)
    (fun _ binding found => ⟨binding, found, rfl, rfl, rfl⟩)
    fun _ block found => ⟨block, found, rfl, rfl, rfl⟩
  wired wired := { wired with }
  covered _ _ covered := covered
  attends := .newResource path size .done

end World

end LiveMarkup
