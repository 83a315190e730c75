import LiveMarkup.Proofs.Construction.Moments

/-!
# Setting the properties of new widgets

While properties are set, the widget set is asked to read and to write
properties and styles, and for nothing else; no widget is made, and no handler
runs.  This includes the live properties that follow what is written.
-/

namespace LiveMarkup

variable {σ : Type} {note : HostCall → σ → σ} {host : Host σ} {deliver : Deliver σ}

/-- A call of the widget set that reads or writes a property or a style. -/
structure Access where
  call : ToolkitCall
  accesses : call.accessed?.isSome

namespace World

variable {world middle after : World σ}

/-- Properties and styles were accessed, in order. -/
structure Accesses (note : HostCall → σ → σ) (accesses : List Access)
    (world after : World σ) : Prop where
  passes : Passes note (accesses.map fun access => .call access.call) [] world after
  widgetCount : after.widgets.size = world.widgets.size

/-- Some properties and styles were accessed, whichever. -/
def AccessesSome (note : HostCall → σ → σ) (world after : World σ) : Prop :=
  ∃ accesses, Accesses note accesses world after

namespace Accesses

theorem trans {first second : List Access}
    (left : Accesses note first world middle)
    (right : Accesses note second middle after) :
    Accesses note (first ++ second) world after where
  passes := by
    simpa only [List.map_append, List.append_nil]
      using left.passes.trans right.passes
  widgetCount := right.widgetCount.trans left.widgetCount

theorem some {accesses : List Access} (done : Accesses note accesses world after) :
    AccessesSome note world after :=
  ⟨accesses, done⟩

/-- Nothing was accessed. -/
theorem none (passes : Passes note [] [] world after)
    (widgetCount : after.widgets.size = world.widgets.size) :
    Accesses note [] world after :=
  ⟨passes, widgetCount⟩

theorem record (note : HostCall → σ → σ) (world : World σ) (access : Access) :
    Accesses note [access] world (world.record access.call) :=
  ⟨Passes.record note world access.call, rfl⟩

/-- A property of a widget is written, and the widget set was asked for that. -/
theorem set (note : HostCall → σ → σ) (world : World σ) (widget : WidgetId)
    (name shown : String) (fields : List (String × Field)) :
    Accesses note [⟨.set widget name shown, rfl⟩] world
      ((world.record (.set widget name shown)).updateWidget widget
        ({ · with fields })) := by
  have asked := Passes.record note world (.set widget name shown)
  have written :
      (world.record (.set widget name shown)).Lasts
        ((world.record (.set widget name shown)).updateWidget widget
          ({ · with fields })) :=
    World.lasts_updateWidget _ widget fun _ => ⟨rfl, rfl⟩
  refine ⟨{ asked with
    toLasts := asked.toLasts.trans written
    fields := fun other _ unset => ?_ }, Store.size_update ..⟩
  have apart : other ≠ widget := by
    rintro rfl
    exact unset ⟨name, shown, List.mem_cons_self⟩
  rw [widget_updateWidget, if_neg fun same => apart same.1.symm]
  rfl

end Accesses

theorem AccessesSome.of_passes (passes : Passes note [] [] world after)
    (widgetCount : after.widgets.size = world.widgets.size) :
    AccessesSome note world after :=
  (Accesses.none passes widgetCount).some

/-- Nothing was accessed where neither what documents are built from nor
anything noted has changed. -/
theorem AccessesSome.of_lasts (lasts : Lasts world after)
    (fields :
      ∀ id : WidgetId,
        id.index < world.widgets.size →
        (after.widget id).fields = (world.widget id).fields)
    (journal : after.journal = world.journal)
    (readied : after.readied = world.readied) (host : after.host = world.host)
    (errors : after.errors = world.errors)
    (widgetCount : after.widgets.size = world.widgets.size) :
    AccessesSome note world after :=
  .of_passes (.of_lasts lasts fields journal readied host errors) widgetCount

theorem AccessesSome.passesSome (some : AccessesSome note world after) :
    PassesSome note world after :=
  some.elim fun _ done => done.passes.some

instance : Chains (AccessesSome note : World σ → World σ → Prop) where
  refl world := .of_passes (.refl world) rfl
  trans := by
    rintro world middle after ⟨first, left⟩ ⟨second, right⟩
    exact (left.trans right).some

instance : AllowsUpkeep (AccessesSome note : World σ → World σ → Prop) where
  upkeep upkeep := .of_passes (.of_upkeep upkeep) upkeep.widgetCount

instance : AllowsTending (AccessesSome note : World σ → World σ → Prop) where
  opens widget :=
    { record := fun world call accesses =>
      (Accesses.record note world ⟨call, by rw [accesses]; rfl⟩).some
      sets := fun world name shown fields =>
        (Accesses.set note world widget name shown fields).some
      overrides := fun world _ =>
        .of_lasts (world.lasts_updateWidget widget fun _ => ⟨rfl, rfl⟩)
        (fun other _ => widget_project world widget other _ Widget.fields
          fun _ => rfl) rfl rfl
        rfl rfl (Store.size_update ..) }
  pins world pins := .of_passes (.pins note world pins) rfl
  binding world _ _ :=
    .of_lasts (.of_eq rfl rfl rfl rfl rfl rfl rfl) (fun _ _ => rfl) rfl
      rfl rfl rfl rfl
  report _ _ :=
    .of_passes ⟨.of_eq rfl rfl rfl rfl rfl rfl rfl, fun _ _ _ => rfl, rfl,
      (List.append_nil _).symm, ⟨[], rfl, rfl⟩, List.prefix_append _ _⟩ rfl

/-- What listeners of properties do accesses properties and styles only. -/
theorem accesses_heard (records : host.Records note) (depth : Nat)
    (listener : PropertyListener) (changed : String) :
    Action.Within (AccessesSome note)
      (host.deliver depth (.property listener changed)) := by
  induction depth generalizing listener changed with
  | zero =>
    exact fun world => .of_lasts (.of_eq rfl rfl rfl rfl rfl rfl rfl)
      (fun _ _ => rfl) rfl rfl rfl rfl rfl
  | succ depth hypothesis =>
    cases listener with
    | binding id generation property =>
      refine .bind .get fun world => ?_
      dsimp only
      split
      · refine within_refresh ?_ (within_announce hypothesis) id
        intro world id busy
        exact .of_lasts (.of_eq rfl rfl rfl rfl rfl rfl rfl) (fun _ _ => rfl)
          rfl rfl rfl rfl rfl
      · exact .pure _
    | host number =>
      intro world
      have answer :=
        records.respond (host.deliver depth) (.property number changed) world
      have run : host.deliver (depth + 1) (.property (.host number) changed) world =
        host.respond (host.deliver depth) (.property number changed) world := rfl
      rw [run, answer]
      exact .of_passes (.heard note world (.property number changed)) rfl

/-! ## What is kept in existence -/

/-- The widgets that operations in progress keep are still kept. -/
def KeepsWidgets (world after : World σ) : Prop :=
  ∀ id : WidgetId, .widget id ∈ world.pins → .widget id ∈ after.pins

theorem KeepsWidgets.of_eq (pins : after.pins = world.pins) :
    world.KeepsWidgets after :=
  fun _ kept => pins ▸ kept

instance : Chains (KeepsWidgets : World σ → World σ → Prop) where
  refl _ _ kept := kept
  trans left right id kept := right id (left id kept)

instance : AllowsSlight (KeepsWidgets : World σ → World σ → Prop) where
  slight slight := .of_eq slight.pins

/-- An operation that keeps something has at its end what it had at its
beginning. -/
theorem keepsWidgets_keeping {α : Type} (things : List Owned)
    (action : Action σ α) :
    Action.Within KeepsWidgets (keeping things action) :=
  fun _ => .of_eq (slight_sweep _).pins

/-- What is not given up remains among what is held. -/
theorem mem_foldl_erase {thing : Owned} {pins things : List Owned}
    (kept : thing ∈ pins) (others : thing ∉ things) :
    thing ∈ things.foldl List.erase pins := by
  induction things generalizing pins with
  | nil => exact kept
  | cons other rest hypothesis =>
    have apart : thing ≠ other := fun same => others (same ▸ List.mem_cons_self)
    refine hypothesis ((List.mem_erase_of_ne apart).mpr kept) ?_
    intro member
    exact others (List.mem_cons_of_mem _ member)

/-- To keep no longer what is no widget. -/
theorem keepsWidgets_unpin (world : World σ) {things : List Owned}
    (others : ∀ id : WidgetId, .widget id ∉ things) :
    world.KeepsWidgets (world.unpin things) := by
  intro id kept
  have pins : (world.unpin things).pins = things.foldl List.erase world.pins :=
    (slight_sweep _).pins
  rw [pins]
  exact mem_foldl_erase kept (others id)

/-- Callbacks that do not hold widgets themselves leave those that are held. -/
theorem keepsWidgets_runAll {callbacks : List Callback}
    (others :
      ∀ callback ∈ callbacks, ∀ (world : World σ) (id : WidgetId),
        .widget id ∉ callback.owns world)
    (each :
      ∀ callback ∈ callbacks, Action.Within KeepsWidgets (deliver callback)) :
    Action.Within KeepsWidgets (runAll deliver callbacks) := by
  have inOrder : Action.Within KeepsWidgets (runEach deliver callbacks) := by
    induction callbacks with
    | nil => exact .pure _
    | cons callback rest hypothesis =>
      refine .bind .get fun world =>
        .bind (each callback List.mem_cons_self) fun _ =>
        .bind (.modify fun later =>
          keepsWidgets_unpin later (others callback List.mem_cons_self world))
          fun _ =>
            hypothesis (fun callback member =>
              others callback (List.mem_cons_of_mem _ member))
              fun callback member => each callback (List.mem_cons_of_mem _ member)
  exact .bind (.modify fun world id kept => List.mem_append_right _ kept)
    fun _ => inOrder

/-- A refresh lets go of the widget that it holds, and of no other. -/
theorem keepsWidgets_refresh (id : BindingId) :
    Action.Within KeepsWidgets (id.refresh deliver) := by
  refine .bind .get fun world => ?_
  split
  · exact .pure _
  · split
    · exact .slight (.modify fun world => world.slight_cancelBinding id)
    · split
      · exact .pure _
      · exact keepsWidgets_keeping _ _

/-- Whatever listens to a change, the widgets that are held meanwhile are held
afterwards. -/
theorem keepsWidgets_heard (records : host.Records note) (depth : Nat)
    (listener : PropertyListener) (changed : String) :
    Action.Within KeepsWidgets
      (host.deliver depth (.property listener changed)) := by
  cases depth with
  | zero => exact fun world => .of_eq rfl
  | succ depth =>
    cases listener with
    | binding id generation property =>
      refine .bind .get fun world => ?_
      dsimp only
      split
      · exact keepsWidgets_refresh id
      · exact .pure _
    | host number =>
      intro world
      have answer :=
        records.respond (host.deliver depth) (.property number changed) world
      have run : host.deliver (depth + 1) (.property (.host number) changed) world =
        host.respond (host.deliver depth) (.property number changed) world := rfl
      rw [run, answer]
      exact .of_eq rfl

/-- So they are when a change is announced. -/
theorem keepsWidgets_notify (records : host.Records note) (depth : Nat)
    (object : ObjectId) (changed : String) :
    Action.Within KeepsWidgets
      (object.notify (host.deliver depth) changed) := by
  refine .bind .get fun world =>
      keepsWidgets_runAll (fun callback member _ id owned => ?_)
        fun callback member => ?_ <;> obtain ⟨listener, _, rfl⟩ :=
    List.mem_map.mp member
  · cases listener with
    | binding => cases List.mem_singleton.mp owned
    | host => cases owned
  · exact keepsWidgets_heard records depth listener changed

end World

/-! ## What building needs of callbacks -/

/-- Callbacks only access properties and styles, and run the handlers of
controllers, which take notes. -/
structure Deliver.Records (deliver : Deliver σ) (note : HostCall → σ → σ) :
    Prop where
  announces : ∀ (object : ObjectId) (changed : String),
    Action.Within (World.AccessesSome note) (object.notify deliver changed)
  keeps : ∀ (object : ObjectId) (changed : String),
    Action.Within World.KeepsWidgets (object.notify deliver changed)
  handles : ∀ (controller : Controller) (name : String) (world : World σ),
      (deliver (.event (.controller controller name) []) world).2 =
        if controller.scripted then
          { world with host := note (.handler controller name []) world.host }
        else world

/-- A host that only takes notes delivers callbacks without building anything.
-/
theorem Host.Records.delivers (records : host.Records note) (depth : Nat) :
    (host.deliver (depth + 1)).Records note where
  announces := within_announce (World.accesses_heard records (depth + 1))
  keeps := World.keepsWidgets_notify records (depth + 1)
  handles controller name world := by
    have run :
        host.deliver (depth + 1) (.event (.controller controller name) []) =
          if controller.scripted then
            host.respond (host.deliver depth) (.handler controller name [])
          else pure () :=
      rfl
    rw [run]
    split
    · rw [records.respond]
    · rfl

/-! ## A property that was set -/

/-- A property of a widget was set: the widget set was asked to write it, unless
its values override styles. -/
def Equipped (widget : WidgetId) (property : Property)
    (accesses : List Access) : Prop :=
  isStyleKey property.key = false →
    ∃ access ∈ accesses, ∃ shown, access.call = .set widget property.key shown

theorem Equipped.before {widget : WidgetId} {property : Property}
    {accesses : List Access} (equipped : Equipped widget property accesses)
    (first : List Access) : Equipped widget property (first ++ accesses) := by
  intro plain
  exact (equipped plain).imp fun _ set => ⟨List.mem_append_right _ set.1, set.2⟩

namespace World

variable {world after : World σ}

/-- Of an attempt to give a property of a widget its value: if it succeeds, the
property was set. -/
abbrev Equipping (note : HostCall → σ → σ) (widget : WidgetId)
    (property : Property) (world : World σ) (attempt : Attempt σ Unit) : Prop :=
  attempt.Ends world
    (fun _ after => ∃ accesses, Accesses note accesses world after ∧
      Equipped widget property accesses) (AccessesSome note world)

/-- A property is set by the second of two steps if the first one only looks at
properties. -/
theorem Equipping.behind {widget : WidgetId} {property : Property} {α : Type}
    {attempt : Attempt σ α} {next : α → Attempt σ Unit}
    (first : Attempt.Within (AccessesSome note) attempt)
    (second :
      ∀ result middle, Equipping note widget property middle (next result)) :
    Equipping note widget property world (attempt >>= next) := by
  have ends :
      attempt.Ends world (fun _ middle => AccessesSome note world middle)
        (AccessesSome note world) :=
    ⟨fun _ _ ran => first.of_run ran, fun _ _ ran => first.of_run ran⟩
  refine ends.bind (fun result middle before => ?_) fun _ failed => failed
  obtain ⟨first, before⟩ := before
  refine (second result middle).mono (fun _ after => ?_) fun after failed =>
    Chains.trans before.some failed
  rintro ⟨accesses, done, equipped⟩
  exact ⟨first ++ accesses, before.trans done, equipped.before first⟩

/-- Setting a property sets just that one, whatever else is accessed on the way.
-/
theorem equipping_setProperty (records : deliver.Records note)
    (widget : WidgetId) (property : Property) (value : Value)
    (world : World σ) :
    Equipping note widget property world
      (Toolkit.setProperty deliver widget property.key value) := by
  have within :=
    (AllowsTending.opens widget).setProperty
      (records.announces (.widget widget)) property.key value
  refine ⟨fun _ after ran => ?_, fun _ after ran => within.of_run ran⟩
  let set : Access := ⟨.set widget property.key (world.shown value), rfl⟩
  rw [Toolkit.setProperty_run, WidgetId.write_run] at ran
  cases found : ((world.record set.call).widget widget).cls.property?
    property.key with
  | none =>
    rw [found] at ran
    cases ran
  | some written =>
    rw [found] at ran
    dsimp only at ran
    split at ran <;> cases ran
    have wrote := Accesses.set note world widget property.key (world.shown value)
    obtain ⟨accesses, done⟩ := records.announces (.widget widget) written.name _
    refine ⟨set :: accesses, (wrote _).trans done, ?_⟩
    intro _
    exact ⟨set, List.mem_cons_self, _, rfl⟩

/-- Applying a property sets it, if it is none of style overrides. -/
theorem equipping_applyProperty (records : deliver.Records note)
    (widget : WidgetId) (property : Property) (value : Value)
    (world : World σ) :
    Equipping note widget property world
      (applyProperty deliver widget property.key value) := by
  have sets := equipping_setProperty records widget property
  unfold applyProperty
  split
  case isTrue style =>
    have plain : ∀ accesses, Equipped widget property accesses := fun _ plain => by
      rw [style] at plain
      cases plain
    have any : ∀ {attempt : Attempt σ Unit},
        Attempt.Within (AccessesSome note) attempt →
        Equipping note widget property world attempt :=
      fun within =>
        ⟨fun _ _ ran => (within.of_run ran).imp fun accesses done =>
          ⟨done, plain accesses⟩, fun _ _ ran => within.of_run ran⟩
    split
    · exact any ((AllowsTending.opens widget).applyOverrides _)
    · exact any (.bind .getThe fun _ => .throw _)
  case isFalse =>
    split
    · refine .behind ((AllowsTending.opens widget).getProperty _)
        fun old middle => ?_
      split
      · exact sets _ middle
      · exact sets _ middle
    · exact sets _ world

/-- A property of a new widget is set, or the attempt has accessed properties
and styles only. -/
theorem equipping_buildProperty (records : deliver.Records note)
    (handle : HandleId) (keeper : SubscriptionKeeper) (widget : WidgetId)
    (scope : Scope) (property : Property) (world : World σ) :
    Equipping note widget property world
      (buildProperty deliver handle keeper widget scope property) := by
  have applies := equipping_applyProperty records widget property
  unfold buildProperty
  split
  · exact .behind (.upkeep (upkeep_eval _ _)) applies
  · exact .behind (.lift (within_createBinding rfl)) fun _ _ =>
      .behind (.upkeep (.modifyThe fun world =>
        world.upkeep_keepSubscription _ _)) fun _ _ =>
        .behind (.upkeep (upkeep_evaluate _)) applies

/-- The widgets that are held while a property is built are held afterwards. -/
theorem keepsWidgets_buildProperty (records : deliver.Records note)
    (handle : HandleId) (keeper : SubscriptionKeeper) (widget : WidgetId)
    (scope : Scope) (property : Property) :
    Attempt.Within KeepsWidgets
      (buildProperty deliver handle keeper widget scope property) := by
  unfold buildProperty
  split
  · refine .bind (.slight (slight_eval _ _)) ?_
    intro _
    exact within_applyProperty records.keeps _ _ _
  · exact .bind (.lift fun world => .of_eq rfl) fun _ =>
      .bind (.slight (.modifyThe fun world =>
        world.slight_keepSubscription _ _)) fun _ =>
        .bind (.slight (slight_evaluate _)) fun _ =>
          within_applyProperty records.keeps _ _ _

end World

end LiveMarkup
