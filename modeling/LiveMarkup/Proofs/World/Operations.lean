import LiveMarkup.Host
import LiveMarkup.Proofs.World.Changes

/-!
# Operations and the callbacks they cause

An operation that causes callbacks is within a relation if its callbacks are.
The relation must allow that things are kept for a while and that live
properties are added; to load and to take down documents, also that documents
are added and come to an end.
-/

namespace LiveMarkup

variable {σ α : Type}

/-- Whether a callback takes a document down. -/
def Callback.Disposes : Callback → Prop
  | .dispose _ => True
  | _ => False

/-- Callbacks are within a relation, apart from those that take documents down. -/
def Deliver.Within (relation : World σ → World σ → Prop) (deliver : Deliver σ) :
    Prop :=
  ∀ callback :
      Callback, ¬ callback.Disposes → Action.Within relation (deliver callback)

/-- A relation that allows what happens while properties of widgets are set and
follow each other. -/
class AllowsTending (relation : World σ → World σ → Prop) :
    Prop extends AllowsUpkeep relation where
  opens : ∀ widget : WidgetId, Opens relation widget
  pins : ∀ (world : World σ) (pins : List Owned), relation world { world with pins }
  binding : ∀ (world : World σ) {binding : LiveBinding}, binding.busy = false →
    relation world { world with bindings := world.bindings.add binding }
  report : ∀ error : UiError, Action.Within relation (report error : Action σ Unit)

/-- A relation that allows what happens while operations keep things and
properties are set. -/
class AllowsKeeping (relation : World σ → World σ → Prop) :
    Prop extends AllowsSlight relation where
  pins : ∀ (world : World σ) (pins : List Owned), relation world { world with pins }
  binding : ∀ (world : World σ) {binding : LiveBinding}, binding.busy = false →
    relation world { world with bindings := world.bindings.add binding }

instance {relation : World σ → World σ → Prop} [AllowsKeeping relation] :
    AllowsTending relation where
  opens := AllowsSlight.opens
  pins := AllowsKeeping.pins
  binding := AllowsKeeping.binding
  report error := .slight (slight_report error)

/-- A relation that allows what happens to the records of documents that come
and go. -/
class AllowsDocuments (relation : World σ → World σ → Prop) :
    Prop extends AllowsKeeping relation where
  handle : ∀ (world : World σ) (handle : Handle),
    relation world { world with handles := world.handles.add handle }
  updateHandle : ∀ (world : World σ) (id : HandleId) (change : Handle → Handle),
    relation world (world.updateHandle id change)
  noteLife : ∀ (world : World σ) (event : LifeEvent),
      relation world (world.noteLife event)
  exhausted : ∀ world : World σ, relation world { world with exhausted := true }

/-- A relation that allows what happens while a document is built. -/
class AllowsBuilding (relation : World σ → World σ → Prop) : Prop
    extends AllowsMinor relation, AllowsKeeping relation

/-- A relation that allows what happens while documents come and go. -/
class AllowsLoading (relation : World σ → World σ → Prop) : Prop
    extends AllowsBuilding relation, AllowsDocuments relation

/-! ## Writing properties -/

section Writing

variable {relation : World σ → World σ → Prop} [AllowsSlight relation]
  {deliver : Deliver σ}

/-- Setting a property of a bag is a minor change with an announcement. -/
theorem within_set
    (notifies :
      ∀ (object : ObjectId) changed,
        Action.Within relation (object.notify deliver changed)) (bag : BagId)
    (name : String) (value : Value) :
    Action.Within relation (bag.set deliver name value) :=
  .bind (.modify fun _ => AllowsSlight.slight
    (.of_eq rfl rfl rfl rfl rfl rfl rfl)) fun _ => notifies _ _

theorem within_applyProperty
    (notifies :
      ∀ (object : ObjectId) changed,
        Action.Within relation (object.notify deliver changed))
    (widget : WidgetId) (key : String) (value : Value) :
    Attempt.Within relation (applyProperty deliver widget key value) :=
  (AllowsSlight.opens widget).applyProperty (notifies (.widget widget)) key value

end Writing

/-! ## Announcing and keeping -/

section Keeping

variable {relation : World σ → World σ → Prop} [AllowsTending relation]
  {deliver : Deliver σ}

theorem AllowsTending.unpin (world : World σ) (things : List Owned) :
    relation world (world.unpin things) :=
  Chains.trans (AllowsTending.pins world _)
    (AllowsUpkeep.upkeep (World.upkeep_sweep _))

/-- Listeners stay within a relation when each of them does. -/
theorem within_runEach {callbacks : List Callback}
    (each : ∀ callback ∈ callbacks, Action.Within relation (deliver callback)) :
    Action.Within relation (runEach deliver callbacks) := by
  induction callbacks with
  | nil => exact .pure _
  | cons callback rest hypothesis =>
    exact .bind .get fun _ => .bind (each callback List.mem_cons_self) fun _ =>
      .bind (.modify fun world => AllowsTending.unpin world _) fun _ =>
        hypothesis fun callback member =>
          each callback (List.mem_cons_of_mem _ member)

theorem within_runAll {callbacks : List Callback}
    (each : ∀ callback ∈ callbacks, Action.Within relation (deliver callback)) :
    Action.Within relation (runAll deliver callbacks) :=
  .bind (.modify fun world => AllowsTending.pins world _) fun _ =>
    within_runEach each

/-- A property is announced within a relation if those who hear of it are. -/
theorem within_announce
    (heard :
      ∀ listener changed,
        Action.Within relation (deliver (.property listener changed)))
    (object : ObjectId) (changed : String) :
    Action.Within relation (object.notify deliver changed) := by
  refine .bind .get fun world => within_runAll fun callback member => ?_
  obtain ⟨listener, _, rfl⟩ := List.mem_map.mp member
  exact heard listener changed

theorem within_notify (delivers : Deliver.Within relation deliver)
    (object : ObjectId) (changed : String) :
    Action.Within relation (object.notify deliver changed) :=
  within_announce (fun _ _ => delivers _ not_false) object changed

theorem within_change (delivers : Deliver.Within relation deliver) (list : ListId)
    (change : ListChange) : Action.Within relation (list.emit deliver change) := by
  refine .bind .get fun world => within_runAll fun callback member => ?_
  obtain ⟨listener, _, rfl⟩ := List.mem_map.mp member
  exact delivers _ not_false

theorem within_keeping {things : List Owned} {action : Action σ α}
    (inner : Action.Within relation action) :
    Action.Within relation (keeping things action) := by
  intro world
  have opened : relation world (world.pin things) := AllowsTending.pins world _
  have ran := inner (world.pin things)
  unfold keeping
  rcases run : action (world.pin things) with ⟨result, after⟩
  rw [run] at ran
  have closed : relation after { after with pins := world.pins } :=
    AllowsTending.pins after _
  exact Chains.trans (Chains.trans opened ran)
    (Chains.trans closed (AllowsUpkeep.upkeep (World.upkeep_sweep _)))

theorem within_attempting {things : List Owned} {attempt : Attempt σ α}
    (inner : Attempt.Within relation attempt) :
    Attempt.Within relation (attempting things attempt) :=
  within_keeping inner

/-- A live property is refreshed within a relation that does not mind that it is
busy in between. -/
theorem within_refresh
    (marks :
      ∀ (world : World σ) (id : BindingId) (busy : Bool),
        relation world (world.updateBinding id ({ · with busy })))
    (notifies :
      ∀ (object : ObjectId) changed,
        Action.Within relation (object.notify deliver changed))
    (id : BindingId) : Action.Within relation (id.refresh deliver) := by
  refine .bind .get fun world => ?_
  split
  · exact .pure _
  · split
    · exact .modify fun world => AllowsUpkeep.upkeep (world.upkeep_cancelBinding id)
    · split
      · exact .pure _
      · refine within_keeping
          (.bind (.modify fun world => marks world id true) fun _ =>
          .bind (Attempt.Within.bind (.upkeep (upkeep_evaluate id)) fun _ =>
            (AllowsTending.opens _).applyProperty (notifies _) _ _) fun outcome =>
              .bind (.modify fun world => marks world id false) fun _ => ?_)
        split
        · exact .pure _
        · exact AllowsTending.report _

theorem within_createBinding {binding : LiveBinding} (idle : binding.busy = false) :
    Action.Within relation (BindingId.create binding : Action σ BindingId) :=
  fun world => AllowsTending.binding world idle

theorem within_buildProperty
    (notifies :
      ∀ (object : ObjectId) changed,
        Action.Within relation (object.notify deliver changed))
    (handle : HandleId) (keeper : SubscriptionKeeper) (widget : WidgetId)
    (scope : Scope) (property : Property) :
    Attempt.Within relation
      (buildProperty deliver handle keeper widget scope property) := by
  unfold buildProperty
  split
  · refine .bind (.upkeep (upkeep_eval _ _)) ?_
    intro _
    exact (AllowsTending.opens _).applyProperty (notifies _) _ _
  · exact .bind (.lift (within_createBinding rfl)) fun _ =>
      .bind (.modifyThe fun world =>
        AllowsUpkeep.upkeep (world.upkeep_keepSubscription _ _)) fun _ =>
        .bind (.upkeep (upkeep_evaluate _)) fun _ =>
          (AllowsTending.opens _).applyProperty (notifies _) _ _

end Keeping

section Raising

variable {relation : World σ → World σ → Prop} [AllowsKeeping relation]
  {deliver : Deliver σ}

theorem within_emit (delivers : Deliver.Within relation deliver)
    (widget : WidgetId) (name : String) (arguments : List Value) :
    Attempt.Within relation (widget.emit deliver name arguments) := by
  refine .bind (.slight (slight_event _ _)) fun event => .bind .getThe fun world =>
    .lift (within_runAll fun callback member => ?_)
  obtain ⟨connection, _, rfl⟩ := List.mem_map.mp member
  exact delivers _ not_false

theorem within_becomeReady (delivers : Deliver.Within relation deliver)
    (widget : WidgetId) :
    Attempt.Within relation (widget.becomeReady deliver) :=
  .bind (.modifyThe fun _ =>
    AllowsSlight.slight (.of_eq rfl rfl rfl rfl rfl rfl rfl)) fun _ =>
      within_emit delivers widget "ready" []

end Raising

/-! ## Changing lists -/

section Lists

variable {relation : World σ → World σ → Prop} [AllowsKeeping relation]
  {deliver : Deliver σ}

theorem within_setItems (list : ListId) (items : List Value) :
    Action.Within relation (list.setItems items : Action σ Unit) :=
  .slight (.modify fun _ => .of_eq rfl rfl rfl rfl rfl rfl rfl)

theorem within_push (delivers : Deliver.Within relation deliver)
    (list : ListId) (value : Value) :
    Action.Within relation (list.push deliver value) := by
  refine .bind .get ?_
  intro _
  exact .bind (within_setItems list _) fun _ => within_change delivers list _

theorem within_extend (delivers : Deliver.Within relation deliver)
    (list : ListId) (values : List Value) :
    Action.Within relation (list.extend deliver values) := by
  induction values with
  | nil => exact .pure _
  | cons value rest hypothesis =>
    exact .bind (within_push delivers list value) fun _ => hypothesis

theorem within_insert (delivers : Deliver.Within relation deliver)
    (list : ListId) (index : Nat) (value : Value) :
    Action.Within relation (list.insert deliver index value) := by
  refine .bind .get fun _ => ?_
  simp only
  split
  · exact .pure _
  · split
    · exact .bind (within_push delivers list value) fun _ => .pure _
    · refine .bind (within_setItems list _) ?_
      intro _
      exact .bind (within_change delivers list _) fun _ => .pure _

/-- Removing a value from a list stays within what its listeners do. -/
theorem within_remove (delivers : Deliver.Within relation deliver)
    (list : ListId) (index : Nat) :
    Action.Within relation (list.remove deliver index) := by
  refine .bind .get fun _ => ?_
  simp only
  split
  · exact .pure _
  · refine .bind (within_setItems list _) ?_
    intro _
    exact .bind (within_change delivers list _) fun _ => .pure _

theorem within_removeItem (delivers : Deliver.Within relation deliver)
    (list : ListId) (value : Value) :
    Action.Within relation (list.removeItem deliver value) := by
  refine .bind .get fun _ => ?_
  split
  · exact .pure _
  · exact .bind (within_remove delivers list _) fun _ => .pure _

/-- Shortening a list stays within what its listeners do. -/
theorem within_truncate {relation : World σ → World σ → Prop}
    [AllowsDocuments relation] (delivers : Deliver.Within relation deliver)
    (list : ListId) (length : Nat) :
    Action.Within relation (list.truncate deliver length) := by
  have cuts : ∀ bound, Action.Within relation (list.cut deliver length bound) := by
    intro bound
    induction bound with
    | zero => exact .modify fun world => AllowsDocuments.exhausted world
    | succ bound hypothesis =>
      refine .bind .get fun _ => ?_
      simp only
      split
      · exact .bind (within_remove delivers list _) fun _ => hypothesis
      · exact .pure _
  exact .bind .get fun _ => cuts _

end Lists

end LiveMarkup
