import LiveMarkup.Proofs.World.Operations
import LiveMarkup.Proofs.World.Outcomes

/-!
# Moments of construction

While a document is built, the widget set is called and widgets become ready.
The world notes both: calls in its journal, and widgets that become ready
together with the number of calls until then.  So the notes tell the moments of
both kinds in their one order.

The hosts here change nothing.  They take note of what they are called for, and
what they have noted tells which handlers have run.
-/

namespace LiveMarkup

variable {σ : Type}

/-- Something that the world notes while a document is built. -/
inductive Moment where
  /-- The widget set is called. -/
  | call (call : ToolkitCall)
  /-- A widget raises `ready`. -/
  | ready (widget : WidgetId)
deriving DecidableEq, Repr

namespace Moment

/-- The call of the widget set at a moment. -/
def call? : Moment → Option ToolkitCall
  | call entry => some entry
  | ready _ => none

/-- The widget that becomes ready at a moment. -/
def ready? : Moment → Option WidgetId
  | call _ => none
  | ready widget => some widget

/-- The calls of the widget set, in order. -/
def calls (moments : List Moment) : List ToolkitCall := moments.filterMap call?

/-- The widgets that become ready, in order. -/
def readies (moments : List Moment) : List WidgetId := moments.filterMap ready?

/-- The widgets that become ready, each with the number of calls until then, if
there were some before. -/
def marks : Nat → List Moment → List (WidgetId × Nat)
  | _, [] => []
  | count, call _ :: rest => marks (count + 1) rest
  | count, ready widget :: rest => (widget, count) :: marks count rest

@[simp]
theorem calls_append (first second : List Moment) :
    calls (first ++ second) = calls first ++ calls second :=
  List.filterMap_append ..

@[simp]
theorem readies_append (first second : List Moment) :
    readies (first ++ second) = readies first ++ readies second :=
  List.filterMap_append ..

/-- The marks of moments in a row are counted on. -/
theorem marks_append (count : Nat) (first second : List Moment) :
    marks count (first ++ second) =
      marks count first ++ marks (count + (calls first).length) second := by
  induction first generalizing count with
  | nil => rfl
  | cons moment rest hypothesis =>
    cases moment with
    | call entry =>
      have longer : count + (calls (call entry :: rest)).length =
            count + 1 + (calls rest).length :=
        Nat.add_right_comm count (calls rest).length 1
      rw [longer]
      exact hypothesis (count + 1)
    | ready widget => exact congrArg ((widget, count) :: ·) (hypothesis count)

/-- The widgets with marks are those that become ready. -/
theorem marks_widgets (count : Nat) (moments : List Moment) :
    (marks count moments).map Prod.fst = readies moments := by
  induction moments generalizing count with
  | nil => rfl
  | cons moment rest hypothesis =>
    cases moment with
    | call => exact hypothesis (count + 1)
    | ready widget => exact congrArg (widget :: ·) (hypothesis count)

/-- The widget set is asked to write a property of a widget at one of the
moments. -/
def Sets (moments : List Moment) (widget : WidgetId) : Prop :=
  ∃ name shown, .call (.set widget name shown) ∈ moments

theorem Sets.append_left {moments : List Moment} {widget : WidgetId}
    (sets : Sets moments widget) (more : List Moment) :
    Sets (moments ++ more) widget := by
  obtain ⟨name, shown, member⟩ := sets
  exact ⟨name, shown, List.mem_append_left more member⟩

theorem Sets.append_right {moments : List Moment} {widget : WidgetId}
    (sets : Sets moments widget) (before : List Moment) :
    Sets (before ++ moments) widget := by
  obtain ⟨name, shown, member⟩ := sets
  exact ⟨name, shown, List.mem_append_right before member⟩

end Moment

/-! ## Hosts that take notes -/

/-- Whether a host is called because a handler of a controller is to run. -/
def HostCall.isHandler : HostCall → Bool
  | .handler .. => true
  | _ => false

/-- A host changes nothing, but takes note of what it is called for. -/
structure Host.Records (host : Host σ) (note : HostCall → σ → σ) : Prop where
  respond : ∀ (deliver : Deliver σ) (call : HostCall) (world : World σ),
      host.respond deliver call world =
        ((), { world with host := note call world.host })

namespace World

/-- Some moments have passed, in order, and some handlers of controllers have
run, in order.  Whatever documents are built from is as before, and so is what a
widget holds if nobody has set a property of it. -/
structure Passes (note : HostCall → σ → σ) (moments : List Moment)
    (handled : List HostCall) (world after : World σ) :
    Prop extends Lasts world after where
  fields : ∀ id : WidgetId,
      id.index < world.widgets.size → ¬ Moment.Sets moments id →
      (after.widget id).fields = (world.widget id).fields
  journal : after.journal = (Moment.calls moments).reverse ++ world.journal
  readied :
      after.readied = world.readied ++ Moment.marks world.journal.length moments
  host : ∃ heard : List HostCall,
      after.host = heard.foldl (fun state call => note call state) world.host ∧
      heard.filter HostCall.isHandler = handled
  errors : world.errors <+: after.errors

/-- Some moments have passed, whichever. -/
def PassesSome (note : HostCall → σ → σ) (world after : World σ) : Prop :=
  ∃ moments handled, Passes note moments handled world after

variable {note : HostCall → σ → σ} {moments more : List Moment}
  {handled others : List HostCall}
  {world middle after : World σ}

namespace Passes

theorem some (passes : Passes note moments handled world after) :
    world.PassesSome note after :=
  ⟨moments, handled, passes⟩

theorem refl (world : World σ) : Passes note [] [] world world :=
  ⟨.refl world, fun _ _ _ => rfl, rfl, (List.append_nil _).symm, ⟨[], rfl, rfl⟩,
    List.prefix_refl _⟩

/-- One passage after the other is a passage through the moments of both. -/
theorem trans (left : Passes note moments handled world middle)
    (right : Passes note more others middle after) :
    Passes note (moments ++ more) (handled ++ others) world after where
  toLasts := left.toLasts.trans right.toLasts
  fields id inside unset := by
    have before := left.fields id inside fun sets => unset (sets.append_left more)
    have later := right.fields id (Nat.lt_of_lt_of_le inside left.widgetsGrow)
      fun sets => unset (sets.append_right moments)
    exact later.trans before
  journal := by
    rw [right.journal, left.journal, Moment.calls_append, List.reverse_append,
      List.append_assoc]
  readied := by
    rw [right.readied, left.readied, left.journal, Moment.marks_append,
      List.append_assoc, List.length_append, List.length_reverse, Nat.add_comm]
  host := by
    obtain ⟨heard, first, run⟩ := left.host
    obtain ⟨later, second, ran⟩ := right.host
    refine ⟨heard ++ later, ?_, ?_⟩
    · rw [second, first, List.foldl_append]
    · rw [List.filter_append, run, ran]
  errors := left.errors.trans right.errors

/-- Nothing passes at changes that nobody notes. -/
theorem of_upkeep (upkeep : Upkeep world after) :
    Passes note [] [] world after where
  toLasts := upkeep.toLasts
  fields id _ _ := upkeep.fields id
  journal := upkeep.journal
  readied := upkeep.readied.trans (List.append_nil _).symm
  host := ⟨[], upkeep.host, rfl⟩
  errors := upkeep.errors ▸ List.prefix_refl _

/-- Nor where whatever is noted and built from is the same. -/
theorem of_lasts (lasts : Lasts world after)
    (fields :
      ∀ id : WidgetId,
        id.index < world.widgets.size →
        (after.widget id).fields = (world.widget id).fields)
    (journal : after.journal = world.journal)
    (readied : after.readied = world.readied) (host : after.host = world.host)
    (errors : after.errors = world.errors) : Passes note [] [] world after where
  toLasts := lasts
  fields id inside _ := fields id inside
  journal := journal
  readied := readied.trans (List.append_nil _).symm
  host := ⟨[], host, rfl⟩
  errors := errors ▸ List.prefix_refl _

theorem upkeep (passes : Passes note moments handled world middle)
    (upkeep : Upkeep middle after) :
    Passes note moments handled world after := by
  simpa only [List.append_nil] using passes.trans (.of_upkeep upkeep)

theorem idle (passes : Passes note moments handled world middle)
    (quiet : Passes note [] [] middle after) :
    Passes note moments handled world after := by
  simpa only [List.append_nil] using passes.trans quiet

theorem record (note : HostCall → σ → σ) (world : World σ) (call : ToolkitCall) :
    Passes note [.call call] [] world (world.record call) :=
  ⟨.of_eq rfl rfl rfl rfl rfl rfl rfl, fun _ _ _ => rfl, rfl,
    (List.append_nil _).symm, ⟨[], rfl, rfl⟩, List.prefix_refl _⟩

theorem noteReady (note : HostCall → σ → σ) (world : World σ) (widget : WidgetId) :
    Passes note [.ready widget] [] world (world.noteReady widget) :=
  ⟨.of_eq rfl rfl rfl rfl rfl rfl rfl, fun _ _ _ => rfl, rfl, rfl,
    ⟨[], rfl, rfl⟩, List.prefix_refl _⟩

theorem pins (note : HostCall → σ → σ) (world : World σ) (pins : List Owned) :
    Passes note [] [] world { world with pins } :=
  .of_lasts (.of_eq rfl rfl rfl rfl rfl rfl rfl) (fun _ _ => rfl) rfl rfl rfl rfl

/-- The end of an operation that kept something. -/
theorem release (passes : Passes note moments handled world after)
    (pins : List Owned) :
    Passes note moments handled world (after.release pins) :=
  (passes.idle (Passes.pins note after pins)).upkeep (upkeep_sweep _)

theorem unpin (note : HostCall → σ → σ) (world : World σ) (things : List Owned) :
    Passes note [] [] world (world.unpin things) :=
  (Passes.pins note world _).upkeep (upkeep_sweep _)

/-- The host is called. -/
theorem heard (note : HostCall → σ → σ) (world : World σ) (call : HostCall) :
    Passes note [] ([call].filter HostCall.isHandler) world
      { world with host := note call world.host } :=
  ⟨.of_eq rfl rfl rfl rfl rfl rfl rfl, fun _ _ _ => rfl, rfl,
    (List.append_nil _).symm, ⟨[call], rfl, rfl⟩, List.prefix_refl _⟩

end Passes

instance : Chains (PassesSome note : World σ → World σ → Prop) where
  refl world := (Passes.refl world).some
  trans := by
    rintro world middle after ⟨moments, handled, left⟩ ⟨more, others, right⟩
    exact (left.trans right).some

instance : AllowsUpkeep (PassesSome note : World σ → World σ → Prop) where
  upkeep upkeep := (Passes.of_upkeep upkeep).some

/-! ## What is still held later -/

/-- Some moments have passed, in order.  What bags and lists hold they hold
still, and so does a widget if nobody has set a property of it.  Signals of
widgets may have been connected. -/
structure Leads (moments : List Moment) (world after : World σ) : Prop where
  globals : after.globals = world.globals
  values : ∀ id, (after.bag id).values = (world.bag id).values
  listsGrow : world.lists.size ≤ after.lists.size
  items : ∀ id : ListId,
      id.index < world.lists.size →
      (after.list id).items = (world.list id).items
  widgetsGrow : world.widgets.size ≤ after.widgets.size
  classes : ∀ id : WidgetId,
      id.index < world.widgets.size →
      (after.widget id).cls = (world.widget id).cls
  fields : ∀ id : WidgetId,
      id.index < world.widgets.size → ¬ Moment.Sets moments id →
      (after.widget id).fields = (world.widget id).fields
  journal : after.journal = (Moment.calls moments).reverse ++ world.journal
  readied :
      after.readied = world.readied ++ Moment.marks world.journal.length moments

/-- Some moments have passed, whichever, and lead from a world to a later one. -/
def LeadsTo (world after : World σ) : Prop := ∃ moments, Leads moments world after

theorem Passes.leads (passes : Passes note moments handled world after) :
    Leads moments world after :=
  { passes with }

/-- If some moments lead to a world and others from there, all of them lead from
the first to the last. -/
theorem Leads.trans (left : Leads moments world middle)
    (right : Leads more middle after) :
    Leads (moments ++ more) world after where
  globals := right.globals.trans left.globals
  values id := (right.values id).trans (left.values id)
  listsGrow := Nat.le_trans left.listsGrow right.listsGrow
  items id inside :=
    (right.items id (Nat.lt_of_lt_of_le inside left.listsGrow)).trans
      (left.items id inside)
  widgetsGrow := Nat.le_trans left.widgetsGrow right.widgetsGrow
  classes id inside :=
    (right.classes id (Nat.lt_of_lt_of_le inside left.widgetsGrow)).trans
      (left.classes id inside)
  fields id inside unset := by
    have before := left.fields id inside fun sets => unset (sets.append_left more)
    have later := right.fields id (Nat.lt_of_lt_of_le inside left.widgetsGrow)
      fun sets => unset (sets.append_right moments)
    exact later.trans before
  journal := by
    rw [right.journal, left.journal, Moment.calls_append, List.reverse_append,
      List.append_assoc]
  readied := by
    rw [right.readied, left.readied, left.journal, Moment.marks_append,
      List.append_assoc, List.length_append, List.length_reverse, Nat.add_comm]

namespace LeadsTo

theorem refl (world : World σ) : world.LeadsTo world := by
  exact ⟨[], rfl, fun _ => rfl, Nat.le_refl _, fun _ _ => rfl, Nat.le_refl _,
    fun _ _ => rfl, fun _ _ _ => rfl, rfl, (List.append_nil _).symm⟩

theorem trans (left : world.LeadsTo middle) (right : middle.LeadsTo after) :
    world.LeadsTo after := by
  obtain ⟨moments, first⟩ := left
  obtain ⟨more, second⟩ := right
  exact ⟨moments ++ more, first.trans second⟩

end LeadsTo

theorem PassesSome.leadsTo (passed : world.PassesSome note after) :
    world.LeadsTo after := by
  obtain ⟨moments, handled, passes⟩ := passed
  exact ⟨moments, passes.leads⟩

/-- The end of an operation is led to. -/
theorem LeadsTo.release (world : World σ) (pins : List Owned) :
    world.LeadsTo (world.release pins) := by
  have upkeep : Upkeep { world with pins } (world.release pins) := upkeep_sweep _
  exact ⟨[], upkeep.globals, upkeep.values, upkeep.listsGrow, upkeep.items,
    upkeep.widgetsGrow, upkeep.classes, fun id _ _ => upkeep.fields id,
    upkeep.journal, upkeep.readied.trans (List.append_nil _).symm⟩

theorem PassesSome.lasts (passed : world.PassesSome note after) :
    world.Lasts after := by
  obtain ⟨moments, handled, passes⟩ := passed
  exact passes.toLasts

theorem Passes.then_some (passes : Passes note moments handled world middle)
    (later : middle.PassesSome note after) : world.PassesSome note after :=
  Chains.trans passes.some later

end World

end LiveMarkup
