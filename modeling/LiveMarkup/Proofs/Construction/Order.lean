import LiveMarkup.Proofs.Construction.Components
import LiveMarkup.Proofs.Places.Bare
import LiveMarkup.Proofs.Results
import Mathlib.Data.List.Nodup

/-!
# The order of construction

A document without imports is built as one tree.  Its widgets are created in
preorder and become ready in postorder, and the handlers of `ready` run in that
order, once for each signal.  When an element comes into a list later, each loop
that listens to the list builds its template for the element in the same order,
and nothing else.

The hosts here take notes and change nothing.
-/

namespace LiveMarkup

variable {σ : Type} {note : HostCall → σ → σ} {host : Host σ} {deliver : Deliver σ}

namespace World

variable {world start middle after : World σ}

/-- Trees were built below a parent in their order, no other widgets were
created or became ready, and no other handlers of controllers have run. -/
structure BuildsInOrder (note : HostCall → σ → σ) (handle : HandleId)
    (parent : WidgetId) (row : WidgetRow) (world after : World σ) : Prop where
  ordered : row.Ordered parent
  journal : after.journal =
        (Moment.calls (row.moments parent)).reverse ++ world.journal
  readied : after.readied =
        world.readied ++ Moment.marks world.journal.length (row.moments parent)
  widgetCount : after.widgets.size = world.widgets.size + row.preorder.length
  created : row.preorder.map (·.1) =
        (List.range' world.widgets.size row.preorder.length).map WidgetId.mk
  once : (Moment.readies (row.moments parent)).Nodup
  handled : ∃ heard : List HostCall,
      after.host = heard.foldl (fun state call => note call state) world.host ∧
      heard.filter HostCall.isHandler =
        readyCallsOf world.registry (world.handle handle).controller
          row.postorder

/-- A row of trees is built in order: created from the top down, ready from the
bottom up, and told to the host in that order. -/
theorem YieldsRow.inOrder {handle : HandleId} {parent : WidgetId} {row : WidgetRow}
    (yields : YieldsRow note world handle parent row world after) :
    BuildsInOrder note handle parent row world after where
  ordered := row.ordered parent
  journal := yields.journal
  readied := yields.readied
  widgetCount := yields.widgetCount
  created := yields.new
  once := by
    have distinct : (row.preorder.map (·.1)).Nodup := by
      rw [show row.preorder.map (·.1) = _ from yields.new]
      refine List.Nodup.map ?_ List.nodup_range'
      intro _ _ same
      exact congrArg WidgetId.index same
    rw [row.readies_moments parent]
    exact ((row.postorder_perm.map (·.1)).nodup_iff).mpr distinct
  handled := yields.host

/-! ## Documents -/

end World

/-- How a loop fills a new item: with the components of its template, and then
with the loops inside. -/
def Block.fill (deliver : Deliver σ) (block : Block) (id : BlockId)
    (item : ItemId) (parent : WidgetId) (scope : Scope) : Attempt σ Unit :=
  do
  fillChildren deliver ⟨block.handle, .item item⟩ id item parent
    block.template.children scope
  fillLoops deliver ⟨block.handle, .item item⟩ id item parent
    block.template.loops scope

namespace World

/-- What one who listens to a list does when an element comes into it at an
index. -/
inductive Responds (note : HostCall → σ → σ) (deliver : Deliver σ)
    (index : Nat) (value : Value) :
    ListListener → World σ → World σ → Prop where
  /-- The host takes note. -/
  | host {number : Nat} {world after : World σ} : Accesses note [] world after →
      Responds note deliver index value (.host number) world after
  /-- The loop is gone, or the widget that it builds below. -/
  | gone {id : BlockId} {world after : World σ} :
      (∀ block,
        world.block? id = some block →
        world.existingWidget? block.parent = none) →
      Accesses note [] world after →
      Responds note deliver index value (.block id) world after
  /-- The template is built for the element. -/
  | built {id : BlockId} {block : Block} {row : WidgetRow}
      {world after : World σ} : world.block? id = some block →
      row.IsForItem (world.Enumerates note after block.handle) block.template
        (block.template.locals index value :: block.scope) →
      BuildsInOrder note block.handle block.parent row world after →
      Responds note deliver index value (.block id) world after
  /-- The template cannot be built for the element, and the reason is reported. -/
  | failed {id : BlockId} {block : Block} {error : UiError}
      {world middle : World σ} : world.block? id = some block →
      (id.buildItem index value (block.fill deliver id)).run world =
        (.error error, middle) →
      PassesSome note world (report error middle).2 →
      Responds note deliver index value (.block id) world
        (report error middle).2

/-- All who listen to a list respond in order, and nothing happens in between. -/
inductive RespondsAll (note : HostCall → σ → σ) (deliver : Deliver σ)
    (index : Nat) (value : Value) :
    List ListListener → World σ → World σ → Prop where
  | nil {world after : World σ} : Accesses note [] world after →
      RespondsAll note deliver index value [] world after
  | cons {listener : ListListener} {rest : List ListListener}
      {world start middle after : World σ} : Accesses note [] world start →
      Responds note deliver index value listener start middle →
      RespondsAll note deliver index value rest middle after →
      RespondsAll note deliver index value (listener :: rest) world after

theorem RespondsAll.behind {index : Nat} {value : Value}
    {listeners : List ListListener} (quiet : Accesses note [] world middle)
    (responses : RespondsAll note deliver index value listeners middle after) :
    RespondsAll note deliver index value listeners world after := by
  cases responses with
  | nil later => exact .nil (quiet.trans later)
  | cons later response rest => exact .cons (quiet.trans later) response rest

end World

end LiveMarkup
