import Mathlib
import LiveMarkup.Proofs.Bindings.Rendering
import LiveMarkup.Proofs.Results

/-!
# Live properties follow what they read

In a session documents are rendered and properties of bags are set, in any
order.  Whenever the session is at rest, a live property has last been evaluated
to what its expression gives now.
-/

namespace LiveMarkup

variable {σ : Type} {world middle after : World σ} {host : Host σ} {depth : Nat}

namespace World

/-- Nothing has been rendered yet: there are no documents, only the host
listens, and values name only what there is. -/
structure Unrendered (world : World σ) : Prop where
  sound : world.Sound world.loaded
  handles : world.handles.size = 0
  bindings : world.bindings.size = 0
  blocks : world.blocks.size = 0
  items : world.items.size = 0
  ordered : ∀ post, (world.listenersAt post).Ordered
  listeners : ∀ post, ∀ entry ∈ (world.listenersAt post).entries, ∃ number,
      entry.2 = .host number

/-- All there is are bags with plain values and widgets as their classes make
them, and nobody listens to them. -/
structure Blank (world : World σ) : Prop where
  quiet : ∀ bag ∈ world.bags.entries.toList, bag.listeners = .none
  plain : ∀ bag ∈ world.bags.entries.toList, ∀ entry ∈ bag.values, entry.2.IsScalar
  widgets : ∀ widget ∈ world.widgets.entries.toList, ∃ cls, widget = .ofClass cls
  controllers : ∀ entry ∈ world.controllers, entry.2.state.index < world.bags.size
  globals : world.globals = []
  lists : world.lists.size = 0
  handles : world.handles.size = 0
  bindings : world.bindings.size = 0
  blocks : world.blocks.size = 0
  items : world.items.size = 0

/-- A world in which documents have been rendered below widgets that the host
keeps, and properties of bags have been set, beginning with a world in which
nothing was rendered. -/
inductive Session (host : Host σ) (depth : Nat) (start : World σ) : World σ → Prop
  | begin : Session host depth start start
  /-- Properties of bags are set, also of new bags. -/
  | set {world after : World σ} : Session host depth start world →
    world.Sets (host.deliver depth) after → Session host depth start after
  /-- A source text is rendered for a controller. -/
  | render {world after : World σ} {source : String} {controller : Controller}
      {parent : WidgetId} {handle : HandleId} :
      Session host depth start world → world.Held start.held parent →
      parent.index < world.widgets.size →
      controller.state.index < world.bags.size →
      (∀ document,
        Document.read world.converters source = .ok document →
        document.AliasesOutside) →
      (renderSource (host.deliver depth) source controller parent).run world =
        (.ok handle, after) →
      Session host depth start after
  /-- A document is loaded from a file. -/
  | load {world after : World σ} {path : String} {parent : WidgetId}
      {handle : HandleId} :
      Session host depth start world → world.Held start.held parent →
      parent.index < world.widgets.size →
      (LiveMarkup.load (host.deliver depth) parent path).run world =
        (.ok handle, after) →
      Session host depth start after

theorem binding?_of_none (none : world.bindings.size = 0) (id : BindingId) :
    world.binding? id = .none := by
  rw [binding?, Store.get?_of_not_lt]
  omega

theorem block?_of_none (none : world.blocks.size = 0) (id : BlockId) :
    world.block? id = .none := by
  rw [block?, Store.get?_of_not_lt]
  omega

/-- In a world in which nothing was rendered nobody keeps anything. -/
theorem Unrendered.kept (unrendered : world.Unrendered)
    (keeper : SubscriptionKeeper) : world.kept keeper = [] := by
  cases keeper with
  | handle id =>
    rw [World.kept, handle_of_not_lt (by have none := unrendered.handles; omega)]
    rfl
  | item id =>
    have outside : ¬ id.index < world.items.size :=
      by have none := unrendered.items; omega
    simp only [World.kept, World.item, Store.get?_of_not_lt outside]
    rfl

/-! ### Blank worlds -/

namespace Blank

/-- A bag holds plain values and nobody listens to it, whether it was made or
not. -/
theorem bag (blank : world.Blank) (id : BagId) :
    (∀ entry ∈ (world.bag id).values, entry.2.IsScalar) ∧
    (world.bag id).listeners = .none := by
  rw [World.bag]
  cases found : world.bags.get? id.index with
  | none => exact ⟨fun _ member => absurd member List.not_mem_nil, rfl⟩
  | some bag =>
    have member : bag ∈ world.bags.entries.toList :=
      Array.mem_toList_iff.mpr (Array.mem_of_getElem? found)
    exact ⟨blank.plain bag member, blank.quiet bag member⟩

/-- A widget is as its class makes it, if it was made. -/
theorem widget (blank : world.Blank) (id : WidgetId) :
    world.widget id = default ∨ ∃ cls, world.widget id = .ofClass cls := by
  rw [World.widget]
  cases found : world.widgets.get? id.index with
  | none => exact .inl rfl
  | some widget =>
    have member : widget ∈ world.widgets.entries.toList :=
      Array.mem_toList_iff.mpr (Array.mem_of_getElem? found)
    exact .inr (blank.widgets widget member)

theorem handle (blank : world.Blank) (id : HandleId) : world.handle id = default :=
  handle_of_not_lt (by have none := blank.handles; omega)

theorem list (blank : world.Blank) (id : ListId) : world.list id = default := by
  have outside : ¬ id.index < world.lists.size := by have none := blank.lists; omega
  rw [World.list, Store.get?_of_not_lt outside]
  rfl

/-- Values name only what there is, for plain values name nothing. -/
theorem sound (blank : world.Blank) : world.Sound world.loaded where
  globals := by
    rw [blank.globals]
    trivial
  values id := by
    refine (Value.entriesKnown_iff world world.loaded _).mpr fun entry member => ?_
    exact ((blank.bag id).1 entry member).known world world.loaded
  items id value member := by
    rw [blank.list] at member
    cases member
  fields id entry member := by
    rcases blank.widget id with absent | ⟨cls, made⟩
    · rw [absent] at member
      cases member
    · rw [made] at member
      exact (initialFields_furnished world world.loaded member).1
  rows id entry member texts rows := by
    rcases blank.widget id with absent | ⟨cls, made⟩
    · rw [absent] at member
      cases member
    · rw [made] at member ⊢
      exact (initialFields_furnished world world.loaded member).2 texts rows
  states id inside := by
    have none := blank.handles
    omega
  nodes id entry member := by
    rw [blank.handle] at member
    cases member
  imports id entry member := by
    rw [blank.handle] at member
    cases member
  controllers := blank.controllers
  bindings id binding found := by
    rw [binding?_of_none blank.bindings] at found
    cases found
  blocks id block found := by
    rw [block?_of_none blank.blocks] at found
    cases found

/-- Nobody listens anywhere. -/
theorem listenersAt (blank : world.Blank) (post : BagId ⊕ WidgetId) :
    world.listenersAt post = .none := by
  cases post with
  | inl id => exact (blank.bag id).2
  | inr id =>
    rcases blank.widget id with absent | ⟨cls, made⟩
    · rw [World.listenersAt, absent]
      rfl
    · rw [World.listenersAt, made]
      rfl

/-- Nothing has been rendered in a blank world. -/
theorem unrendered (blank : world.Blank) : world.Unrendered where
  sound := blank.sound
  handles := blank.handles
  bindings := blank.bindings
  blocks := blank.blocks
  items := blank.items
  ordered post := by
    rw [blank.listenersAt post]
    exact ⟨nofun, .nil⟩
  listeners post entry member := by
    rw [blank.listenersAt post] at member
    cases member

end Blank

/-- Before anything is rendered, everything is settled. -/
theorem Unrendered.settled (unrendered : world.Unrendered) (roots : List Owned) :
    Settled none roots world [] [] where
  sound := unrendered.sound
  wired := {
    ordered := unrendered.ordered
    heard := fun post number id generation property member => by
      obtain ⟨_, same⟩ := unrendered.listeners post _ member
      cases same
    records := fun id binding found => by
      rw [binding?_of_none unrendered.bindings] at found
      cases found
    watched := fun id binding found => by
      rw [binding?_of_none unrendered.bindings] at found
      cases found
    keepers := fun keeper record member => by
      rw [unrendered.kept] at member
      cases member
    single := fun id keeper other member => by
      rw [unrendered.kept] at member
      cases member }
  held id binding found := by
    rw [binding?_of_none unrendered.bindings] at found
    cases found
  heldBlocks id block found := by
    rw [block?_of_none unrendered.blocks] at found
    cases found
  covered id _ recorded binding found := by
    rw [binding?_of_none unrendered.bindings] at found
    cases found
  resolved id binding _ found := by
    rw [binding?_of_none unrendered.bindings] at found
    cases found
  busy id := ⟨nofun, fun ⟨binding, found, _⟩ => by
    rw [binding?_of_none unrendered.bindings] at found
    cases found⟩
  distinct := .nil
  chain := nofun
  fresh id _ _ _ := .inl fun binding found => by
    rw [binding?_of_none unrendered.bindings] at found
    cases found

/-- Callbacks of a host that only sets properties leave no live property behind. -/
theorem carries_deliver (tame : host.Tame) (depth : Nat) :
    Carries (host.deliver depth) depth :=
  ⟨serves_deliver tame depth, keeps_deliver tame depth⟩

/-- A session leaves no live property behind, and takes none away. -/
theorem Session.extended {start : World σ} (tame : host.Tame)
    (unrendered : start.Unrendered) (outside : start.FilesOutside)
    (session : Session host depth start after)
    (room : after.liveCount + 1 < depth) : Extended start.held start after := by
  have carries : Carries (host.deliver depth) depth := carries_deliver tame depth
  have rooted : start.Rooted start.held :=
    fun thing member => List.mem_append_left _ member
  induction session with
  | begin =>
    exact ⟨unrendered.settled _, .refl _, rfl, fun _ => List.Subset.refl _,
      fun _ _ => rfl, rfl⟩
  | @set world after _ sets hypothesis =>
    have kept := keeps_sets carries.keeps sets
    have extended := hypothesis (by omega)
    have served := carries.serves.sets extended.settled (extended.rooted rooted)
      (show world.liveCount < depth by omega) sets
    exact extended.trans (served.built ⟨0⟩).extended
  | @render world after source controller parent handle _ held inside known
      aliases success hypothesis =>
    have kept :=
      (within_renderSource carries.keeps source controller parent).le success
    have extended := hypothesis (by omega)
    exact extended.trans
      (carries.renderSource extended.settled (extended.rooted rooted)
        ⟨held, inside, nofun⟩ known (outside.later extended.later) aliases
        success room)
  | @load world after path parent handle _ held inside success hypothesis =>
    have kept := (within_load carries.keeps parent path).le success
    have extended := hypothesis (by omega)
    obtain ⟨_, _, gets, success⟩ := Attempt.bind_ok success
    cases gets
    exact extended.trans
      ((carries.loads world.importDepth).extended _ _ _ _ _ _ extended.settled
        (extended.rooted rooted) ⟨held, inside, nofun⟩
        (outside.later extended.later) success room).1

/-- Live properties never go stale: whenever a session is at rest, the latest
evaluation of a live property that its document or loop item still keeps, that
has read plain properties only and does not depend on the property it writes,
gave what evaluating its expression from scratch gives now. -/
theorem live_property_follows {start : World σ} (tame : host.Tame)
    (unrendered : start.Unrendered) (outside : start.FilesOutside)
    (session : Session host depth start after)
    (room : after.liveCount + 1 < depth) {id : BindingId}
    {binding : LiveBinding} (found : after.binding? id = some binding)
    (live : after.Recorded id) (plain : after.Eligible id)
    (independent : ¬ after.Circular id) :
    ∃ outcome,
      binding.outcome = some outcome ∧
      outcome.map Value.forget = (after.scratch binding).map Value.forget := by
  have settled := (session.extended tame unrendered outside room).settled
  rcases settled.fresh id nofun live plain with fresh | circular | ⟨_, waits, _⟩
  · obtain ⟨outcome, gave, gives⟩ := fresh binding found
    exact ⟨outcome, gave, (gives after (.refl after) fun _ _ => rfl).symm⟩
  · exact absurd circular independent
  · cases waits

/-! A label shows a remainder.  When the divisor becomes zero, the latest
evaluation of its text is the one that failed. -/

/-- A host widget, and a bag with a divisor. -/
def divisorStart : World Unit :=
  { bags := ⟨#[⟨"Main", [("divisor", .int 4)], .none⟩]⟩
    widgets := ⟨#[.ofClass Builtin.control]⟩
    held := [.widget ⟨0⟩]
    host := () }

/-- The source text of the label. -/
def divisorSource : String := "Label { text := 10 % $controller.divisor }"

/-- The world after the label was built. -/
def divisorRendered : World Unit :=
  ((renderSource (Host.silent.deliver 5) divisorSource ⟨⟨0⟩, false, []⟩ ⟨0⟩).run
    divisorStart).2

/-- The world after the divisor was set to zero. -/
def divisorZero : World Unit :=
  (BagId.set (Host.silent.deliver 5) ⟨0⟩ "divisor" (.int 0) divisorRendered).2

theorem divisorStart_unrendered : divisorStart.Unrendered := by
  refine Blank.unrendered ⟨?_, ?_, ?_, nofun, rfl, rfl, rfl, rfl, rfl, rfl⟩
  · exact List.forall_mem_singleton.mpr rfl
  · exact List.forall_mem_singleton.mpr (List.forall_mem_singleton.mpr trivial)
  · exact List.forall_mem_singleton.mpr ⟨Builtin.control, rfl⟩

theorem divisorRendered_run :
    (renderSource (Host.silent.deliver 5) divisorSource ⟨⟨0⟩, false, []⟩
      ⟨0⟩).run divisorStart = (.ok ⟨0⟩, divisorRendered) := by
  have handle :
      ((renderSource (Host.silent.deliver 5) divisorSource ⟨⟨0⟩, false, []⟩
        ⟨0⟩).run divisorStart).1 = .ok ⟨0⟩ := by
    cbv
  unfold divisorRendered
  exact eq_pair handle

/-- What the label's text listens to, and who keeps the record of it. -/
theorem divisorZero_shape :
    (divisorZero.binding? ⟨0⟩).map
      (fun binding => (binding.watched, binding.everWatched)) =
      some ([(.handle ⟨0⟩, "divisor")], [(.handle ⟨0⟩, "divisor")]) ∧
    (divisorZero.handle ⟨0⟩).subscriptions = [.binding ⟨0⟩] ∧
    divisorZero.bindings.size = 1 ∧
    (divisorZero.handle ⟨0⟩).imports = [] := by
  cbv

/-- The source has no aliases in templates. -/
theorem divisorSource_aliases {document : Document}
    (parsed : Document.read .none divisorSource = .ok document) :
    document.AliasesOutside := by
  have shape : (Document.read .none divisorSource).map (fun document =>
      document.root.walk.map fun part =>
        (part.aliasName, Loop.walkAll part.loops)) =
        .ok [(none, [])] := by cbv
  rw [parsed] at shape
  obtain ⟨part, walk, pair⟩ := List.map_eq_singleton_iff.mp (Except.ok.inj shape)
  obtain ⟨unnamed, noLoops⟩ := Prod.mk.inj pair
  constructor
  · rw [walk, declaredNames_unnamed fun other member =>
      by rw [List.mem_singleton.mp member, unnamed]]
    exact .nil
  · intro other member inner inside
    rw [walk, List.mem_singleton] at member
    rw [member, noLoops] at inside
    cases inside

theorem divisor_session : Session Host.silent 5 divisorStart divisorZero :=
  .set (.render .begin (.root (List.mem_singleton_self _)) Nat.zero_lt_one
    Nat.zero_lt_one (fun _ parsed => divisorSource_aliases parsed)
    divisorRendered_run) (.set ⟨0⟩ "divisor" .done fun _ => trivial)

/-- The only live property there is reads the divisor and nothing else. -/
theorem divisorZero_binding {id : BindingId} {binding : LiveBinding}
    (found : divisorZero.binding? id = some binding) :
    id = ⟨0⟩ ∧ binding.watched = [(.handle ⟨0⟩, "divisor")] ∧
      binding.everWatched = [(.handle ⟨0⟩, "divisor")] := by
  obtain ⟨shape, _, count, _⟩ := divisorZero_shape
  have same : id = ⟨0⟩ := by
    rcases id with ⟨_ | index⟩
    · rfl
    · have inside := Store.lt_size_of_get? found
      change index + 1 < divisorZero.bindings.size at inside
      omega
  rw [same] at found
  rw [found, Option.map_some, Option.some.injEq, Prod.mk.injEq] at shape
  exact ⟨same, shape⟩

/-- The latest evaluation of the label's text was the one that failed. -/
theorem live_property_follows_divisor :
    ∃ binding,
      divisorZero.binding? ⟨0⟩ = some binding ∧ divisorZero.Recorded ⟨0⟩ ∧
      ∃ outcome,
        binding.outcome = some outcome ∧
        outcome.map Value.forget =
          (divisorZero.scratch binding).map Value.forget := by
  obtain ⟨shape, records, count, imports⟩ := divisorZero_shape
  obtain ⟨binding, found, _⟩ := Option.map_eq_some_iff.mp shape
  have live : divisorZero.Recorded ⟨0⟩ :=
    ⟨.handle ⟨0⟩, by rw [World.kept, records]; exact List.mem_singleton_self _⟩
  refine ⟨binding, found, live,
    live_property_follows Host.silent_tame divisorStart_unrendered
    (fun _ member => absurd member List.not_mem_nil) divisor_session ?_
    found live ?_ ?_⟩
  · rw [liveCount, count]
    decide
  · intro other same slot member
    rw [(divisorZero_binding same).2.1, List.mem_singleton] at member
    rw [member]
    change (divisorZero.handle ⟨0⟩).imports.lookup "divisor" = none
    rw [imports]
    rfl
  · intro circular
    obtain ⟨reader, _, feeds⟩ := Relation.TransGen.tail'_iff.mp circular
    obtain ⟨_, reading, _, _, _, foundReading, _, member, _⟩ := feeds
    rw [(divisorZero_binding foundReading).2.2, List.mem_singleton] at member
    cases member

end World

end LiveMarkup
