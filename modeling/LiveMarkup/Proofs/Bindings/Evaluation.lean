import LiveMarkup.Proofs.Bindings.Watching

/-!
# Evaluating while listening

An evaluation that listens is compared with one that does not, in another world
that agrees with the first on everything that was read.  Both give the same, up
to the numbers of the resources they load.
-/

namespace LiveMarkup

/-! ## Aliases -/

/-- The aliases that a reference begins with. -/
def Reference.aliases : Reference → List String
  | .global _ _ => []
  | .aliased name _ => [name]
  | .local _ _ => []
  | .property base _ _ => base.aliases

mutual

/-- The aliases that an expression refers to. -/
def Expr.aliases : Expr → List String
  | .int _ _ | .float _ _ | .bool _ _ | .text _ _ | .null _ => []
  | .vec2 x y _ => x.aliases ++ y.aliases
  | .color red green blue alpha _ =>
    red.aliases ++ (green.aliases ++ (blue.aliases ++ alpha.aliases))
  | .object entries _ => Expr.entryAliases entries
  | .resource path _ => path.aliases
  | .style _ none _ => []
  | .style _ (some properties) _ => properties.aliases
  | .reference target => target.aliases
  | .applyPrefix _ right _ _ => right.aliases
  | .applyInfix _ left right _ _ => left.aliases ++ right.aliases

/-- The aliases that the entries of an object literal refer to. -/
def Expr.entryAliases : List (String × Expr) → List String
  | [] => []
  | (_, expr) :: rest => expr.aliases ++ Expr.entryAliases rest

end

variable {σ α β : Type}

/-- Everything that a context names is known, and listeners and records fit
together. -/
structure EvaluationContext.Ready (context : EvaluationContext)
    (world : World σ) : Prop where
  sound : world.Sound world.loaded
  wired : world.Wired
  handle : ∀ id, context.handle = some id → id.index < world.handles.size
  scope : context.scope.Known world world.loaded

/-- An evaluation can go on after it has listened to something. -/
theorem EvaluationContext.Ready.watches {context : EvaluationContext}
    {world after : World σ} {watcher : Option BindingId}
    (ready : context.Ready world)
    (watches : World.Watches watcher world after) : context.Ready after where
  sound := watches.soundLoaded ready.sound
  wired := watches.wired ready.wired
  handle id named := by
    rw [watches.handles]
    exact ready.handle id named
  scope := Scope.Known.mono watches.fits watches.loaded ready.scope

/-- Every one of some aliases stands for a widget. -/
def EvaluationContext.Resolves (context : EvaluationContext) (world : World σ)
    (names : List String) : Prop :=
  ∀ name ∈ names, ∃ node, context.handle.bind
    (world.aliasWidget? · name) = some node

/-- A world in which the same is evaluated without listening, some resources
later. -/
structure Mirrors (context : EvaluationContext) (base distance : Nat)
    (world mirror : World σ) : Prop where
  agrees : world.Agrees mirror
  loaded : mirror.loaded = world.loaded + distance
  below : base ≤ world.loaded
  sound : world.Sound base
  scope : context.scope.Known world base
  bound : ∃ id binding, context.binding = some id ∧ world.binding? id = some binding

/-- The context without a live property that listens. -/
def EvaluationContext.silent (context : EvaluationContext) : EvaluationContext :=
  { context with binding := none }

/-- An attempt of an evaluation that listens, and the one of an evaluation that
does not. -/
structure Follows (context : EvaluationContext) (base distance : Nat)
    (names : List String) (image : α → α) (known : World σ → α → Prop)
    (world : World σ) (attempt silent : Attempt σ α) : Prop where
  watches : World.Watches context.binding world (attempt.run world).2
  known : ∀ value,
      (attempt.run world).1 = .ok value → known (attempt.run world).2 value
  resolves :
      ∀ value, (attempt.run world).1 = .ok value → context.Resolves world names
  mirrored : ∀ mirror, Mirrors context base distance world mirror →
    context.Resolves world names →
    (∀ slot ∈ (attempt.run world).2.watching context.binding,
      world.Plain slot ∧ mirror.sees slot = world.sees slot) →
    silent.run mirror = ((attempt.run world).1.map image,
      { mirror with loaded := (attempt.run world).2.loaded + distance }) ∧
      (attempt.run world).2.lists = world.lists

section Follows

variable {context : EvaluationContext} {base distance : Nat}
  {world after mirror : World σ}

/-- Two worlds go on to mirror each other when one of them listens, for
listening shows in no value. -/
theorem Mirrors.watches (mirrors : Mirrors context base distance world mirror)
    (watches : World.Watches context.binding world after)
    (lists : after.lists = world.lists) :
    Mirrors context base distance after
      { mirror with loaded := after.loaded + distance } where
  agrees := {
    globals := by
      rw [watches.rest]
      exact mirrors.agrees.globals
    resources := by
      rw [watches.rest]
      exact mirrors.agrees.resources
    files := by
      rw [watches.rest]
      exact mirrors.agrees.files
    converters := by
      rw [watches.rest]
      exact mirrors.agrees.converters
    bagType := fun id inside => by
      rw [watches.content.bagCount] at inside
      rw [watches.content.typeName]
      exact mirrors.agrees.bagType id inside
    items := fun id inside => by
      rw [lists] at inside
      rw [watches.lists id inside]
      exact mirrors.agrees.items id inside
    cls := fun id inside => by
      rw [watches.content.widgetCount] at inside
      rw [watches.content.cls]
      exact mirrors.agrees.cls id inside
    name := fun id inside => by
      rw [watches.handles] at inside
      rw [watches.handle]
      exact mirrors.agrees.name id inside
    controller := fun id inside => by
      rw [watches.handles] at inside
      rw [watches.handle]
      exact mirrors.agrees.controller id inside
    nodes := fun id aliasName node inside found => by
      rw [watches.handles] at inside
      rw [watches.aliasWidget?] at found
      exact mirrors.agrees.nodes id aliasName node inside found }
  loaded := rfl
  below := Nat.le_trans mirrors.below watches.loaded
  sound := watches.sound base mirrors.sound
  scope := Scope.Known.mono watches.fits (Nat.le_refl _) mirrors.scope
  bound := by
    obtain ⟨id, binding, named, found⟩ := mirrors.bound
    obtain ⟨later, foundLater, _⟩ := watches.own id named binding found
    exact ⟨id, later, named, foundLater⟩

theorem EvaluationContext.Resolves.watches {names : List String}
    {watcher : Option BindingId} (watches : World.Watches watcher world after) :
    context.Resolves after names ↔ context.Resolves world names := by
  simp only [EvaluationContext.Resolves, watches.aliasWidget?]

/-- Aliases resolve if they do on both sides of an expression. -/
theorem EvaluationContext.resolves_append {first second : List String} :
    context.Resolves world (first ++ second) ↔
      context.Resolves world first ∧ context.Resolves world second := by
  simp only [EvaluationContext.Resolves, List.mem_append]
  constructor
  · intro all
    constructor
    · intro name member
      exact all name (.inl member)
    · intro name member
      exact all name (.inr member)
  · rintro ⟨left, right⟩ name (member | member)
    · exact left name member
    · exact right name member

/-- One attempt after another. -/
theorem Follows.bind {first second : List String} {image : α → α}
    {imageNext : β → β} {known : World σ → α → Prop}
    {knownNext : World σ → β → Prop} {attempt silent : Attempt σ α}
    {next nextSilent : α → Attempt σ β}
    (head :
      Follows context base distance first image known world attempt silent)
    (tail :
      ∀ value after,
        World.Watches context.binding world after → known after value →
        Follows context base distance second imageNext knownNext after
          (next value) (nextSilent (image value))) :
    Follows context base distance (first ++ second) imageNext knownNext world
      (attempt >>= next) (silent >>= nextSilent) := by
  obtain ⟨watches, known, resolves, mirrored⟩ := head
  rcases run : attempt.run world with ⟨outcome, after⟩
  rw [run] at watches known resolves mirrored
  cases outcome with
  | error error =>
    have whole : (attempt >>= next).run world = (.error error, after) := by
      rw [Attempt.bind_run, run]
    refine ⟨?_, ?_, ?_, ?_⟩ <;> rw [whole]
    · exact watches
    · exact fun _ impossible => by cases impossible
    · exact fun _ impossible => by cases impossible
    · intro mirror mirrors resolved plain
      have same :=
        mirrored mirror mirrors
          (EvaluationContext.resolves_append.mp resolved).1 plain
      rw [Attempt.bind_run, same.1]
      exact ⟨rfl, same.2⟩
  | ok value =>
    have whole : (attempt >>= next).run world = (next value).run after := by
      rw [Attempt.bind_run, run]
    have rest := tail value after watches (known value rfl)
    refine ⟨?_, ?_, ?_, ?_⟩ <;> rw [whole]
    · exact watches.trans rest.watches
    · exact rest.known
    · intro result success
      refine EvaluationContext.resolves_append.mpr ?_
      exact ⟨resolves value rfl,
        (EvaluationContext.Resolves.watches watches).mp
        (rest.resolves result success)⟩
    · intro mirror mirrors resolved plain
      have apart := EvaluationContext.resolves_append.mp resolved
      have same := mirrored mirror mirrors apart.1 fun slot member =>
        plain slot (rest.watches.watching_subset member)
      have reflected :=
        rest.mirrored _ (mirrors.watches watches same.2)
          ((EvaluationContext.Resolves.watches watches).mpr apart.2)
          fun slot member => by
            rw [watches.plain, watches.sees]
            exact plain slot member
      rw [Attempt.bind_run, same.1]
      exact ⟨reflected.1, reflected.2.trans same.2⟩

/-- An attempt that changes nothing. -/
theorem Follows.still {names : List String} {image : α → α}
    {known : World σ → α → Prop} {attempt silent : Attempt σ α}
    (outcome : Except UiError α) (left : attempt.run world = (outcome, world))
    (right :
      ∀ mirror,
        Mirrors context base distance world mirror →
        context.Resolves world names →
        silent.run mirror = (outcome.map image, mirror))
    (good : ∀ value, outcome = .ok value → known world value)
    (resolves : ∀ value, outcome = .ok value → context.Resolves world names) :
    Follows context base distance names image known world attempt silent := by
  refine ⟨?_, ?_, ?_, ?_⟩ <;> rw [left]
  · exact .refl _ world
  · exact good
  · exact resolves
  · intro mirror mirrors resolved _
    rw [right mirror mirrors resolved, ← mirrors.loaded]
    exact ⟨rfl, rfl⟩

theorem EvaluationContext.resolves_nil : context.Resolves world [] :=
  fun _ member => by cases member

theorem Follows.pure {image : α → α} {known : World σ → α → Prop} (value : α)
    (good : known world value) :
    Follows context base distance [] image known world (Pure.pure value)
      (Pure.pure (image value)) := by
  refine .still _ rfl (fun _ _ _ => rfl) (fun _ same => by
    cases same; exact good) ?_
  intro _ _
  exact EvaluationContext.resolves_nil

end Follows

/-! ## Reading -/

namespace World

/-- The world after an evaluation, if it is made for a live property, began to
listen to a property of an object. -/
def attend (world : World σ) (watcher : Option BindingId) (object : ObjectId)
    (name : String) : World σ :=
  match watcher with
  | none => world
  | some id =>
    match world.binding? id with
    | none => world
    | some binding =>
      if binding.watched.contains (object, name) then world
      else world.listen id binding object name

/-- To watch a property is to attend to it, if a live property is being
evaluated. -/
theorem watch_apply (context : EvaluationContext) (object : ObjectId)
    (name : String) (world : World σ) :
    (context.watch object name : Action σ Unit) world =
      ((), world.attend context.binding object name) := by
  unfold EvaluationContext.watch attend
  cases context.binding with
  | none => rfl
  | some id =>
    simp only [Action.bind_apply, Action.get_apply]
    cases found : world.binding? id with
    | none => rfl
    | some binding =>
      simp only
      split
      · rfl
      · simp only [ObjectId.subscribe, Action.bind_apply, Action.get_apply,
          Action.modify_apply, Action.pure_apply, propertyListeners_eq,
          updatePropertyListeners_eq]
        rfl

theorem Sound.hasPost {world : World σ} {limit : Nat}
    (sound : world.Sound limit) {object : ObjectId} (has : world.Has object) :
    world.HasPost (world.announcer object) := by
  cases object with
  | bag id => exact has
  | widget id => exact has
  | handle id => exact sound.states id has

/-- Attending to a property only adds a listener and its record. -/
theorem attend_watches {world : World σ} {limit : Nat}
    (sound : world.Sound limit) {object : ObjectId} (has : world.Has object)
    (watcher : Option BindingId) (name : String) :
    Watches watcher world (world.attend watcher object name) := by
  unfold attend
  cases watcher with
  | none => exact .refl _ world
  | some id =>
    simp only
    cases found : world.binding? id with
    | none => exact .refl _ world
    | some binding =>
      simp only
      split
      · exact .refl _ world
      · exact watches_listen found has (sound.hasPost has)

/-- What was attended to is among what the live property watches. -/
theorem mem_attend {world : World σ} {id : BindingId} {binding : LiveBinding}
    (found : world.binding? id = some binding) (object : ObjectId) (name : String) :
    (object, name) ∈ (world.attend (some id) object name).watching (some id) := by
  simp only [attend, found]
  split
  case isTrue listed =>
    simp only [watching, found, Option.map_some, Option.getD_some]
    exact List.contains_iff_mem.mp listed
  case isFalse =>
    simp [watching, listen_binding_self found]

/-- Beginning to listen neither makes a list nor loads a resource. -/
theorem attend_still (world : World σ) (watcher : Option BindingId)
    (object : ObjectId) (name : String) :
    (world.attend watcher object name).lists = world.lists ∧
    (world.attend watcher object name).loaded = world.loaded := by
  unfold attend
  split
  · exact ⟨rfl, rfl⟩
  · split
    · exact ⟨rfl, rfl⟩
    · split
      · exact ⟨rfl, rfl⟩
      · unfold listen
        cases world.announcer object <;> exact ⟨rfl, rfl⟩

/-- Reading what a property holds is a step of an evaluation. -/
theorem readField_watches (watcher : Option BindingId) (world : World σ)
    (field : Field) : Watches watcher world (world.readField field).2 := by
  cases field with
  | value content => exact .refl _ world
  | rows texts =>
    refine watches_newList watcher world _ fun value member => ?_
    obtain ⟨text, _, rfl⟩ := List.mem_map.mp member
    trivial
  | settings content => cases content <;> exact .refl _ world

/-- Reading a field gives a known value in the world that reading has left. -/
theorem readField_known {world : World σ} {limit : Nat} {field : Field}
    (known : field.Known world limit) :
    (world.readField field).1.Known (world.readField field).2 limit := by
  cases field with
  | value content => exact known
  | rows texts =>
    change world.lists.size < (world.newList (texts.map .text)).2.lists.size
    rw [newList, Store.size_add]
    exact Nat.lt_succ_self _
  | settings content =>
    cases content with
    | none => trivial
    | some settings => exact settings.toValue_known world limit

end World

section Reading

variable {context : EvaluationContext} {base distance : Nat} {world : World σ}

/-- A property of an object is looked up after it was listened to. -/
theorem readObject_run (context : EvaluationContext) (object : ObjectId)
    (name : String)
    (world : World σ) :
    (context.readProperty (.object object) name).run world =
      match (world.attend context.binding object name).sees (object, name) with
      | none =>
        (.error (.propertyNotFound
          ((world.attend context.binding object name).typeName (.object object))
          name), world.attend context.binding object name)
      | some field =>
        (.ok ((world.attend context.binding object name).readField field).1,
          ((world.attend context.binding object name).readField field).2) := by
  simp only [EvaluationContext.readProperty, Attempt.bind_run, Attempt.lift_run,
    World.watch_apply, World.read_apply]
  cases (world.attend context.binding object name).sees (object, name) <;> rfl

/-- Reading a property off an object. -/
theorem follows_readObject (ready : context.Ready world) {object : ObjectId}
    (has : world.Has object) (name : String) :
    Follows context base distance [] (Value.renumber (Value.shift base distance))
      (fun after value => value.Known after after.loaded) world
      (context.readProperty (.object object) name)
      (context.silent.readProperty (.object object) name) := by
  have attended := World.attend_watches ready.sound has context.binding name
  have still := World.attend_still world context.binding object name
  have left := readObject_run context object name world
  have right :=
    fun mirror : World σ => readObject_run context.silent object name mirror
  simp only [show context.silent.binding = none from rfl, World.attend] at right
  rw [attended.sees] at left
  have read : ∀ mirror,
      Mirrors context base distance world mirror →
      (object, name) ∈
        (world.attend context.binding object name).watching
          context.binding := by
    intro mirror mirrors
    obtain ⟨id, binding, named, found⟩ := mirrors.bound
    rw [named]
    exact World.mem_attend found object name
  cases seen : world.sees (object, name) with
  | none =>
    rw [seen] at left
    refine ⟨?_, ?_, ?_, ?_⟩ <;> rw [left]
    · exact attended
    · exact fun _ impossible => by cases impossible
    · exact fun _ _ => EvaluationContext.resolves_nil
    · intro mirror mirrors _ plain
      have same := (plain _ (read mirror mirrors)).2
      have known :
          (Value.object object).Known
            (world.attend context.binding object name) base :=
        attended.fits.has has
      have type :=
        (mirrors.watches attended still.1).agrees.typeName (.object object)
          known (Value.shift base distance)
      refine ⟨?_, still.1⟩
      rw [right, same, seen, still.2, ← mirrors.loaded]
      exact congrArg (fun type =>
        (Except.error (UiError.propertyNotFound type name), mirror)) type
  | some field =>
    rw [seen] at left
    have known := ready.sound.sees_known seen
    refine ⟨?_, ?_, ?_, ?_⟩ <;> rw [left]
    · exact attended.trans (World.readField_watches _ _ field)
    · intro value same
      cases same
      have after := World.readField_watches context.binding
        (world.attend context.binding object name) field
      exact Value.Known.mono (Value.Fits.refl _) after.loaded _
        (World.readField_known
          (Field.Known.mono attended.fits attended.loaded known))
    · exact fun _ _ => EvaluationContext.resolves_nil
    · intro mirror mirrors _ plain
      have grown := World.readField_watches context.binding
        (world.attend context.binding object name) field
      obtain ⟨plainHere, same⟩ :=
        plain _ (grown.watching_subset (read mirror mirrors))
      obtain ⟨value, shown⟩ := World.readField_of_not_rows field
        fun texts equal => ready.sound.plain_not_rows plainHere texts (equal ▸ seen)
      have stored : value.Known world base := by
        have content := World.readField_known (mirrors.sound.sees_known seen)
        rw [shown] at content
        exact content
      refine ⟨?_, ?_⟩
      · rw [right, same, seen]
        simp only [shown, Except.map, still.2, ← mirrors.loaded]
        rw [Value.Known.renumber (fun number below => Value.shift_of_lt below)
          value stored]
      · simp only [shown]
        exact still.1

/-- Reading a property off a value. -/
theorem follows_readProperty (ready : context.Ready world) {value : Value}
    (known : value.Known world world.loaded) (name : String) :
    Follows context base distance []
      (Value.renumber (Value.shift base distance))
      (fun after value => value.Known after after.loaded) world
      (context.readProperty value name)
      (context.silent.readProperty
        (value.renumber (Value.shift base distance)) name) := by
  have missing : ∀ value : Value, value.Known world world.loaded →
      Follows context base distance [] (Value.renumber (Value.shift base distance))
        (fun after value => value.Known after after.loaded) world
        (do throw (.propertyNotFound ((← getThe (World σ)).typeName value) name))
        (do throw (.propertyNotFound ((← getThe (World σ)).typeName
          (value.renumber (Value.shift base distance))) name)) := by
    intro value known
    refine .still (.error (.propertyNotFound (world.typeName value) name)) rfl
      ?_ (fun _ impossible => by cases impossible) fun _ _ =>
        EvaluationContext.resolves_nil
    intro mirror mirrors _
    have type := mirrors.agrees.typeName value known (Value.shift base distance)
    exact congrArg (fun type =>
      (Except.error (UiError.propertyNotFound type name), mirror)) type
  have scalar : ∀ result : Value, result.IsScalar →
      Follows context base distance [] (Value.renumber (Value.shift base distance))
        (fun after value => value.Known after after.loaded) world
        (pure result) (pure result) := by
    intro result scalar
    have same :
        Follows context base distance []
          (Value.renumber (Value.shift base distance))
          (fun after value => value.Known after after.loaded) world
          (pure result) (pure (result.renumber (Value.shift base distance))) :=
      .pure result (scalar.known world _)
    rwa [scalar.renumber] at same
  cases value with
  | object object => exact follows_readObject ready known name
  | map entries =>
    simp only [Value.renumber, EvaluationContext.readProperty,
      Value.lookup_renumberEntries]
    cases found : entries.lookup name with
    | none => exact missing _ known
    | some value => exact .pure value (Value.known_of_lookup known found)
  | vec2 vector =>
    simp only [Value.renumber, EvaluationContext.readProperty]
    split
    · exact scalar _ trivial
    · exact scalar _ trivial
    · exact missing _ known
  | color color =>
    simp only [Value.renumber, EvaluationContext.readProperty]
    split
    · exact scalar _ trivial
    · exact scalar _ trivial
    · exact scalar _ trivial
    · exact scalar _ trivial
    · exact missing _ known
  | list list =>
    simp only [Value.renumber, EvaluationContext.readProperty]
    split
    · refine .still (.ok (.int (world.list list).items.length)) rfl ?_
        (fun _ same => by cases same; trivial) fun _ _ =>
          EvaluationContext.resolves_nil
      intro mirror mirrors _
      have items := mirrors.agrees.items list known
      exact congrArg (fun items : List Value =>
        (Except.ok (Value.int items.length), mirror)) items
    · exact missing _ known
  | _ => exact missing _ known

/-- What a name of a global stands for. -/
def globalOutcome (context : EvaluationContext) (name : String) (world : World σ) :
    Except UiError Value :=
  match context.handle.filter fun _ => name == "$controller" with
  | some handle => .ok (.object (.handle handle))
  | none =>
    ((world.global? name).map .ok).getD
      (.error (.referenceNotFound .global name))

/-- A variable of all documents is found, or it is not, and nothing changes. -/
theorem resolveGlobal_run (context : EvaluationContext) (name : String)
    (span : Span) (world : World σ) :
    (context.resolve (.global name span)).run world =
      (globalOutcome context name world, world) := by
  rw [EvaluationContext.resolve, globalOutcome]
  cases context.handle with
  | none =>
    simp only [Option.filter, Attempt.bind_run, Attempt.getThe_run]
    cases world.global? name <;> rfl
  | some handle =>
    simp only [Option.filter]
    split
    · rfl
    · simp only [Attempt.bind_run, Attempt.getThe_run]
      cases world.global? name <;> rfl

/-- What a reference names. -/
theorem follows_resolve (target : Reference) (ready : context.Ready world) :
    Follows context base distance target.aliases
      (Value.renumber (Value.shift base distance))
      (fun after value => value.Known after after.loaded) world
      (context.resolve target) (context.silent.resolve target) := by
  induction target with
  | global name span =>
    refine .still _ (resolveGlobal_run context name span world) ?_ ?_
      fun _ _ => EvaluationContext.resolves_nil
    · intro mirror mirrors _
      rw [resolveGlobal_run context.silent name span mirror]
      simp only [globalOutcome, EvaluationContext.silent]
      cases context.handle.filter fun _ => name == "$controller" with
      | some handle => rfl
      | none =>
        have globals : mirror.global? name = world.global? name := by
          simp only [World.global?, mirrors.agrees.globals]
        rw [globals]
        cases found : world.global? name with
        | none => rfl
        | some value =>
          have stored := Value.known_of_lookup mirrors.sound.globals found
          simp only [Option.map_some, Option.getD_some, Except.map]
          rw [Value.Known.renumber (fun number below => Value.shift_of_lt below)
            value stored]
    · intro value same
      unfold globalOutcome at same
      split at same
      case h_1 handle filtered =>
        cases same
        exact ready.handle handle (Option.filter_eq_some_iff.mp filtered).1
      case h_2 =>
        cases found : world.global? name with
        | none => rw [found] at same; cases same
        | some value =>
          rw [found] at same
          cases same
          exact Value.known_of_lookup ready.sound.globals found
  | aliased name span =>
    have run : ∀ (silent : EvaluationContext) (world : World σ),
        (silent.resolve (.aliased name span)).run world =
          (((silent.handle.bind (world.aliasWidget? · name)).map
            fun widget => .ok (.object (.widget widget))).getD
              (.error (.referenceNotFound .aliased name)), world) := by
      intro silent world
      simp only [EvaluationContext.resolve, Attempt.bind_run, Attempt.getThe_run]
      cases silent.handle.bind (world.aliasWidget? · name) <;> rfl
    refine .still _ (run context world) ?_ ?_ ?_
    · intro mirror mirrors resolved
      obtain ⟨node, found⟩ := resolved name (List.mem_singleton.mpr rfl)
      obtain ⟨handle, named, stands⟩ := Option.bind_eq_some_iff.mp found
      have mirrored :=
        mirrors.agrees.nodes handle name node (ready.handle handle named) stands
      have silent : context.silent.handle = some handle := named
      rw [run context.silent mirror, silent, named]
      simp only [Option.bind_some, stands, mirrored]
      rfl
    · intro value same
      cases found : context.handle.bind (world.aliasWidget? · name) with
      | none => rw [found] at same; cases same
      | some node =>
        rw [found] at same
        cases same
        obtain ⟨handle, _, stands⟩ := Option.bind_eq_some_iff.mp found
        exact ready.sound.aliasWidget stands
    · intro value same other member
      cases found : context.handle.bind (world.aliasWidget? · name) with
      | none => rw [found] at same; cases same
      | some node =>
        cases List.mem_singleton.mp member
        exact ⟨node, found⟩
  | «local» name span =>
    have run : ∀ (silent : EvaluationContext) (world : World σ),
        (silent.resolve (.local name span)).run world =
          (((silent.scope.lookup? name).map .ok).getD
            (.error (.referenceNotFound .local name)), world) := by
      intro silent world
      simp only [EvaluationContext.resolve]
      cases silent.scope.lookup? name <;> rfl
    have stored : ∀ limit value, context.scope.Known world limit →
        context.scope.lookup? name = some value → value.Known world limit := by
      intro limit value known found
      obtain ⟨locals, member, entry⟩ := List.exists_of_findSome?_eq_some found
      exact Value.known_of_lookup (known locals member) entry
    refine .still _ (run context world) ?_ ?_ fun _ _ =>
      EvaluationContext.resolves_nil
    · intro mirror mirrors _
      rw [run context.silent mirror]
      simp only [EvaluationContext.silent]
      cases found : context.scope.lookup? name with
      | none => rfl
      | some value =>
        simp only [Option.map_some, Option.getD_some, Except.map]
        rw [Value.Known.renumber (fun number below => Value.shift_of_lt below) value
          (stored base value mirrors.scope found)]
    · intro value same
      cases found : context.scope.lookup? name with
      | none => rw [found] at same; cases same
      | some value =>
        rw [found] at same
        cases same
        exact stored _ value ready.scope found
  | property target name span hypothesis =>
    rw [EvaluationContext.resolve, EvaluationContext.resolve, Reference.aliases,
      ← List.append_nil target.aliases]
    exact hypothesis.bind fun value after watches known =>
      follows_readProperty (ready.watches watches) known name

/-- Loading a resource gives another number in another world. -/
theorem follows_loadResource (path : String) :
    Follows context base distance []
      (Value.renumber (Value.shift base distance))
      (fun after value => value.Known after after.loaded) world
      (EvaluationContext.loadResource path)
      (EvaluationContext.loadResource path) := by
  cases loads : world.resources.load world.files path with
  | error reason =>
    have fails : ∀ world : World σ,
        world.resources.load world.files path = .error reason →
        (EvaluationContext.loadResource path).run world =
          (.error (.resource path reason), world) := by
      intro world loads
      simp only [EvaluationContext.loadResource, Attempt.bind_run,
        Attempt.getThe_run, loads]
      rfl
    refine .still _ (fails world loads) ?_ (fun _ impossible => by cases impossible)
      fun _ _ => EvaluationContext.resolves_nil
    intro mirror mirrors _
    rw [← mirrors.agrees.resources, ← mirrors.agrees.files] at loads
    rw [fails mirror loads]
    rfl
  | ok size =>
    have loaded : ∀ world : World σ,
        world.resources.load world.files path = .ok size →
        (EvaluationContext.loadResource path).run world =
          (.ok (.resource ⟨path, world.loaded, size⟩),
             { world with loaded := world.loaded + 1 }) := by
      intro world loads
      simp only [EvaluationContext.loadResource, Attempt.bind_run,
        Attempt.getThe_run, loads]
      rfl
    refine ⟨?_, ?_, ?_, ?_⟩ <;> rw [loaded world loads]
    · exact World.watches_newResource _ world path size
    · intro value same
      cases same
      exact Nat.lt_succ_self _
    · exact fun _ _ => EvaluationContext.resolves_nil
    · intro mirror mirrors _ _
      refine ⟨?_, rfl⟩
      have moved : Value.shift base distance world.loaded = mirror.loaded := by
        have below := mirrors.below
        have same := mirrors.loaded
        simp only [Value.shift]
        split <;> omega
      rw [← mirrors.agrees.resources, ← mirrors.agrees.files] at loads
      rw [loaded mirror loads]
      simp only [Except.map, Value.renumber, moved, mirrors.loaded]
      congr 2
      omega

/-- A component of a vector or color. -/
theorem follows_component (what : String) {value : Value}
    (known : value.Known world world.loaded) :
    Follows context base distance [] id (fun _ _ => True) world
      (EvaluationContext.component what value)
      (EvaluationContext.component what
        (value.renumber (Value.shift base distance))) := by
  have run : ∀ (value : Value) (world : World σ),
      (EvaluationContext.component what value).run world =
        ((value.number?.map fun number => .ok number.toFloat32).getD
           (.error (typeError (.component what (world.typeName value)))),
           world) := by
    intro value world
    simp only [EvaluationContext.component]
    cases value.number? <;> rfl
  refine .still _ (run value world) ?_ (fun _ _ => trivial) fun _ _ =>
    EvaluationContext.resolves_nil
  intro mirror mirrors _
  rw [run, Value.number?_renumber, mirrors.agrees.typeName value known]
  cases value.number? <;> rfl

end Reading

/-! ## Expressions -/

section Expressions

variable {context : EvaluationContext} {base distance : Nat}

/-- A prefix operator gives the same in both worlds, up to the numbers of
resources. -/
theorem follows_applyPrefix {world : World σ} (op : PrefixOp) {value : Value}
    (known : value.Known world world.loaded) :
    Follows context base distance [] (Value.renumber (Value.shift base distance))
      (fun after value => value.Known after after.loaded) world
      (do (← getThe (World σ)).applyPrefix op value)
      (do
        (← getThe (World σ)).applyPrefix op
          (value.renumber (Value.shift base distance))) := by
  have run : ∀ (value : Value) (world : World σ),
      (do (← getThe (World σ)).applyPrefix op value : Attempt σ Value).run world =
        (world.applyPrefix op value, world) := by
    intro value world
    rw [Attempt.bind_run, Attempt.getThe_run]
    exact Attempt.except_run _ _
  refine .still _ (run value world) ?_
    (fun result same => (World.applyPrefix_scalar same).known world _)
    fun _ _ => EvaluationContext.resolves_nil
  intro mirror mirrors _
  rw [run, mirrors.agrees.applyPrefix known]
  cases applied : world.applyPrefix op value with
  | error => rfl
  | ok result => rw [Except.map, (World.applyPrefix_scalar applied).renumber]

/-- And so does an infix operator. -/
theorem follows_applyInfix {world : World σ} (op : InfixOp) {left right : Value}
    (leftKnown : left.Known world world.loaded)
    (rightKnown : right.Known world world.loaded) :
    Follows context base distance [] (Value.renumber (Value.shift base distance))
      (fun after value => value.Known after after.loaded) world
      (do (← getThe (World σ)).applyInfix op left right)
      (do
        let mirror ← getThe (World σ)
        mirror.applyInfix op (left.renumber (Value.shift base distance))
          (right.renumber (Value.shift base distance))) := by
  have run : ∀ (left right : Value) (world : World σ),
      (do (← getThe (World σ)).applyInfix op left right : Attempt σ Value).run
        world = (world.applyInfix op left right, world) := by
    intro left right world
    rw [Attempt.bind_run, Attempt.getThe_run]
    exact Attempt.except_run _ _
  refine .still _ (run left right world) ?_
    (fun result same => (World.applyInfix_scalar same).known world _)
    fun _ _ => EvaluationContext.resolves_nil
  intro mirror mirrors _
  rw [run, mirrors.agrees.applyInfix leftKnown rightKnown
    (Value.shift_injective base distance)]
  cases applied : world.applyInfix op left right with
  | error => rfl
  | ok result => rw [Except.map, (World.applyInfix_scalar applied).renumber]

/-- Failing with an error that names the type of a value. -/
theorem follows_typeError {world : World σ} (problem : String → TypeProblem)
    {value : Value}
    (known : value.Known world world.loaded) :
    Follows context base distance [] (Value.renumber (Value.shift base distance))
      (fun after value => value.Known after after.loaded) world
      (do throw (typeError (problem ((← getThe (World σ)).typeName value))))
      (do throw (typeError (problem ((← getThe (World σ)).typeName
        (value.renumber (Value.shift base distance)))))) := by
  refine .still (.error (typeError (problem (world.typeName value)))) rfl ?_
    (fun _ impossible => by cases impossible) fun _ _ =>
      EvaluationContext.resolves_nil
  intro mirror mirrors _
  have type := mirrors.agrees.typeName value known (Value.shift base distance)
  exact congrArg (fun type => (Except.error (typeError (problem type)), mirror))
    type

mutual

/-- Evaluation gives the same without listening, in every world that agrees on
what was read. -/
theorem follows_eval :
    (expr : Expr) → (world : World σ) → context.Ready world →
    Follows context base distance expr.aliases
      (Value.renumber (Value.shift base distance))
      (fun after value => value.Known after after.loaded) world
      (context.eval expr) (context.silent.eval expr)
  | .int value _, world, _ => by
    rw [EvaluationContext.eval, EvaluationContext.eval, Expr.aliases]
    exact Follows.pure (Value.int value) trivial
  | .float value _, world, _ => by
    rw [EvaluationContext.eval, EvaluationContext.eval, Expr.aliases]
    exact Follows.pure (Value.float value) trivial
  | .bool value _, world, _ => by
    rw [EvaluationContext.eval, EvaluationContext.eval, Expr.aliases]
    exact Follows.pure (Value.bool value) trivial
  | .text value _, world, _ => by
    rw [EvaluationContext.eval, EvaluationContext.eval, Expr.aliases]
    exact Follows.pure (Value.text value) trivial
  | .null _, world, _ => by
    rw [EvaluationContext.eval, EvaluationContext.eval, Expr.aliases]
    exact Follows.pure (Value.null) trivial
  | .vec2 x y _, world, ready => by
    rw [EvaluationContext.eval, EvaluationContext.eval, Expr.aliases]
    refine (follows_eval x world ready).bind fun first after watches known => ?_
    have readyAfter := ready.watches watches
    refine (List.nil_append y.aliases) ▸ (follows_component "vec2" known).bind
      fun x _ watches _ => ?_
    have readyX := readyAfter.watches watches
    refine (List.append_nil y.aliases) ▸ (follows_eval y _ readyX).bind
      fun second after watches known => ?_
    refine (List.append_nil []) ▸
      (follows_component "vec2" known).bind fun y _ _ _ => ?_
    exact Follows.pure (Value.vec2 ⟨x, y⟩) trivial
  | .color red green blue alpha _, world, ready => by
    rw [EvaluationContext.eval, EvaluationContext.eval, Expr.aliases]
    refine (follows_eval red world ready).bind fun first after watches known => ?_
    have readyAfter := ready.watches watches
    refine (List.nil_append (green.aliases ++ (blue.aliases ++ alpha.aliases))) ▸
      (follows_component "color" known).bind fun red _ watches _ => ?_
    have readyRed := readyAfter.watches watches
    refine (follows_eval green _ readyRed).bind fun second after watches known => ?_
    have readySecond := readyRed.watches watches
    refine (List.nil_append (blue.aliases ++ alpha.aliases)) ▸
      (follows_component "color" known).bind fun green _ watches _ => ?_
    have readyGreen := readySecond.watches watches
    refine (follows_eval blue _ readyGreen).bind fun third after watches known => ?_
    have readyThird := readyGreen.watches watches
    refine (List.nil_append alpha.aliases) ▸ (follows_component "color" known).bind
      fun blue _ watches _ => ?_
    have readyBlue := readyThird.watches watches
    refine (List.append_nil alpha.aliases) ▸ (follows_eval alpha _ readyBlue).bind
      fun fourth after watches known => ?_
    refine (List.append_nil []) ▸
      (follows_component "color" known).bind fun alpha _ _ _ => ?_
    exact Follows.pure (Value.color ⟨red, green, blue, alpha⟩) trivial
  | .object entries _, world, ready => by
    rw [EvaluationContext.eval, EvaluationContext.eval, Expr.aliases,
      ← List.append_nil (Expr.entryAliases entries)]
    refine (follows_evalEntries entries world ready).bind
      fun values after _ known => ?_
    exact Follows.pure (Value.map values) known
  | .resource path _, world, ready => by
    rw [EvaluationContext.eval, EvaluationContext.eval, Expr.aliases,
      ← List.append_nil path.aliases]
    refine (follows_eval path world ready).bind fun value after _ known => ?_
    cases value with
    | text path => exact follows_loadResource path
    | _ => exact follows_typeError .resourcePath known
  | .style box none _, world, _ => by
    rw [EvaluationContext.eval, EvaluationContext.eval, Expr.aliases]
    exact Follows.pure (Value.style box []) trivial
  | .style box (some properties) _, world, ready => by
    rw [EvaluationContext.eval, EvaluationContext.eval, Expr.aliases,
      ← List.append_nil properties.aliases]
    refine (follows_eval properties world ready).bind fun value after _ known => ?_
    cases value with
    | map entries => exact Follows.pure (Value.style box entries) known
    | null => exact Follows.pure (Value.style box []) trivial
    | _ => exact follows_typeError (.styleProperties box) known
  | .reference target, world, ready => by
    rw [EvaluationContext.eval, EvaluationContext.eval, Expr.aliases]
    exact follows_resolve target ready
  | .applyPrefix op right _ _, world, ready => by
    rw [EvaluationContext.eval, EvaluationContext.eval, Expr.aliases,
      ← List.append_nil right.aliases]
    exact (follows_eval right world ready).bind fun value after _ known =>
      follows_applyPrefix op known
  | .applyInfix op left right _ _, world, ready => by
    rw [EvaluationContext.eval, EvaluationContext.eval, Expr.aliases]
    refine (follows_eval left world ready).bind
      fun first after watches firstKnown => ?_
    rw [← List.append_nil right.aliases]
    exact (follows_eval right after (ready.watches watches)).bind
      fun second _ watches known =>
      follows_applyInfix op (watches.known firstKnown) known

/-- Evaluation of entries gives the same without listening. -/
theorem follows_evalEntries : (entries : List (String × Expr)) → (world : World σ) →
    context.Ready world →
    Follows context base distance (Expr.entryAliases entries)
      (Value.renumberEntries (Value.shift base distance))
      (fun after values => Value.EntriesKnown after after.loaded values) world
      (context.evalEntries entries) (context.silent.evalEntries entries)
  | [], world, _ => by
    rw [EvaluationContext.evalEntries, EvaluationContext.evalEntries,
      Expr.entryAliases]
    exact Follows.pure [] trivial
  | (key, expr) :: rest, world, ready => by
    rw [EvaluationContext.evalEntries, EvaluationContext.evalEntries,
      Expr.entryAliases]
    refine (follows_eval expr world ready).bind fun value after watches known => ?_
    rw [← List.append_nil (Expr.entryAliases rest)]
    refine (follows_evalEntries rest after (ready.watches watches)).bind
      fun values _ watches others => ?_
    exact Follows.pure ((key, value) :: values) ⟨watches.known known, others⟩

end

end Expressions

end LiveMarkup
