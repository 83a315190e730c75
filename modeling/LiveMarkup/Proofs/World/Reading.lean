import LiveMarkup.Proofs.World.Surroundings

/-!
# Reading properties

What an object shows under a name, apart from the making of a new list for rows;
and the worlds in which every value that is kept names only what there is.
-/

namespace LiveMarkup

/-- Whether the content of a property names only what there is. -/
def Field.Known {σ : Type} (world : World σ) (limit : Nat) : Field → Prop
  | .value content => content.Known world limit
  | _ => True

/-- Whether all values of a scope name only what there is. -/
def Scope.Known {σ : Type} (world : World σ) (limit : Nat) (scope : Scope) : Prop :=
  ∀ locals ∈ scope, Value.EntriesKnown world limit locals

namespace World

variable {σ : Type}

/-- What a property of an object holds. -/
def sees (world : World σ) : ObjectId × String → Option Field
  | (.bag id, name) => (id.get? world name).map .value
  | (.widget id, name) =>
    ((world.widget id).cls.property? name).bind fun property =>
      (world.widget id).fields.lookup property.name
  | (.handle id, name) =>
    (((world.handle id).controller.state.get? world name).or
      (((world.handle id).imports.lookup name).map fun child =>
        .object (.handle child))).map .value

/-- A property that stays as it is unless a change is announced: neither of a
widget with rows, nor label settings, nor the name of an import. -/
def Plain (world : World σ) : ObjectId × String → Prop
  | (.bag _, _) => True
  | (.widget id, name) =>
    (∀ property ∈ (world.widget id).cls.properties,
      ∀ selection, property.kind ≠ .rows selection) ∧
      ∀ property, (world.widget id).cls.property? name = some property →
      property.kind ≠ .labelSettings
  | (.handle id, name) => (world.handle id).imports.lookup name = none

/-- Reading gives what is seen, and makes a new list if that is rows. -/
theorem read_apply (object : ObjectId) (name : String) (world : World σ) :
    (object.read name : Action σ (Option Value)) world =
      match world.sees (object, name) with
      | none => (none, world)
      | some field =>
        (some (world.readField field).1, (world.readField field).2) := by
  cases object with
  | bag id =>
    change (id.get? world name, world) = _
    simp only [sees]
    cases id.get? world name <;> rfl
  | widget id =>
    simp only [sees, ObjectId.read, Action.bind_apply, Action.get_apply,
      readProperty?]
    cases (world.widget id).cls.property? name with
    | none => rfl
    | some property =>
      simp only [Option.bind_some]
      cases (world.widget id).fields.lookup property.name <;> rfl
  | handle id =>
    change (((world.handle id).controller.state.get? world name).or _, world) = _
    simp only [sees]
    cases ((world.handle id).controller.state.get? world name).or
      (((world.handle id).imports.lookup name).map fun child =>
        .object (.handle child)) <;> rfl

/-- Every value that is kept anywhere names only what there is, resources with
numbers below a limit. -/
structure Sound (world : World σ) (limit : Nat) : Prop where
  globals : Value.EntriesKnown world limit world.globals
  values : ∀ id : BagId, Value.EntriesKnown world limit (world.bag id).values
  items : ∀ id : ListId, ∀ value ∈ (world.list id).items, value.Known world limit
  fields : ∀ id : WidgetId, ∀ entry ∈ (world.widget id).fields,
      entry.2.Known world limit
  rows : ∀ id : WidgetId, ∀ entry ∈ (world.widget id).fields, ∀ texts,
      entry.2 = .rows texts →
      ∃ property ∈ (world.widget id).cls.properties, ∃ selection,
        property.kind = .rows selection
  states : ∀ id : HandleId, id.index < world.handles.size →
    (world.handle id).controller.state.index < world.bags.size
  nodes : ∀ id : HandleId, ∀ entry ∈ (world.handle id).nodes,
    entry.2.index < world.widgets.size
  imports : ∀ id : HandleId, ∀ entry ∈ (world.handle id).imports,
    entry.2.index < world.handles.size
  controllers : ∀ entry ∈ world.controllers, entry.2.state.index < world.bags.size
  bindings : ∀ id binding,
      world.binding? id = some binding →
        binding.handle.index < world.handles.size ∧
        binding.widget.index < world.widgets.size ∧
        binding.scope.Known world limit
  blocks : ∀ id block,
      world.block? id = some block →
        block.handle.index < world.handles.size ∧
        block.parent.index < world.widgets.size ∧
        block.scope.Known world limit

theorem mem_of_lookup {κ α : Type} [BEq κ] [LawfulBEq κ]
    {entries : List (κ × α)} {key : κ} {value : α}
    (found : entries.lookup key = some value) : (key, value) ∈ entries := by
  induction entries with
  | nil => cases found
  | cons entry rest hypothesis =>
    rw [List.lookup_cons] at found
    split at found
    case h_1 same =>
      cases found
      have equal : key = entry.1 := by simpa using same
      rw [equal]
      exact List.mem_cons_self ..
    case h_2 => exact List.mem_cons_of_mem _ (hypothesis found)

variable {world : World σ} {limit : Nat}

theorem Sound.aliasWidget (sound : world.Sound limit) {handle : HandleId}
    {aliasName : String} {node : WidgetId}
    (found : world.aliasWidget? handle aliasName = some node) :
    node.index < world.widgets.size :=
  sound.nodes handle _ (mem_of_lookup found)

end World

theorem Value.Fits.refl {σ : Type} (world : World σ) : Value.Fits world world :=
  ⟨Nat.le_refl _, Nat.le_refl _, Nat.le_refl _, Nat.le_refl _⟩

theorem Field.Known.mono {σ : Type} {world later : World σ} {limit higher : Nat}
    (fits : Value.Fits world later) (below : limit ≤ higher) {field : Field}
    (known : field.Known world limit) : field.Known later higher := by
  cases field with
  | value content => exact Value.Known.mono fits below content known
  | rows => trivial
  | settings => trivial

theorem Scope.Known.mono {σ : Type} {world later : World σ} {limit higher : Nat}
    (fits : Value.Fits world later) (below : limit ≤ higher) {scope : Scope}
    (known : scope.Known world limit) : scope.Known later higher := by
  intro locals member
  exact Value.EntriesKnown.mono fits below locals (known locals member)

namespace World

variable {σ : Type} {world : World σ} {limit : Nat}

/-- What names only resources below a limit does so for every higher one. -/
theorem Sound.raise {higher : Nat} (sound : world.Sound limit)
    (below : limit ≤ higher) : world.Sound higher := by
  have fits := Value.Fits.refl world
  refine { sound with
    globals := ?_, values := ?_, items := ?_, fields := ?_, bindings := ?_
    blocks := ?_ }
  · exact Value.EntriesKnown.mono fits below _ sound.globals
  · exact fun id => Value.EntriesKnown.mono fits below _ (sound.values id)
  · exact fun id value member =>
      Value.Known.mono fits below value (sound.items id value member)
  · exact fun id entry member =>
      Field.Known.mono fits below (sound.fields id entry member)
  · intro id binding found
    have known := sound.bindings id binding found
    exact ⟨known.1, known.2.1, Scope.Known.mono fits below known.2.2⟩
  · intro id block found
    have known := sound.blocks id block found
    exact ⟨known.1, known.2.1, Scope.Known.mono fits below known.2.2⟩

/-- What is seen names only what there is. -/
theorem Sound.sees_known (sound : world.Sound limit)
    {slot : ObjectId × String} {field : Field}
    (seen : world.sees slot = some field) : field.Known world limit := by
  obtain ⟨object, name⟩ := slot
  cases object with
  | bag id =>
    obtain ⟨value, found, rfl⟩ := Option.map_eq_some_iff.mp seen
    exact Value.known_of_lookup (sound.values id) found
  | widget id =>
    obtain ⟨property, _, found⟩ := Option.bind_eq_some_iff.mp seen
    exact sound.fields id _ (mem_of_lookup found)
  | handle id =>
    obtain ⟨value, found, rfl⟩ := Option.map_eq_some_iff.mp seen
    rcases Option.or_eq_some_iff.mp found with stored | ⟨_, imported⟩
    · exact Value.known_of_lookup (sound.values _) stored
    · obtain ⟨child, entry, rfl⟩ := Option.map_eq_some_iff.mp imported
      exact sound.imports id _ (mem_of_lookup entry)

/-- A plain property does not hold rows. -/
theorem Sound.plain_not_rows (sound : world.Sound limit)
    {slot : ObjectId × String} (plain : world.Plain slot)
    (texts : List String) : world.sees slot ≠ some (.rows texts) := by
  intro seen
  obtain ⟨object, name⟩ := slot
  cases object with
  | bag id =>
    obtain ⟨value, _, equal⟩ := Option.map_eq_some_iff.mp seen
    cases equal
  | widget id =>
    obtain ⟨property, _, found⟩ := Option.bind_eq_some_iff.mp seen
    obtain ⟨rowsProperty, member, selection, kind⟩ :=
      sound.rows id _ (mem_of_lookup found) texts rfl
    exact plain.1 rowsProperty member selection kind
  | handle id =>
    obtain ⟨value, _, equal⟩ := Option.map_eq_some_iff.mp seen
    cases equal

/-- Reading a property that does not hold rows changes nothing and does not
depend on the world. -/
theorem readField_of_not_rows (field : Field)
    (plain : ∀ texts, field ≠ .rows texts) :
    ∃ value, ∀ world : World σ, world.readField field = (value, world) := by
  cases field with
  | value content => exact ⟨content, fun _ => rfl⟩
  | rows texts => exact absurd rfl (plain texts)
  | settings content =>
    cases content with
    | none => exact ⟨.null, fun _ => rfl⟩
    | some settings => exact ⟨settings.toValue, fun _ => rfl⟩

/-- Whatever is new in a world names only what there is; what is not spoken of is
as it was. -/
structure NamesKnown (limit : Nat) (world after : World σ) : Prop where
  fits : Value.Fits world after
  globals : after.globals = world.globals := by rfl
  controllers : after.controllers = world.controllers := by rfl
  values : ∀ id, ∀ entry ∈ (after.bag id).values,
    entry ∈ (world.bag id).values ∨ entry.2.Known after limit := by
      exact fun _ _ member => .inl member
  items : ∀ id, ∀ value ∈ (after.list id).items,
    value ∈ (world.list id).items ∨ value.Known after limit := by
      exact fun _ _ member => .inl member
  fields : ∀ id, ∀ entry ∈ (after.widget id).fields,
    (entry ∈ (world.widget id).fields ∧
      (after.widget id).cls = (world.widget id).cls) ∨
    (entry.2.Known after limit ∧
      ∀ texts, entry.2 = .rows texts →
        ∃ property ∈ (after.widget id).cls.properties, ∃ selection,
          property.kind = .rows selection) := by
      exact fun _ _ member => .inl ⟨member, rfl⟩
  handles : ∀ id : HandleId, id.index < after.handles.size →
    (id.index < world.handles.size ∧
      (after.handle id).controller = (world.handle id).controller) ∨
    (after.handle id).controller.state.index < after.bags.size := by
      exact fun _ inside => .inl ⟨inside, rfl⟩
  nodes : ∀ id, ∀ entry ∈ (after.handle id).nodes,
    entry ∈ (world.handle id).nodes ∨ entry.2.index < after.widgets.size := by
      exact fun _ _ member => .inl member
  imports : ∀ id, ∀ entry ∈ (after.handle id).imports,
    entry ∈ (world.handle id).imports ∨ entry.2.index < after.handles.size := by
      exact fun _ _ member => .inl member
  bindings : ∀ id binding, after.binding? id = some binding →
    (∃ old, world.binding? id = some old ∧ binding.handle = old.handle ∧
      binding.widget = old.widget ∧ binding.scope = old.scope) ∨
    (binding.handle.index < after.handles.size ∧
      binding.widget.index < after.widgets.size ∧
      binding.scope.Known after limit) := by
      exact fun _ binding found => .inl ⟨binding, found, rfl, rfl, rfl⟩
  blocks : ∀ id block, after.block? id = some block →
    (∃ old, world.block? id = some old ∧ block.handle = old.handle ∧
      block.parent = old.parent ∧ block.scope = old.scope) ∨
    (block.handle.index < after.handles.size ∧
      block.parent.index < after.widgets.size ∧
      block.scope.Known after limit) := by
      exact fun _ block found => .inl ⟨block, found, rfl, rfl, rfl⟩

theorem fits_updateHandle (world : World σ) (id : HandleId)
    (change : Handle → Handle) :
    Value.Fits world (world.updateHandle id change) :=
  ⟨Nat.le_refl _, Nat.le_refl _, Nat.le_refl _,
    Nat.le_of_eq (Store.size_update ..).symm⟩

/-- A document that keeps its controller may name other widgets and documents
that there are. -/
theorem NamesKnown.updateHandle {id : HandleId} {change : Handle → Handle}
    (controller : ∀ old, (change old).controller = old.controller)
    (nodes :
      ∀ entry ∈ (change (world.handle id)).nodes,
        entry ∈ (world.handle id).nodes ∨ entry.2.index < world.widgets.size)
    (imports :
      ∀ entry ∈ (change (world.handle id)).imports,
        entry ∈ (world.handle id).imports ∨
        entry.2.index < world.handles.size) :
    NamesKnown limit world (world.updateHandle id change) where
  fits := fits_updateHandle world id change
  handles other inside := by
    rw [World.updateHandle, Store.size_update] at inside
    have same :=
      handle_project world id other change Handle.controller controller
    exact .inl ⟨inside, same⟩
  nodes other entry member := by
    rcases mem_updateHandle Handle.nodes member with old | ⟨rfl, named⟩
    · exact .inl old
    · exact nodes entry named
  imports other entry member := by
    rw [World.updateHandle, Store.size_update]
    rcases mem_updateHandle Handle.imports member with old | ⟨rfl, named⟩
    · exact .inl old
    · exact imports entry named

/-- Values stay known when whatever is new names only what there is. -/
theorem Sound.extend {after : World σ} (sound : world.Sound limit)
    (named : NamesKnown limit world after) : after.Sound limit where
  globals := by
    rw [named.globals]
    exact Value.EntriesKnown.mono named.fits (Nat.le_refl _) _ sound.globals
  values id := by
    rw [Value.entriesKnown_iff]
    intro entry member
    rcases named.values id entry member with old | known
    · have all := (Value.entriesKnown_iff ..).mp (sound.values id)
      exact Value.Known.mono named.fits (Nat.le_refl _) _ (all entry old)
    · exact known
  items id value member := by
    rcases named.items id value member with old | known
    · exact Value.Known.mono named.fits (Nat.le_refl _) value
        (sound.items id value old)
    · exact known
  fields id entry member := by
    rcases named.fields id entry member with ⟨old, _⟩ | ⟨known, _⟩
    · exact Field.Known.mono named.fits (Nat.le_refl _)
        (sound.fields id entry old)
    · exact known
  rows id entry member texts shape := by
    rcases named.fields id entry member with ⟨old, cls⟩ | ⟨_, rows⟩
    · rw [cls]
      exact sound.rows id entry old texts shape
    · exact rows texts shape
  states id inside := by
    rcases named.handles id inside with ⟨before, same⟩ | state
    · rw [same]
      exact Nat.lt_of_lt_of_le (sound.states id before) named.fits.bags
    · exact state
  nodes id entry member := by
    rcases named.nodes id entry member with old | node
    · exact Nat.lt_of_lt_of_le (sound.nodes id entry old) named.fits.widgets
    · exact node
  imports id entry member := by
    rcases named.imports id entry member with old | child
    · exact Nat.lt_of_lt_of_le (sound.imports id entry old) named.fits.handles
    · exact child
  controllers entry member := by
    rw [named.controllers] at member
    exact Nat.lt_of_lt_of_le (sound.controllers entry member) named.fits.bags
  bindings id binding found := by
    rcases named.bindings id binding found
      with ⟨old, foundOld, handle, widget, scope⟩ | known
    · have known := sound.bindings id old foundOld
      rw [handle, widget, scope]
      exact ⟨Nat.lt_of_lt_of_le known.1 named.fits.handles,
        Nat.lt_of_lt_of_le known.2.1 named.fits.widgets,
        Scope.Known.mono named.fits (Nat.le_refl _) known.2.2⟩
    · exact known
  blocks id block found := by
    rcases named.blocks id block found
      with ⟨old, foundOld, handle, parent, scope⟩ | known
    · have known := sound.blocks id old foundOld
      rw [handle, parent, scope]
      exact ⟨Nat.lt_of_lt_of_le known.1 named.fits.handles,
        Nat.lt_of_lt_of_le known.2.1 named.fits.widgets,
        Scope.Known.mono named.fits (Nat.le_refl _) known.2.2⟩
    · exact known

end World

theorem LabelSettings.toValue_known {σ : Type} (settings : LabelSettings)
    (world : World σ) (limit : Nat) : settings.toValue.Known world limit := by
  simp [LabelSettings.toValue, Value.Known, Value.EntriesKnown, Value.ofFloat32]

end LiveMarkup
