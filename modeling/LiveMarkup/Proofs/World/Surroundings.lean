import LiveMarkup.Expr.Evaluation
import LiveMarkup.Proofs.World.Values

/-!
# What evaluation consults

Besides the properties that it reads, an evaluation consults the types of
objects, the globals, the lists, the aliases and the source of resources.  Two
worlds in agreement on these give operators the same meaning, up to the numbers
of loaded resources.
-/

namespace LiveMarkup

namespace World

variable {σ : Type}

/-- Agreement on everything that evaluation consults, as far as one world knows
it, except for the values of properties. -/
structure Agrees (world other : World σ) : Prop where
  globals : other.globals = world.globals
  resources : other.resources = world.resources
  files : other.files = world.files
  converters : other.converters = world.converters
  bagType : ∀ id : BagId, id.index < world.bags.size →
    (other.bag id).typeName = (world.bag id).typeName
  items : ∀ id : ListId, id.index < world.lists.size →
    (other.list id).items = (world.list id).items
  cls : ∀ id : WidgetId, id.index < world.widgets.size →
    (other.widget id).cls = (world.widget id).cls
  name : ∀ id : HandleId, id.index < world.handles.size →
    (other.handle id).name = (world.handle id).name
  controller : ∀ id : HandleId, id.index < world.handles.size →
    (other.handle id).controller = (world.handle id).controller
  nodes : ∀ (id : HandleId) (aliasName : String) (node : WidgetId),
    id.index < world.handles.size → world.aliasWidget? id aliasName = some node →
      other.aliasWidget? id aliasName = some node

theorem Agrees.refl (world : World σ) : world.Agrees world :=
  ⟨rfl, rfl, rfl, rfl, fun _ _ => rfl, fun _ _ => rfl, fun _ _ => rfl,
    fun _ _ => rfl, fun _ _ => rfl, fun _ _ _ _ found => found⟩

/-- Agreement holds as long as what the surroundings consist of is the same, and
all that has come is objects. -/
theorem Agrees.of_same {world other : World σ}
    (bagType : ∀ id : BagId, id.index < world.bags.size →
      (other.bag id).typeName = (world.bag id).typeName)
    (items : ∀ id : ListId, id.index < world.lists.size →
      (other.list id).items = (world.list id).items)
    (cls : ∀ id : WidgetId, id.index < world.widgets.size →
      (other.widget id).cls = (world.widget id).cls)
    (handles : ∀ id : HandleId, id.index < world.handles.size →
      other.handle id = world.handle id)
    (globals : other.globals = world.globals := by rfl)
    (resources : other.resources = world.resources := by rfl)
    (files : other.files = world.files := by rfl)
    (converters : other.converters = world.converters := by rfl) :
    world.Agrees other where
  globals
  resources
  files
  converters
  bagType
  items
  cls
  name id inside := by rw [handles id inside]
  controller id inside := by rw [handles id inside]
  nodes id aliasName node inside found := by
    rw [aliasWidget?, handles id inside]
    exact found

/-- Agreement carries over from one world to the next. -/
theorem Agrees.trans {first second third : World σ}
    (fits : Value.Fits first second) (left : first.Agrees second)
    (right : second.Agrees third) : first.Agrees third where
  globals := right.globals.trans left.globals
  resources := right.resources.trans left.resources
  files := right.files.trans left.files
  converters := right.converters.trans left.converters
  bagType id inside :=
    (right.bagType id (Nat.lt_of_lt_of_le inside fits.bags)).trans
      (left.bagType id inside)
  items id inside :=
    (right.items id (Nat.lt_of_lt_of_le inside fits.lists)).trans
      (left.items id inside)
  cls id inside :=
    (right.cls id (Nat.lt_of_lt_of_le inside fits.widgets)).trans
      (left.cls id inside)
  name id inside :=
    (right.name id (Nat.lt_of_lt_of_le inside fits.handles)).trans
      (left.name id inside)
  controller id inside :=
    (right.controller id (Nat.lt_of_lt_of_le inside fits.handles)).trans
      (left.controller id inside)
  nodes id aliasName node inside found :=
    right.nodes id aliasName node (Nat.lt_of_lt_of_le inside fits.handles)
      (left.nodes id aliasName node inside found)

variable {world other : World σ} {limit : Nat}

theorem Agrees.typeName (agrees : world.Agrees other) (value : Value)
    (known : value.Known world limit) (change : Nat → Nat) :
    other.typeName (value.renumber change) = world.typeName value := by
  cases value with
  | object id =>
    cases id with
    | bag id => exact agrees.bagType id known
    | widget id => exact congrArg WidgetClass.name (agrees.cls id known)
    | handle id => exact agrees.name id known
  | _ => rfl

mutual

/-- Agreeing worlds show values alike, however the lists are numbered. -/
theorem Agrees.shown (agrees : world.Agrees other) (change : Nat → Nat) :
    (value : Value) → value.Known world limit →
      other.shown (value.renumber change) = world.shown value
  | .map entries, known => by
    rw [Value.renumber, World.shown, World.shown,
      Agrees.shownEntries agrees change " " entries known]
  | .list id, known => by
    rw [Value.renumber, World.shown, World.shown, agrees.items id known]
  | .object id, known => by
    have named := agrees.typeName (.object id) known change
    rw [Value.renumber] at named
    rw [Value.renumber, World.shown, World.shown, named]
  | .resource ⟨_, _, _⟩, _ => by rw [Value.renumber, World.shown, World.shown]
  | .style _ _, _ => by rw [Value.renumber, World.shown, World.shown]
  | .null, _ | .int _, _ | .float _, _ | .bool _, _ | .text _, _ | .vec2 _,
      _ | .color _, _ => by
    simp only [Value.renumber, World.shown]

theorem Agrees.shownEntries (agrees : world.Agrees other) (change : Nat → Nat)
    (separator : String) : (entries : List (String × Value)) →
      Value.EntriesKnown world limit entries →
      other.shownEntries separator (Value.renumberEntries change entries) =
        world.shownEntries separator entries
  | [], _ => by rw [Value.renumberEntries, World.shownEntries, World.shownEntries]
  | (key, value) :: rest, known => by
    rw [Value.renumberEntries, World.shownEntries, World.shownEntries,
      Agrees.shown agrees change value known.1,
      Agrees.shownEntries agrees change ", " rest known.2]

end

/-! ## Operators -/

theorem Agrees.operandError (agrees : world.Agrees other) {left right : Value}
    (leftKnown : left.Known world limit) (rightKnown : right.Known world limit)
    (change : Nat → Nat) (op : InfixOp) :
    other.operandError op (left.renumber change) (right.renumber change) =
      world.operandError op left right := by
  rw [World.operandError, World.operandError, agrees.typeName left leftKnown,
    agrees.typeName right rightKnown]

theorem Agrees.applyPrefix (agrees : world.Agrees other) {value : Value}
    (known : value.Known world limit) (change : Nat → Nat) (op : PrefixOp) :
    other.applyPrefix op (value.renumber change) = world.applyPrefix op value := by
  have named := agrees.typeName value known change
  cases op <;> cases value <;> first
    | rfl
    | simp only [World.applyPrefix, Value.renumber] at named ⊢
      rw [named]

theorem Agrees.compare (agrees : world.Agrees other) {left right : Value}
    (leftKnown : left.Known world limit) (rightKnown : right.Known world limit)
    (change : Nat → Nat) (op : InfixOp) :
    other.compare op (left.renumber change) (right.renumber change) =
      world.compare op left right := by
  have failed := agrees.operandError leftKnown rightKnown change op
  cases left <;> cases right <;> first
    | rfl
    | simp only [World.compare, Value.renumber, Value.number?] at failed ⊢
      rw [failed]

theorem Agrees.calculate (agrees : world.Agrees other) {left right : Value}
    (leftKnown : left.Known world limit) (rightKnown : right.Known world limit)
    (change : Nat → Nat) (op : InfixOp) :
    other.calculate op (left.renumber change) (right.renumber change) =
      world.calculate op left right := by
  have failed := agrees.operandError leftKnown rightKnown change op
  cases left <;> cases right <;> first
    | rfl
    | simp only [World.calculate, Value.renumber, Value.number?] at failed ⊢
      rw [failed]

/-- Every operator gives the same answer, up to the numbers of resources, as
long as different numbers stay different. -/
theorem Agrees.applyInfix (agrees : world.Agrees other) {left right : Value}
    (leftKnown : left.Known world limit) (rightKnown : right.Known world limit)
    {change : Nat → Nat} (injective : Function.Injective change) (op : InfixOp) :
    other.applyInfix op (left.renumber change) (right.renumber change) =
      world.applyInfix op left right := by
  have failed := agrees.operandError leftKnown rightKnown change op
  have leftShown := agrees.shown change left leftKnown
  have rightShown := agrees.shown change right rightKnown
  have calculated := agrees.calculate leftKnown rightKnown change op
  have compared := agrees.compare leftKnown rightKnown change op
  have loose := Value.loose_renumber injective left right
  cases op with
  | eq => simp only [World.applyInfix, loose]
  | notEq => simp only [World.applyInfix, loose]
  | greater => simp only [World.applyInfix, compared]
  | less => simp only [World.applyInfix, compared]
  | greaterEq => simp only [World.applyInfix, compared]
  | lessEq => simp only [World.applyInfix, compared]
  | sub => exact calculated
  | mul => exact calculated
  | div => exact calculated
  | rem => exact calculated
  | add =>
    cases left <;> cases right <;>
      simp only [World.applyInfix, Value.renumber]
      at calculated leftShown rightShown ⊢ <;> first
        | exact calculated
        | rw [leftShown, rightShown]
  | or =>
    cases left <;> cases right <;> first
      | rfl
      | simp only [World.applyInfix, Value.renumber] at failed ⊢
        rw [failed]
  | and =>
    cases left <;> cases right <;> first
      | rfl
      | simp only [World.applyInfix, Value.renumber] at failed ⊢
        rw [failed]

theorem calculateInts_scalar {op : InfixOp} {left right : Int} {value : Value}
    (result : calculateInts op left right = .ok value) : value.IsScalar := by
  cases op <;> simp only [calculateInts] at result <;> repeat' split at result
  all_goals first
    | (cases result; trivial)
    | cases result

theorem calculateFloats_scalar {op : InfixOp} {left right : Float} {value : Value}
    (result : calculateFloats op left right = .ok value) : value.IsScalar := by
  cases op <;> simp only [calculateFloats] at result <;> repeat' split at result
  all_goals first
    | (cases result; trivial)
    | cases result

theorem calculate_scalar {op : InfixOp} {left right value : Value}
    (result : world.calculate op left right = .ok value) : value.IsScalar := by
  unfold calculate at result
  split at result
  · exact calculateInts_scalar result
  · split at result <;> cases result <;> trivial
  · split at result
    · cases result
      trivial
    · split at result <;> cases result
      trivial
    · cases result
  · split at result <;> cases result
    trivial
  · split at result
    · exact calculateFloats_scalar result
    · cases result

/-- An operator gives a scalar. -/
theorem applyInfix_scalar {op : InfixOp} {left right value : Value}
    (result : world.applyInfix op left right = .ok value) : value.IsScalar := by
  have compared :
      (world.compare op left right).map .bool = .ok value → value.IsScalar := by
    intro result
    cases outcome : world.compare op left right with
    | error => rw [outcome] at result; cases result
    | ok truth => rw [outcome] at result; cases result; trivial
  cases op with
  | eq => cases result; trivial
  | notEq => cases result; trivial
  | greater => exact compared result
  | less => exact compared result
  | greaterEq => exact compared result
  | lessEq => exact compared result
  | sub => exact calculate_scalar result
  | mul => exact calculate_scalar result
  | div => exact calculate_scalar result
  | rem => exact calculate_scalar result
  | add =>
    simp only [applyInfix] at result
    split at result
    · cases result; trivial
    · cases result; trivial
    · exact calculate_scalar result
  | or =>
    simp only [applyInfix] at result
    split at result <;> cases result
    trivial
  | and =>
    simp only [applyInfix] at result
    split at result <;> cases result
    trivial

theorem applyPrefix_scalar {op : PrefixOp} {value changed : Value}
    (result : world.applyPrefix op value = .ok changed) : changed.IsScalar := by
  unfold applyPrefix at result
  split at result
  case h_2 => split at result <;> cases result; trivial
  all_goals first
    | (cases result; trivial)
    | cases result

end World

end LiveMarkup
