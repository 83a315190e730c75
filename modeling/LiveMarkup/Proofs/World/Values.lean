import LiveMarkup.Expr.Operators
import LiveMarkup.Widget.Fields
import LiveMarkup.Proofs.World.Access

/-!
# Values and what they name

Loaded resources are told apart by numbers, and nothing else in a value depends
on the order in which things were loaded.  Values are renumbered along a
function, and every operator of the expression language commutes with an
injective renumbering.
-/

namespace LiveMarkup

/-! ## Renumbering -/

namespace Value

mutual

/-- Renumber the resources in a value. -/
def renumber (change : Nat → Nat) : Value → Value
  | .map entries => .map (renumberEntries change entries)
  | .style box entries => .style box (renumberEntries change entries)
  | .resource ⟨path, identity, size⟩ => .resource ⟨path, change identity, size⟩
  | .null => .null
  | .int value => .int value
  | .float value => .float value
  | .bool value => .bool value
  | .text value => .text value
  | .vec2 value => .vec2 value
  | .color value => .color value
  | .list id => .list id
  | .object id => .object id

/-- Renumber the resources in entries. -/
def renumberEntries (change : Nat → Nat) :
    List (String × Value) → List (String × Value)
  | [] => []
  | (key, value) :: rest =>
    (key, renumber change value) :: renumberEntries change rest

end

/-- A value with its resources told apart by path and size alone. -/
def forget (value : Value) : Value :=
  value.renumber fun _ => 0

/-- The change of numbers that leaves those below a base and moves the others up. -/
def shift (base distance : Nat) (number : Nat) : Nat :=
  if number < base then number else number + distance

theorem shift_of_lt {base distance number : Nat} (below : number < base) :
    shift base distance number = number := by
  simp [shift, below]

theorem shift_injective (base distance : Nat) :
    Function.Injective (shift base distance) := by
  intro left right same
  simp only [shift] at same
  split at same <;> split at same <;> omega

theorem lookup_renumberEntries (change : Nat → Nat)
    (entries : List (String × Value)) (key : String) :
    (renumberEntries change entries).lookup key =
      (entries.lookup key).map (renumber change) := by
  induction entries with
  | nil => rfl
  | cons entry rest hypothesis =>
    rw [renumberEntries, List.lookup_cons, List.lookup_cons, hypothesis]
    split <;> rfl

mutual

/-- Renumbering twice is renumbering once. -/
theorem renumber_renumber (first second : Nat → Nat) :
    (value : Value) →
    (value.renumber first).renumber second = value.renumber (second ∘ first)
  | .map entries => by
    rw [renumber, renumber, renumber,
      renumberEntries_renumberEntries first second entries]
  | .style box entries => by
    rw [renumber, renumber, renumber,
      renumberEntries_renumberEntries first second entries]
  | .resource ⟨_, _, _⟩ => rfl
  | .null | .int _ | .float _ | .bool _ | .text _ | .vec2 _ | .color _ |
      .list _ | .object _ =>
    rfl

theorem renumberEntries_renumberEntries (first second : Nat → Nat) :
    (entries : List (String × Value)) →
      renumberEntries second (renumberEntries first entries) =
        renumberEntries (second ∘ first) entries
  | [] => rfl
  | (key, value) :: rest => by
    rw [renumberEntries, renumberEntries, renumberEntries,
      renumber_renumber first second value,
      renumberEntries_renumberEntries first second rest]

end

/-- Forgetting numbers does not notice an earlier renumbering. -/
theorem forget_renumber (change : Nat → Nat) (value : Value) :
    (value.renumber change).forget = value.forget :=
  renumber_renumber change _ value

theorem number?_renumber (change : Nat → Nat) (value : Value) :
    (value.renumber change).number? = value.number? := by
  cases value <;> rfl

/-! ## Equality -/

theorem beq_change {change : Nat → Nat} (injective : Function.Injective change)
    (left right : Nat) : (change left == change right) = (left == right) := by
  rw [Bool.eq_iff_iff]
  simp [injective.eq_iff]

mutual

/-- Values are the same after a renumbering exactly when they were before. -/
theorem same_renumber {change : Nat → Nat}
    (injective : Function.Injective change) :
    (left right : Value) →
    (left.renumber change).same (right.renumber change) = left.same right
  | .map left, other => by
    cases other with
    | map right =>
      simp only [renumber, same]
      exact sameEntries_renumber injective left right
    | _ => simp [renumber, same]
  | .style _ left, other => by
    cases other with
    | style _ right =>
      simp only [renumber, same, sameEntries_renumber injective left right]
    | _ => simp [renumber, same]
  | .resource _, other => by
    cases other <;> simp [renumber, same, beq_change injective]
  | .null, other | .int _, other | .float _, other | .bool _, other | .text _, other
  | .vec2 _, other | .color _, other | .list _, other | .object _, other => by
    cases other <;> simp [renumber, same]

theorem sameEntries_renumber {change : Nat → Nat}
    (injective : Function.Injective change) :
    (left right : List (String × Value)) →
    sameEntries (renumberEntries change left) (renumberEntries change right) =
      sameEntries left right
  | [], [] => rfl
  | (_, left) :: leftRest, (_, right) :: rightRest => by
    simp only [renumberEntries, sameEntries, same_renumber injective left right,
      sameEntries_renumber injective leftRest rightRest]
  | [], _ :: _ => by simp [renumberEntries, sameEntries]
  | _ :: _, [] => by simp [renumberEntries, sameEntries]

end

mutual

/-- Values are loosely equal after a renumbering exactly when they were before.
-/
theorem loose_renumber {change : Nat → Nat}
    (injective : Function.Injective change) :
    (left right : Value) →
    (left.renumber change).loose (right.renumber change) = left.loose right
  | .map left, .map right => by
    simp only [renumber, loose]
    exact looseEntries_renumber injective left right
  | .map left, other => by
    cases other with
    | map right =>
      simp only [renumber, loose]
      exact looseEntries_renumber injective left right
    | _ => simp [renumber, loose, same]
  | .style box left, other => by
    have equal := same_renumber injective (.style box left) other
    cases other <;> simpa [renumber, loose] using equal
  | .resource left, other => by
    have equal := same_renumber injective (.resource left) other
    cases other <;> simpa [renumber, loose] using equal
  | .null, other | .int _, other | .float _, other | .bool _, other | .text _, other
  | .vec2 _, other | .color _, other | .list _, other | .object _, other => by
    cases other <;> simp [renumber, loose, same]

theorem looseEntries_renumber {change : Nat → Nat}
    (injective : Function.Injective change) :
    (left right : List (String × Value)) →
    looseEntries (renumberEntries change left) (renumberEntries change right) =
      looseEntries left right
  | [], [] => rfl
  | (_, left) :: leftRest, (_, right) :: rightRest => by
    simp only [renumberEntries, looseEntries, loose_renumber injective left right,
      looseEntries_renumber injective leftRest rightRest]
  | [], _ :: _ => by simp [renumberEntries, looseEntries]
  | _ :: _, [] => by simp [renumberEntries, looseEntries]

end

/-- Numbers, truth values, texts, vectors and colors, and nothing at all. -/
def IsScalar : Value → Prop
  | .null | .int _ | .float _ | .bool _ | .text _ | .vec2 _ | .color _ => True
  | _ => False

theorem IsScalar.renumber {value : Value} (scalar : value.IsScalar)
    (change : Nat → Nat) : value.renumber change = value := by
  cases value <;> first | rfl | exact scalar.elim

end Value

/-! ## What values name -/

/-- Whether there is an object. -/
def World.Has {σ : Type} (world : World σ) : ObjectId → Prop
  | .bag id => id.index < world.bags.size
  | .widget id => id.index < world.widgets.size
  | .handle id => id.index < world.handles.size

namespace Value

variable {σ : Type}

mutual

/-- Whether a value names only what there is, and its resources have numbers
below a limit. -/
def Known (world : World σ) (limit : Nat) : Value → Prop
  | .map entries => EntriesKnown world limit entries
  | .style _ entries => EntriesKnown world limit entries
  | .resource content => content.identity < limit
  | .list id => id.index < world.lists.size
  | .object id => world.Has id
  | _ => True

/-- Whether all values of entries name only what there is. -/
def EntriesKnown (world : World σ) (limit : Nat) : List (String × Value) → Prop
  | [] => True
  | (_, value) :: rest => Known world limit value ∧ EntriesKnown world limit rest

end

theorem entriesKnown_iff (world : World σ) (limit : Nat)
    (entries : List (String × Value)) :
    EntriesKnown world limit entries ↔
      ∀ entry ∈ entries, entry.2.Known world limit := by
  induction entries with
  | nil => simp [EntriesKnown]
  | cons entry rest hypothesis => simp [EntriesKnown, hypothesis]

theorem IsScalar.known {value : Value} (scalar : value.IsScalar) (world : World σ)
    (limit : Nat) : value.Known world limit := by
  cases value <;> trivial

theorem known_of_lookup {world : World σ} {limit : Nat}
    {entries : List (String × Value)} {key : String} {value : Value}
    (known : EntriesKnown world limit entries)
    (found : entries.lookup key = some value) : value.Known world limit := by
  induction entries with
  | nil => cases found
  | cons entry rest hypothesis =>
    rw [List.lookup_cons] at found
    split at found
    · cases found
      exact known.1
    · exact hypothesis known.2 found

mutual

/-- A renumbering that keeps the numbers below a limit keeps every value known
below it. -/
theorem Known.renumber {world : World σ} {limit : Nat} {change : Nat → Nat}
    (keeps : ∀ number < limit, change number = number) :
    (value : Value) → value.Known world limit → value.renumber change = value
  | .map entries, known => by
    rw [Value.renumber, EntriesKnown.renumber keeps entries known]
  | .style box entries, known => by
    rw [Value.renumber, EntriesKnown.renumber keeps entries known]
  | .resource ⟨_, _, _⟩, known => by
    rw [Value.renumber, keeps _ known]
  | .null, _ | .int _, _ | .float _, _ | .bool _, _ | .text _, _ | .vec2 _,
      _ | .color _, _
  | .list _, _ | .object _, _ => rfl

theorem EntriesKnown.renumber {world : World σ} {limit : Nat} {change : Nat → Nat}
    (keeps : ∀ number < limit, change number = number) :
    (entries : List (String × Value)) → EntriesKnown world limit entries →
      renumberEntries change entries = entries
  | [], _ => rfl
  | (_, value) :: rest, known => by
    rw [renumberEntries, Known.renumber keeps value known.1,
      EntriesKnown.renumber keeps rest known.2]

end

/-- What is named stays in a world that has at least as much. -/
structure Fits (world later : World σ) : Prop where
  bags : world.bags.size ≤ later.bags.size
  lists : world.lists.size ≤ later.lists.size
  widgets : world.widgets.size ≤ later.widgets.size
  handles : world.handles.size ≤ later.handles.size

end Value

theorem Value.Fits.has {σ : Type} {world later : World σ}
    (fits : Value.Fits world later) {object : ObjectId}
    (has : world.Has object) : later.Has object := by
  cases object with
  | bag id => exact Nat.lt_of_lt_of_le has fits.bags
  | widget id => exact Nat.lt_of_lt_of_le has fits.widgets
  | handle id => exact Nat.lt_of_lt_of_le has fits.handles

namespace Value

variable {σ : Type}

mutual

/-- A value that is known stays known as the world grows. -/
theorem Known.mono {world later : World σ} {limit higher : Nat}
    (fits : Fits world later) (below : limit ≤ higher) :
    (value : Value) → value.Known world limit → value.Known later higher
  | .map entries, known => EntriesKnown.mono fits below entries known
  | .style _ entries, known => EntriesKnown.mono fits below entries known
  | .resource ⟨_, _, _⟩, known => Nat.lt_of_lt_of_le known below
  | .list _, known => Nat.lt_of_lt_of_le known fits.lists
  | .object _, known => fits.has known
  | .null, _ | .int _, _ | .float _, _ | .bool _, _ | .text _, _ | .vec2 _,
      _ | .color _, _ =>
    trivial

theorem EntriesKnown.mono {world later : World σ} {limit higher : Nat}
    (fits : Fits world later) (below : limit ≤ higher) :
    (entries : List (String × Value)) → EntriesKnown world limit entries →
    EntriesKnown later higher entries
  | [], _ => trivial
  | (_, value) :: rest, known =>
    ⟨Known.mono fits below value known.1, EntriesKnown.mono fits below rest known.2⟩

end

end Value

end LiveMarkup
