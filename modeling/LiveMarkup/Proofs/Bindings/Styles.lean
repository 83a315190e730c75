import LiveMarkup.Rendering.Properties
import LiveMarkup.Proofs.World.Access
import LiveMarkup.Proofs.World.Actions

/-!
# Overridden styles

Any spelling of a style key finds the kind of style.  The override itself is
kept under the key as it is spelled, so that the override under one spelling is
not the one under another.  `styleOverride?_applyStyles` tells which override is
found after any row of object literals: the last one under just that spelling.
-/

namespace LiveMarkup

variable {σ : Type}

/-! ## Lists of overrides -/

namespace StyleOverride

variable (entry : StyleOverride) (overrides : List StyleOverride)

/-- An override, or one of the same key in its place. -/
def replace (other : StyleOverride) : StyleOverride :=
  if other.key == entry.key then entry else other

/-- Put an override in place of the one under the same key, or else behind the
others. -/
def put : List StyleOverride :=
  if overrides.any (·.key == entry.key) then overrides.map entry.replace
    else overrides ++ [entry]

variable {entry overrides}

theorem replace_key (other : StyleOverride) :
    (entry.replace other).key = other.key := by
  rw [replace]
  split
  · next same => exact (eq_of_beq same).symm
  · rfl

theorem map_replace_key :
    (overrides.map entry.replace).map key = overrides.map key := by
  rw [List.map_map]
  exact List.map_congr_left fun other _ => replace_key other

theorem find?_replace (name : String) :
    (overrides.map entry.replace).find? (·.key == name) =
      (overrides.find? (·.key == name)).map entry.replace := by
  rw [List.find?_map]
  congr 2
  funext other
  rw [Function.comp_apply, replace_key]

theorem find?_singleton (name : String) :
    [entry].find? (·.key == name) =
      if entry.key = name then some entry else none := by
  by_cases same : entry.key = name <;> simp [same]

/-- The override under the key is the new one, and those under other keys are
the old ones. -/
theorem find?_put (name : String) : (entry.put overrides).find? (·.key == name) =
    if entry.key = name then some entry else overrides.find? (·.key == name) := by
  rw [put]
  split
  · next has =>
    rw [find?_replace]
    cases found : overrides.find? (·.key == name) with
    | none =>
      have apart : entry.key ≠ name := by
        rintro rfl
        obtain ⟨other, member, same⟩ := List.any_eq_true.mp has
        exact List.find?_eq_none.mp found other member same
      rw [if_neg apart]
      rfl
    | some other =>
      have named : other.key = name := eq_of_beq (List.find?_some found :)
      rw [Option.map_some, replace, named]
      by_cases same : entry.key = name
      · rw [if_pos same, if_pos (beq_iff_eq.mpr same.symm)]
      · rw [if_neg same, if_neg fun equal => same (eq_of_beq equal).symm]
  · next misses =>
    rw [List.find?_append, find?_singleton]
    by_cases same : entry.key = name
    · subst same
      have none : overrides.find? (·.key == entry.key) = none :=
        List.find?_eq_none.mpr fun other member equal =>
          misses (List.any_eq_true.mpr ⟨other, member, equal⟩)
      rw [none, if_pos rfl, Option.none_or]
    · rw [if_neg same, if_neg same, Option.or_none]

/-- There is one override of each key at most. -/
theorem nodup_put (distinct : (overrides.map key).Nodup) :
    ((entry.put overrides).map key).Nodup := by
  rw [put]
  split
  · rwa [map_replace_key]
  · next misses =>
    have new : entry.key ∉ overrides.map key := fun member => by
      obtain ⟨other, inside, same⟩ := List.mem_map.mp member
      exact misses (List.any_eq_true.mpr ⟨other, inside, beq_iff_eq.mpr same⟩)
    rw [List.map_append, List.nodup_append]
    refine ⟨distinct, List.pairwise_singleton _ _, fun left inside right last => ?_⟩
    rintro rfl
    exact new (List.mem_singleton.mp last ▸ inside)

/-- Of overrides put one after the other, the last under a key stays. -/
theorem find?_foldl_put (entries : List StyleOverride) (name : String) :
    (entries.foldl (fun overrides entry => entry.put overrides) overrides).find?
      (·.key == name) =
      (entries.reverse.find? (·.key == name)).or
        (overrides.find? (·.key == name)) := by
  induction entries generalizing overrides with
  | nil => rfl
  | cons entry rest hypothesis =>
    rw [List.foldl_cons, hypothesis, find?_put, List.reverse_cons,
      List.find?_append, Option.or_assoc, find?_singleton]
    by_cases same : entry.key = name
    · rw [if_pos same, if_pos same, Option.some_or]
    · rw [if_neg same, if_neg same, Option.none_or]

/-- Two spellings of a key have an override each. -/
example (kind : StyleKind) (old new : Value) :
    (put ⟨"FontColor", kind, new⟩ [⟨"font_color", kind, old⟩]).map key =
      ["font_color", "FontColor"] :=
  rfl

theorem nodup_foldl_put (entries : List StyleOverride)
    (distinct : (overrides.map key).Nodup) :
    ((entries.foldl (fun overrides entry => entry.put overrides) overrides).map
      key).Nodup := by
  induction entries generalizing overrides with
  | nil => exact distinct
  | cons entry rest hypothesis => exact hypothesis (nodup_put distinct)

end StyleOverride

/-! ## Widgets -/

/-- What the entries of an object literal override for a class, up to the first
key that it does not know. -/
def WidgetClass.overridden (cls : WidgetClass) :
    List (String × Value) → List StyleOverride
  | [] => []
  | (key, value) :: rest =>
    match cls.styleKind? key with
    | none => []
    | some kind => ⟨key, kind, value⟩ :: cls.overridden rest

namespace World

variable (world : World σ) (widget : WidgetId)

/-- The world after object literals have been given to the theme of a widget,
one after the other, whether they were taken as a whole or not. -/
def applyStyles (objects : List (List (String × Value))) : World σ :=
  objects.foldl (fun world entries =>
    ((applyOverrides widget entries).run world).2) world

/-- An override of one style replaces the one of that style or comes last. -/
theorem widget_overrideStyle (inside : widget.index < world.widgets.size)
    (key : String)
    (kind : StyleKind) (value : Value) :
    ((Toolkit.overrideStyle widget key kind value : Action σ Unit)
    world).2.widget widget =
      { world.widget widget with
        overrides := StyleOverride.put ⟨key, kind, value⟩
          (world.widget widget).overrides } := by
  change ((world.record _).updateWidget widget _).widget widget = _
  rw [widget_updateWidget, if_pos ⟨rfl, inside⟩]
  change (if (world.widget widget).overrides.any (·.key == key) then _ else _) = _
  rw [StyleOverride.put]
  split <;> rfl

/-- An object literal leaves everything of the widget but its overrides as it is. -/
theorem widget_applyOverrides (entries : List (String × Value)) :
    ((applyOverrides widget entries : Attempt σ Unit).run world).2.widget widget =
      { world.widget widget with
        overrides := ((world.widget widget).cls.overridden entries).foldl
          (fun overrides entry => entry.put overrides)
            (world.widget widget).overrides } := by
  induction entries generalizing world with
  | nil => rfl
  | cons entry rest hypothesis =>
    obtain ⟨key, value⟩ := entry
    unfold applyOverrides
    rw [Attempt.bind_run, Attempt.getThe_run, WidgetClass.overridden]
    dsimp only
    cases known : (world.widget widget).cls.styleKind? key with
    | none => rfl
    | some kind =>
      have inside : widget.index < world.widgets.size :=
        Decidable.byContradiction fun outside => by
          rw [widget_of_not_lt outside] at known
          cases known
      dsimp only
      rw [Attempt.bind_run, Attempt.lift_run]
      dsimp only
      rw [hypothesis, widget_overrideStyle world widget inside]
      rfl

/-- Object literals applied in turn leave the overrides that their entries name,
the later ones on top. -/
theorem widget_applyStyles (objects : List (List (String × Value))) :
    (world.applyStyles widget objects).widget widget =
      { world.widget widget with
        overrides := (objects.flatMap (world.widget widget).cls.overridden).foldl
          (fun overrides entry => entry.put overrides)
            (world.widget widget).overrides } := by
  induction objects generalizing world with
  | nil => rfl
  | cons entries rest hypothesis =>
    rw [applyStyles, List.foldl_cons]
    refine (hypothesis _).trans ?_
    rw [widget_applyOverrides, List.flatMap_cons, List.foldl_append]

end World

/-- After any sequence of object literals, the override under a key is the last
entry of just that key that a class knows, with the kind of style that the key
means, or else what it was before.  There is one at most. -/
theorem styleOverride?_applyStyles (world : World σ) (widget : WidgetId)
    (objects : List (List (String × Value))) :
    (∀ key,
      widget.styleOverride? (world.applyStyles widget objects) key =
        ((objects.flatMap (world.widget widget).cls.overridden).reverse.find?
          (·.key == key)).or (widget.styleOverride? world key)) ∧
    (((world.widget widget).overrides.map StyleOverride.key).Nodup →
     (((world.applyStyles widget objects).widget widget).overrides.map
       StyleOverride.key).Nodup) := by
  constructor
  · intro key
    rw [WidgetId.styleOverride?, World.widget_applyStyles]
    exact StyleOverride.find?_foldl_put _ key
  · intro distinct
    rw [World.widget_applyStyles]
    exact StyleOverride.nodup_foldl_put _ distinct

end LiveMarkup
