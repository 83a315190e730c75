import LiveMarkup.Document

/-!
# Trees without places

A tree knows where it was written.  Two trees that differ in nothing else are
the same once their places are taken away, and a tree that was never written has
none to begin with.
-/

namespace LiveMarkup

/-! ## Expressions -/

/-- The span of a tree that stands in no source. -/
def Span.nowhere : Span := ⟨0, 0, ⟨1, 1⟩⟩

/-- A reference without its places. -/
def Reference.bare : Reference → Reference
  | .global name _ => .global name .nowhere
  | .aliased name _ => .aliased name .nowhere
  | .local name _ => .local name .nowhere
  | .property base name _ => .property base.bare name .nowhere

mutual

/-- An expression without its places. -/
def Expr.bare : Expr → Expr
  | .int value _ => .int value .nowhere
  | .float value _ => .float value .nowhere
  | .bool value _ => .bool value .nowhere
  | .text value _ => .text value .nowhere
  | .null _ => .null .nowhere
  | .vec2 x y _ => .vec2 x.bare y.bare .nowhere
  | .color red green blue alpha _ =>
    .color red.bare green.bare blue.bare alpha.bare .nowhere
  | .object entries _ => .object (Expr.bareEntries entries) .nowhere
  | .resource path _ => .resource path.bare .nowhere
  | .style box none _ => .style box none .nowhere
  | .style box (some properties) _ => .style box (some properties.bare) .nowhere
  | .reference target => .reference target.bare
  | .applyPrefix op right grouped _ => .applyPrefix op right.bare grouped .nowhere
  | .applyInfix op left right grouped _ =>
    .applyInfix op left.bare right.bare grouped .nowhere

/-- The entries of an object literal without the places of their values. -/
def Expr.bareEntries : List (String × Expr) → List (String × Expr)
  | [] => []
  | (key, value) :: others => (key, value.bare) :: Expr.bareEntries others

end

/-- Grouping commutes with taking the spans away. -/
theorem Expr.bare_inGroup (expr : Expr) :
    expr.inGroup.bare = expr.bare.inGroup := by
  cases expr with
  | style box properties span => cases properties <;> simp [Expr.inGroup, Expr.bare]
  | _ => simp [Expr.inGroup, Expr.bare]

/-! ## Documents -/

/-- A property without its places. -/
def Property.bare (property : Property) : Property :=
  { property with value := property.value.bare, span := .nowhere }

/-- A signal without its place. -/
def Signal.bare (signal : Signal) : Signal := { signal with span := .nowhere }

/-- An import without its place. -/
def Import.bare (imported : Import) : Import := { imported with span := .nowhere }

mutual

/-- A component without the places of it and of what is below it. -/
def Component.bare : Component → Component
  | ⟨name, aliasName, properties, signals, children, loops, _⟩ =>
    ⟨name, aliasName, properties.map Property.bare, signals.map Signal.bare,
      Component.bareAll children, Loop.bareAll loops, .nowhere⟩

/-- Components without their places. -/
def Component.bareAll : List Component → List Component
  | [] => []
  | component :: rest => component.bare :: Component.bareAll rest

/-- A loop without the places of it and of what is below it. -/
def Loop.bare : Loop → Loop
  | ⟨source, itemType, indexName, valueName, children, loops, _⟩ =>
    ⟨source.bare, itemType, indexName, valueName, Component.bareAll children,
      Loop.bareAll loops, .nowhere⟩

/-- Loops without their places. -/
def Loop.bareAll : List Loop → List Loop
  | [] => []
  | loop :: rest => loop.bare :: Loop.bareAll rest

end

/-- A document without its places. -/
def Document.bare (document : Document) : Document :=
  { document with
    imports := document.imports.map Import.bare
    root := document.root.bare }

theorem Component.bareAll_eq_map (components : List Component) :
    Component.bareAll components = components.map Component.bare := by
  induction components with
  | nil => rfl
  | cons component rest induction =>
    rw [Component.bareAll, induction, List.map_cons]

theorem Loop.bareAll_eq_map (loops : List Loop) :
    Loop.bareAll loops = loops.map Loop.bare := by
  induction loops with
  | nil => rfl
  | cons loop rest induction => rw [Loop.bareAll, induction, List.map_cons]

end LiveMarkup
