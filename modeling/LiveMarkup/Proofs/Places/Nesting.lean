import LiveMarkup.Document
import LiveMarkup.Proofs.Grammar.Expressions
import LiveMarkup.Proofs.Lexing.LineStarts

/-!
# Spans that nest

Every node of a tree knows the stretch of source text it was written in.  The
spans of a tree nest if each covers some characters of the source and carries
the position of the first of them, lies inside the span of the node around it,
and stands behind the spans of the siblings written before it.

The only part of a tree that is not written anywhere is the opacity of a color
that has three arguments.  It borrows the span of the color's name, so it lies
inside the color, but not behind the other three parts.
-/

namespace LiveMarkup

open Grammar

/-- A span covers characters of a source, and its position is that of the first
of them. -/
structure Span.Fits (source : List Char) (span : Span) : Prop where
  some : span.start < span.stop
  within : span.stop ≤ source.length
  exact : span.position = exactPosition source span.start

/-- A span lies inside another one. -/
structure Span.Inside (inner outer : Span) : Prop where
  start : outer.start ≤ inner.start
  stop : inner.stop ≤ outer.stop

/-- Of any two spans the earlier one ends before the later one begins. -/
def InOrder (spans : List Span) : Prop :=
  spans.Pairwise fun earlier later => earlier.stop ≤ later.start

/-- Spans that lie inside an outer one, in order. -/
structure Frames (outer : Span) (spans : List Span) : Prop where
  inside : ∀ inner ∈ spans, inner.Inside outer
  ordered : InOrder spans

/-! ## Expressions -/

/-- The spans of a reference and of the references it reads properties off. -/
def Reference.Nests (source : List Char) : Reference → Prop
  | .property base _ span =>
    span.Fits source ∧ base.span.Inside span ∧ base.Nests source
  | .global _ span => span.Fits source
  | .aliased _ span => span.Fits source
  | .local _ span => span.Fits source

/-- The expressions directly in an expression, in source order. -/
def Expr.parts : Expr → List Expr
  | .vec2 x y _ => [x, y]
  | .color red green blue alpha _ => [red, green, blue, alpha]
  | .object entries _ => entries.map Prod.snd
  | .resource path _ => [path]
  | .style _ properties _ => properties.toList
  | .applyPrefix _ right _ _ => [right]
  | .applyInfix _ left right _ _ => [left, right]
  | _ => []

/-- The opacity of a color that is written without one: it stands before the
first argument. -/
structure ImpliedAlpha (color red alpha : Expr) : Prop where
  solid : ∃ name, alpha = .float 1.0 name
  start : alpha.span.start = color.span.start
  stop : alpha.span.stop ≤ red.span.start

/-- The parts of an expression whose spans are in order: all that are written in
the source. -/
inductive Expr.Writes : Expr → List Expr → Prop where
  | parts (expr : Expr) : expr.Writes expr.parts
  | solid {red green blue alpha : Expr} {span : Span}
      (implied : ImpliedAlpha (.color red green blue alpha span) red alpha) :
      Writes (.color red green blue alpha span) [red, green, blue]

/-- The span of an expression and those of its parts. -/
structure Expr.Nests (source : List Char) (expr : Expr) : Prop where
  fits : expr.span.Fits source
  inside : ∀ part ∈ expr.parts, part.span.Inside expr.span
  ordered : ∃ written, expr.Writes written ∧ InOrder (written.map Expr.span)
  chain : ∀ target, expr = .reference target → target.Nests source

/-! ## Components and loops -/

/-- The span of a property and those of its value. -/
structure Property.Nests (source : List Char) (property : Property) : Prop where
  fits : property.span.Fits source
  inside : property.value.span.Inside property.span
  value : Everywhere (Expr.Nests source) property.value

mutual

/-- The spans of a component and of everything in it. -/
def Component.Nests (source : List Char) : Component → Prop
  | ⟨_, _, properties, signals, children, loops, span⟩ =>
      span.Fits source ∧
      Frames span (properties.map Property.span) ∧
      (∀ property ∈ properties, property.Nests source) ∧
      Frames span (signals.map Signal.span) ∧
      (∀ signal ∈ signals, signal.span.Fits source) ∧
      Frames span (children.map Component.span) ∧
      Component.NestAll source children ∧ Frames span (loops.map Loop.span) ∧
      Loop.NestAll source loops

/-- The spans of some components and of everything in them. -/
def Component.NestAll (source : List Char) : List Component → Prop
  | [] => True
  | component :: rest => component.Nests source ∧ Component.NestAll source rest

/-- The spans of a loop, of its source and of everything in its template. -/
def Loop.Nests (source : List Char) : Loop → Prop
  | ⟨collection, _, _, _, children, loops, span⟩ =>
      span.Fits source ∧ collection.span.Inside span ∧
      Everywhere (Expr.Nests source) collection ∧
      Frames span (children.map Component.span) ∧
      Component.NestAll source children ∧ Frames span (loops.map Loop.span) ∧
      Loop.NestAll source loops

/-- The spans of some loops and of everything in them. -/
def Loop.NestAll (source : List Char) : List Loop → Prop
  | [] => True
  | loop :: rest => loop.Nests source ∧ Loop.NestAll source rest

end

end LiveMarkup
