import LiveMarkup.Document.Parser
import LiveMarkup.Proofs.Parsing.ExpressionSteps

/-!
# Single steps of the document parser

The document parser also remembers the aliases it has met.  This module says
where a stream stands after passing tokens that declare aliases, and what each
part of the parser does with the next token.
-/

namespace LiveMarkup

namespace TokenStream

/-- The stream after the declaration of further aliases. -/
def declare (stream : TokenStream) (names : List String) : TokenStream :=
  { stream with aliases := stream.aliases ++ names }

@[simp]
theorem declare_upcoming (stream : TokenStream) (names : List String) :
    (stream.declare names).upcoming = stream.upcoming := rfl

@[simp]
theorem declare_final (stream : TokenStream) (names : List String) :
    (stream.declare names).final = stream.final := rfl

@[simp]
theorem declare_aliases (stream : TokenStream) (names : List String) :
    (stream.declare names).aliases = stream.aliases ++ names := rfl

@[simp]
theorem declare_head (stream : TokenStream) (names : List String) :
    (stream.declare names).head = stream.head := rfl

@[simp]
theorem declare_nil (stream : TokenStream) : stream.declare [] = stream := by
  simp [declare]

@[simp]
theorem declare_declare (stream : TokenStream) (first second : List String) :
    (stream.declare first).declare second = stream.declare (first ++ second) := by
  simp [declare]

@[simp]
theorem declare_pass (stream : TokenStream) (names : List String)
    (passed remaining : List Token) :
    (stream.declare names).pass passed remaining =
      (stream.pass passed remaining).declare names := rfl

/--
Reading from one stream to another passes some tokens and declares some
aliases, which are none of those declared before.
-/
structure Declares (stream : TokenStream) (passed : List Token)
    (names : List String) (rest : TokenStream) : Prop where
  upcoming : stream.upcoming = passed ++ rest.upcoming
  rest_eq : rest = (stream.pass passed rest.upcoming).declare names
  distinct : stream.aliases.Nodup → rest.aliases.Nodup

/-- Tokens that are merely passed declare no alias. -/
theorem Passes.declares {stream rest : TokenStream} {passed : List Token}
    (passes : Passes stream passed rest) : Declares stream passed [] rest := by
  refine ⟨passes.upcoming, ?_, ?_⟩
  · rw [declare_nil]
    exact passes.rest_eq
  · intro distinct
    rw [passes.rest_eq]
    exact distinct

namespace Declares

theorem final {stream rest : TokenStream} {passed : List Token}
    {names : List String} (declares : Declares stream passed names rest) :
    rest.final = stream.final := by
  rw [declares.rest_eq]
  rfl

theorem aliases {stream rest : TokenStream} {passed : List Token}
    {names : List String} (declares : Declares stream passed names rest) :
    rest.aliases = stream.aliases ++ names := by
  rw [declares.rest_eq]
  rfl

/-- The names declared by two stretches of tokens stand one after the other. -/
theorem trans {stream middle rest : TokenStream} {first second : List Token}
    {firstNames secondNames : List String}
    (before : Declares stream first firstNames middle)
    (after : Declares middle second secondNames rest) :
    Declares stream (first ++ second) (firstNames ++ secondNames) rest := by
  refine ⟨?_, ?_, fun distinct => after.distinct (before.distinct distinct)⟩
  · rw [before.upcoming, after.upcoming, List.append_assoc]
  · rw [after.rest_eq, before.rest_eq]
    simp

end Declares

end TokenStream

namespace Parser

-- Without any depth left, every one of the parsers fails.
attribute [simp] entries.eq_1 body.eq_1 component.eq_1 loop.eq_1

variable {converters : Converters} {depth : Nat} {collected : Body}
  {stream after : TokenStream}

theorem declareAlias_of_fresh {name : String} {position : Position}
    (fresh : name ∉ stream.aliases) :
    declareAlias name position stream = .ok ((), stream.declare [name]) := by
  simp [declareAlias, fresh, TokenStream.declare]

/-- An alias is declared if it has not been declared before. -/
theorem declareAlias_eq_ok {name : String} {position : Position} {result : Unit}
    (declared : declareAlias name position stream = .ok (result, after)) :
    name ∉ stream.aliases ∧ after = stream.declare [name] := by
  by_cases known : name ∈ stream.aliases
  · simp [declareAlias, known] at declared
  · rw [declareAlias_of_fresh known] at declared
    cases declared
    exact ⟨known, rfl⟩

theorem aliasSign?_missing (kind : stream.head.kind ≠ .aliasRef) :
    aliasSign? stream = .ok (none, stream) := by
  rw [aliasSign?]
  simp only [bind_apply, peek_apply, beq_iff_eq, kind, if_false, pure_apply]

/-- The sign of an alias is followed by a colon. -/
theorem aliasSign?_present (kind : stream.head.kind = .aliasRef) :
    aliasSign? stream =
      (expect .colon >>= fun _ =>
        declareAlias (withoutSign stream.head.value)
          stream.head.span.position >>= fun _ =>
          pure (some (withoutSign stream.head.value))) stream.tail := by
  rw [aliasSign?]
  simp only [bind_apply peek, bind_apply next, peek_apply, kind,
    beq_self_eq_true, if_true, next_apply]

section Entries

variable {key event : String} {binding : Binding} {expr : Expr} {span : Span}

/-- A property whose key is new is added to the body. -/
theorem addProperty_of_fresh
    (fresh : collected.properties.any (·.key == key) = false) :
    addProperty collected key binding expr span stream =
      .ok ({ collected with properties :=
        collected.properties ++ [⟨key, binding, expr, span⟩] }, stream) := by
  simp only [addProperty, fresh, Bool.false_eq_true, if_false, pure_apply]

/-- A property whose key the body has is refused. -/
theorem addProperty_of_taken {result : Body × TokenStream}
    (taken : collected.properties.any (·.key == key) = true) :
    addProperty collected key binding expr span stream ≠ .ok result := by
  simp only [addProperty, taken, if_true]
  exact fail_ne_ok

/-- A signal whose event is new is added to the body, with the text as its
handler. -/
theorem addSignal_of_fresh {handler : String}
    (isText : expr.literalText? = some handler)
    (fresh : collected.signals.any (·.event == event) = false) :
    addSignal collected event .once expr span stream =
      .ok ({ collected with signals :=
        collected.signals ++ [⟨event, handler, span⟩] }, stream) := by
  simp only [addSignal, isText, fresh, Bool.false_eq_true, if_false, pure_apply,
    show (Binding.once == Binding.live) = false from rfl]

/-- A signal is added only if its handler is a text, it is not live and not
bound yet. -/
theorem addSignal_eq_ok {result : Body × TokenStream}
    (added : addSignal collected event binding expr span stream = .ok result) :
    (∃ handler, expr.literalText? = some handler) ∧ binding = .once ∧
      collected.signals.any (·.event == event) = false := by
  rw [addSignal] at added
  cases isText : expr.literalText? with
  | none =>
      simp only [isText] at added
      exact absurd added fail_ne_ok
  | some handler =>
      simp only [isText] at added
      cases binding with
      | live =>
          simp only [beq_self_eq_true, if_true] at added
          exact absurd added fail_ne_ok
      | once =>
          cases taken : collected.signals.any (·.event == event) with
          | false => exact ⟨⟨handler, rfl⟩, rfl, rfl⟩
          | true =>
              simp only [taken, if_true,
                show (Binding.once == Binding.live) = false from rfl,
                Bool.false_eq_true, if_false] at added
              exact absurd added fail_ne_ok

end Entries

theorem body_closing (kind : stream.head.kind = .rightBrace) :
    body converters (depth + 1) collected stream = .ok (collected, stream) := by
  rw [body]
  simp only [bind_apply, peek_apply, kind, pure_apply]

/-- A component or an alias starts a child of the body. -/
theorem body_child
    (kind : stream.head.kind = .component ∨ stream.head.kind = .aliasRef) :
    body converters (depth + 1) collected stream =
      (component converters depth >>= fun child =>
        body converters depth
          { collected with children := collected.children ++ [child] })
        stream := by
  rw [body]
  rcases kind with kind | kind <;> simp only [bind_apply peek, peek_apply, kind]

/-- A name or a signal name starts a run of entries. -/
theorem body_entries
    (kind : stream.head.kind = .name ∨ stream.head.kind = .signalName) :
    body converters (depth + 1) collected stream =
      (entries converters depth collected >>= body converters depth)
        stream := by
  rw [body]
  rcases kind with kind | kind <;> simp only [bind_apply peek, peek_apply, kind]

theorem body_each (kind : stream.head.kind = .each) :
    body converters (depth + 1) collected stream =
      (loop converters depth >>= fun inner =>
        body converters depth
          { collected with loops := collected.loops ++ [inner] }) stream := by
  rw [body]
  simp only [bind_apply peek, peek_apply, kind]

/-- A token that starts an item of a body, or ends the body. -/
def StartsItem (kind : TokenKind) : Prop :=
  (kind = .component ∨ kind = .aliasRef) ∨ (kind = .name ∨ kind = .signalName) ∨
    kind = .each

/-- A body goes on only at its closing brace or where an item can start. -/
theorem body_startsItem {result : Body × TokenStream}
    (parsed : body converters (depth + 1) collected stream = .ok result) :
    stream.head.kind = .rightBrace ∨ StartsItem stream.head.kind := by
  rw [body] at parsed
  simp only [bind_apply peek, peek_apply] at parsed
  cases kind : stream.head.kind <;> simp only [kind] at parsed <;>
    first
    | exact absurd parsed unexpected_ne_ok
    | exact absurd parsed failHere_ne_ok
    | simp [StartsItem]

end Parser

end LiveMarkup
