import LiveMarkup.Expr.Parser

/-!
# Parsing documents

A document is a list of imports, an optional controller directive and one root
component.  The body of a component mixes properties, signals, components and
loops in any order; the body of a loop holds components and loops only.
-/

namespace LiveMarkup

/-- What the body of a component or a loop holds. -/
structure Body where
  properties : List Property := []
  signals : List Signal := []
  children : List Component := []
  loops : List Loop := []

namespace Parser

/-- Add a signal entry, whose handler must be a string literal, to a body. -/
def addSignal (body : Body) (event : String) (binding : Binding)
    (value : Expr) (span : Span) : Parser Body :=
  match value.literalText? with
  | none => fail (.handlerNotText event) value.span.position
  | some handler =>
    if binding == .live then fail (.liveSignal event) span.position
    else if body.signals.any (·.event == event) then
      fail (.duplicateSignal event) span.position
    else pure { body with signals := body.signals ++ [⟨event, handler, span⟩] }

/-- Add a property entry to a body. -/
def addProperty (body : Body) (key : String) (binding : Binding)
    (value : Expr) (span : Span) : Parser Body :=
  if body.properties.any (·.key == key) then
    fail (.duplicateProperty key) span.position
  else
    pure { body with properties :=
      body.properties ++ [⟨key, binding, value, span⟩] }

/-- Read the sign between a key and its value. -/
def bindingSign : Parser Binding := do
  match (← peek).kind with
  | .colon =>
    let _ ← next
    pure .once
  | .bindAssign =>
    let _ ← next
    pure .live
  | _ => unexpected "':' or ':='"

/-- Read one key with its value. -/
def entry (converters : Converters) (depth : Nat) (body : Body) : Parser Body := do
  let token ← next
  let binding ← bindingSign
  let value ← value converters depth
  let span := token.span.through value.span
  if token.kind == .signalName then
    addSignal body (converters.key (withoutSign token.value)) binding value span
  else
    addProperty body (converters.key token.value) binding value span

/-- Read the alias before a component, if there is one. -/
def aliasSign? : Parser (Option String) := do
  if (← peek).kind == .aliasRef then
    let token ← next
    let _ ← expect .colon
    let name := withoutSign token.value
    declareAlias name token.span.position
    pure (some name)
  else pure none

mutual

/-- Read entries separated by commas; a comma may also end the list. -/
def entries (converters : Converters) : Nat → Body → Parser Body
  | 0, _ => failHere fun _ => .nestedTooDeep
  | depth + 1, body => do
    let body ← entry converters depth body
    if (← peek).kind == .comma then
      let _ ← next
      let kind := (← peek).kind
      if kind == .name || kind == .signalName then entries converters depth body
      else pure body
    else pure body

/-- Read a body up to its closing brace. -/
def body (converters : Converters) : Nat → Body → Parser Body
  | 0, _ => failHere fun _ => .nestedTooDeep
  | depth + 1, collected => do
    match (← peek).kind with
    | .rightBrace => pure collected
    | .endOfInput => failHere fun _ => .unclosedBlock
    | .component | .aliasRef =>
      let child ← component converters depth
      body converters depth
        { collected with children := collected.children ++ [child] }
    | .name | .signalName =>
      let collected ← entries converters depth collected
      body converters depth collected
    | .each =>
      let inner ← loop converters depth
      body converters depth { collected with loops := collected.loops ++ [inner] }
    | _ => unexpected "a property, signal, component or 'each' block"

/-- Read a component. -/
def component (converters : Converters) : Nat → Parser Component
  | 0 => failHere fun _ => .nestedTooDeep
  | depth + 1 => do
    let aliasName ← aliasSign?
    let head ← expect .component
    let _ ← expect .leftBrace
    let content ← body converters depth {}
    let closing ← expect .rightBrace
    pure (converters.component
      { name := head.value
        aliasName
        properties := content.properties
        signals := content.signals
        children := content.children
        loops := content.loops
        span := head.span.through closing.span })

/-- Read a loop. -/
def loop (converters : Converters) : Nat → Parser Loop
  | 0 => failHere fun _ => .nestedTooDeep
  | depth + 1 => do
    let keyword ← next
    let source ← expression converters depth
    let _ ← expect .using
    let itemType ← expect .component
    let _ ← expect .leftBrace
    let _ ← expect .pipe
    let indexName ← expect .name
    let _ ← expect .comma
    let valueName ← expect .name
    let _ ← expect .pipe
    let content ← body converters depth {}
    let closing ← expect .rightBrace
    match content.properties, content.signals with
    | property :: _, _ => fail (.propertyInLoop property.key) property.span.position
    | [], signal :: _ => fail (.signalInLoop signal.event) signal.span.position
    | [], [] =>
      pure
        { source
          itemType := itemType.value
          indexName := indexName.value
          valueName := valueName.value
          children := content.children
          loops := content.loops
          span := keyword.span.through closing.span }

end

/-- Read imports, which have different module names, at most `bound` of them. -/
def imports : Nat → List Import → Parser (List Import)
  | 0, collected => pure collected
  | bound + 1, collected => do
    let kind := (← peek).kind
    if kind == .importModule || kind == .importTop then
      let keyword ← next
      let name ← expect .text
      if collected.any (·.moduleName == name.value) then
        fail (.duplicateImport name.value) name.span.position
      else
        imports bound (collected ++
          [⟨name.value, kind == .importTop, keyword.span⟩])
    else pure collected

/-- Read the controller directive, if there is one. -/
def controllerDirective? : Parser (Option String) := do
  if (← peek).kind == .using then
    let _ ← next
    let name ← expect .text
    pure (some name.value)
  else pure none

/-- Read a document. -/
def document (converters : Converters) (depth : Nat) : Parser Document := do
  let imports ← imports depth []
  let controller ← controllerDirective?
  if (← peek).kind == .endOfInput then failHere fun _ => .missingRoot
  else
    let root ← component converters depth
    if (← peek).kind == .endOfInput then
      pure { imports, aliases := (← get).aliases, controller, root }
    else unexpected "end of input after the root component"

end Parser

/-- Read a source text that is a document. -/
def Document.read (converters : Converters) (source : String) :
    Except ParseError Document :=
  (Parser.run converters source (Parser.document converters)).map Prod.fst

end LiveMarkup
