import LiveMarkup.Document.Parser
import LiveMarkup.Proofs.Grammar.Expressions

/-!
# The grammar of documents

A document is a list of imports, at most one controller directive and a root
component.  The body of a component is a list of items in any order: single
components, groups of entries and loops.  The body of a loop holds components
and loops only.

A derivation relates tokens to the items they stand for, in source order, and
to the aliases declared among them.  The tree of a component is made from its
items at once, so that nothing of the order in which a parser collects them
enters the grammar.
-/

namespace LiveMarkup.Grammar

/-! ## Items -/

/-- One item of a body. -/
inductive Item where
  | property (property : Property)
  | signal (signal : Signal)
  | child (child : Component)
  | loop (loop : Loop)

namespace Item

def property? : Item → Option Property
  | .property found => some found
  | _ => none

def signal? : Item → Option Signal
  | .signal found => some found
  | _ => none

def child? : Item → Option Component
  | .child found => some found
  | _ => none

def loop? : Item → Option Loop
  | .loop found => some found
  | _ => none

/-- The component that a head, its alias and the items of its body make up. -/
def toComponent (head closing : Token) (aliasName : Option String)
    (items : List Item) : Component :=
  { name := head.value
    aliasName
    properties := items.filterMap property?
    signals := items.filterMap signal?
    children := items.filterMap child?
    loops := items.filterMap loop?
    span := head.span.through closing.span }

/-- The loop that its tokens and the items of its body make up. -/
def toLoop (keyword itemType index value closing : Token) (source : Expr)
    (items : List Item) : Loop :=
  { source
    itemType := itemType.value
    indexName := index.value
    valueName := value.value
    children := items.filterMap child?
    loops := items.filterMap loop?
    span := keyword.span.through closing.span }

/-- No two properties have one key, and no two signals one event. -/
structure Distinct (items : List Item) : Prop where
  keys : ((items.filterMap property?).map Property.key).Nodup
  events : ((items.filterMap signal?).map Signal.event).Nodup

end Item

/-! ## Entries -/

/-- The tokens of one entry. -/
inductive DerivesEntry : List Token → Item → Prop where
  | once {tokens : List Token} {value : Expr} (key sign : Token)
      (keyKind : key.kind = .name) (signKind : sign.kind = .colon)
      (derived : Derives 0 tokens value) :
      DerivesEntry (key :: sign :: tokens)
        (.property ⟨key.value, .once, value, key.span.through value.span⟩)
  | live {tokens : List Token} {value : Expr} (key sign : Token)
      (keyKind : key.kind = .name) (signKind : sign.kind = .bindAssign)
      (derived : Derives 0 tokens value) :
      DerivesEntry (key :: sign :: tokens)
        (.property ⟨key.value, .live, value, key.span.through value.span⟩)
  | signal {tokens : List Token} {handler : String} {span : Span} (key sign : Token)
      (keyKind : key.kind = .signalName) (signKind : sign.kind = .colon)
      (derived : Derives 0 tokens (.text handler span)) :
      DerivesEntry (key :: sign :: tokens)
        (.signal ⟨withoutSign key.value, handler, key.span.through span⟩)

/-- The tokens of entries between commas; a comma may also end them. -/
inductive DerivesKeyValues : List Token → List Item → Prop where
  | last {tokens : List Token} {item : Item} (derived : DerivesEntry tokens item) :
      DerivesKeyValues tokens [item]
  | trailing {tokens : List Token} {item : Item} (comma : Token)
      (commaKind : comma.kind = .comma) (derived : DerivesEntry tokens item) :
      DerivesKeyValues (tokens ++ [comma]) [item]
  | cons {tokens otherTokens : List Token} {item : Item} {others : List Item}
      (comma : Token) (commaKind : comma.kind = .comma)
      (derived : DerivesEntry tokens item)
      (othersDerived : DerivesKeyValues otherTokens others) :
      DerivesKeyValues (tokens ++ comma :: otherTokens) (item :: others)

/-! ## Components and loops -/

/-- Whose body it is. -/
inductive Scope where
  | component
  | loop

mutual

/-- The tokens of a component, with the aliases declared in it. -/
inductive DerivesComponent : List Token → List String → Component → Prop where
  | plain {tokens : List Token} {aliases : List String} {items : List Item}
      (head opening closing : Token)
      (headKind : head.kind = .component) (openingKind : opening.kind = .leftBrace)
      (closingKind : closing.kind = .rightBrace)
      (derived : DerivesItems .component tokens aliases items)
      (distinct : Item.Distinct items) :
      DerivesComponent (head :: opening :: tokens ++ [closing]) aliases
        (Item.toComponent head closing none items)
  | aliased {tokens : List Token} {aliases : List String} {items : List Item}
      (sign colon head opening closing : Token)
      (signKind : sign.kind = .aliasRef) (colonKind : colon.kind = .colon)
      (headKind : head.kind = .component) (openingKind : opening.kind = .leftBrace)
      (closingKind : closing.kind = .rightBrace)
      (derived : DerivesItems .component tokens aliases items)
      (distinct : Item.Distinct items) :
      DerivesComponent (sign :: colon :: head :: opening :: tokens ++ [closing])
        (withoutSign sign.value :: aliases)
        (Item.toComponent head closing (some (withoutSign sign.value)) items)

/-- The tokens of a body, with the aliases declared in it. -/
inductive DerivesItems : Scope → List Token → List String → List Item → Prop where
  | nil {scope : Scope} : DerivesItems scope [] [] []
  | component {scope : Scope} {tokens otherTokens : List Token}
      {aliases otherAliases : List String} {child : Component} {others : List Item}
      (derived : DerivesComponent tokens aliases child)
      (othersDerived : DerivesItems scope otherTokens otherAliases others) :
      DerivesItems scope (tokens ++ otherTokens) (aliases ++ otherAliases)
        (.child child :: others)
  | keyValues {tokens otherTokens : List Token} {aliases : List String}
      {items others : List Item}
      (derived : DerivesKeyValues tokens items)
      (othersDerived : DerivesItems .component otherTokens aliases others) :
      DerivesItems .component (tokens ++ otherTokens) aliases (items ++ others)
  | each {scope : Scope} {tokens otherTokens : List Token}
      {aliases otherAliases : List String} {loop : Loop} {others : List Item}
      (derived : DerivesLoop tokens aliases loop)
      (othersDerived : DerivesItems scope otherTokens otherAliases others) :
      DerivesItems scope (tokens ++ otherTokens) (aliases ++ otherAliases)
        (.loop loop :: others)

/-- The tokens of a loop, with the aliases declared in it. -/
inductive DerivesLoop : List Token → List String → Loop → Prop where
  | each {sourceTokens tokens : List Token} {aliases : List String}
      {source : Expr} {items : List Item}
      (keyword usingWord itemType opening firstPipe index comma value secondPipe
        closing : Token) (keywordKind : keyword.kind = .each)
      (sourceDerived : Derives 0 sourceTokens source)
      (usingKind : usingWord.kind = .using)
      (itemTypeKind : itemType.kind = .component)
      (openingKind : opening.kind = .leftBrace)
      (firstPipeKind : firstPipe.kind = .pipe) (indexKind : index.kind = .name)
      (commaKind : comma.kind = .comma) (valueKind : value.kind = .name)
      (secondPipeKind : secondPipe.kind = .pipe)
      (closingKind : closing.kind = .rightBrace)
      (derived : DerivesItems .loop tokens aliases items) :
      DerivesLoop (keyword :: sourceTokens ++ usingWord :: itemType ::
        opening :: firstPipe :: index :: comma :: value :: secondPipe ::
        tokens ++ [closing]) aliases
        (Item.toLoop keyword itemType index value closing source items)

end

/-! ## Documents -/

/-- The tokens of imports. -/
inductive DerivesImports : List Token → List Import → Prop where
  | nil : DerivesImports [] []
  | cons {tokens : List Token} {others : List Import} (keyword name : Token)
      (keywordKind : keyword.kind = .importModule ∨ keyword.kind = .importTop)
      (nameKind : name.kind = .text)
      (othersDerived : DerivesImports tokens others) :
      DerivesImports (keyword :: name :: tokens)
        (⟨name.value, keyword.kind == .importTop, keyword.span⟩ :: others)

/-- The tokens of a controller directive, which may be missing. -/
inductive DerivesController : List Token → Option String → Prop where
  | missing : DerivesController [] none
  | directive (keyword name : Token) (keywordKind : keyword.kind = .using)
      (nameKind : name.kind = .text) :
      DerivesController [keyword, name] (some name.value)

/-- The tokens of a document. -/
inductive DerivesDocument : List Token → Document → Prop where
  | document {importTokens controllerTokens rootTokens : List Token}
      {imports : List Import} {controller : Option String}
      {aliases : List String} {root : Component}
      (importsDerived : DerivesImports importTokens imports)
      (importsDistinct : (imports.map Import.moduleName).Nodup)
      (controllerDerived : DerivesController controllerTokens controller)
      (rootDerived : DerivesComponent rootTokens aliases root)
      (aliasesDistinct : aliases.Nodup) :
      DerivesDocument (importTokens ++ controllerTokens ++ rootTokens)
        { imports, aliases, controller, root }

end LiveMarkup.Grammar
