import LiveMarkup.Proofs.Lexing.Cuts

/-!
# How tokens are spelled

What the tokens of a text tell about their values: integers are digits, and
names are words whose spelling gives their kind.  The kind of a capitalised name
depends on the character before it; that character is a dot only behind a dot
token, because no other lexeme that a name can follow ends in one.
-/

namespace LiveMarkup

/-- The kinds of names that stand in expressions. -/
def nameKinds : List TokenKind := [.name, .component, .globalRef, .aliasRef]

/-- The spelling of a token behind a token of some kind. -/
structure Spelling (previous : Option TokenKind) (piece : TokenKind × String) :
    Prop where
  word : piece.1 ∈ nameKinds → IsWord piece.2.toList
  kind : piece.1 ∈ nameKinds →
      ∃ before,
        kindOfName piece.2.toList before = piece.1 ∧
        (before = some '.' → previous = some .dot)
  digits : piece.1 = .integer → IsDigits piece.2.toList

/-- A relation between the kind of the token before and a token holds all along
a token list. -/
def Chained (relation : Option TokenKind → TokenKind × String → Prop)
    (previous : Option TokenKind) : List (TokenKind × String) → Prop
  | [] => True
  | piece :: others =>
    relation previous piece ∧ Chained relation (some piece.1) others

/-- All tokens are spelled, the first behind a token of some kind. -/
abbrev Spelled : Option TokenKind → List (TokenKind × String) → Prop :=
  Chained Spelling

/-- The kind of the last token of a list, or a given one. -/
def lastKind (previous : Option TokenKind)
    (pieces : List (TokenKind × String)) : Option TokenKind :=
  pieces.foldl (fun _ piece => some piece.1) previous

@[simp]
theorem lastKind_nil (previous : Option TokenKind) :
    lastKind previous [] = previous :=
  rfl

@[simp]
theorem lastKind_cons (previous : Option TokenKind) (piece : TokenKind × String)
    (others : List (TokenKind × String)) :
    lastKind previous (piece :: others) = lastKind (some piece.1) others := rfl

variable {relation : Option TokenKind → TokenKind × String → Prop}
  {previous : Option TokenKind}

@[simp]
theorem chained_nil : Chained relation previous [] := trivial

@[simp]
theorem chained_cons {piece : TokenKind × String}
    {others : List (TokenKind × String)} :
    Chained relation previous (piece :: others) ↔
      relation previous piece ∧ Chained relation (some piece.1) others :=
  Iff.rfl

@[simp]
theorem chained_append {first second : List (TokenKind × String)} :
    Chained relation previous (first ++ second) ↔
      Chained relation previous first ∧
      Chained relation (lastKind previous first) second := by
  induction first generalizing previous with
  | nil => simp
  | cons piece first hypothesis =>
    rw [List.cons_append, chained_cons, hypothesis, chained_cons, and_assoc,
      lastKind_cons]

/-! ## What is cut off -/

variable {chars consumed remaining text : List Char} {label : RuleLabel}

/-- What is cut off first was cut off by one of the rules. -/
theorem rule_of_cutFirst
    (cut : cutFirst markupRules chars = some (label, text, remaining)) :
    ∃ rule ∈ markupRules,
      rule.label = label ∧ rule.shape.cut? chars = some (text, remaining) := by
  rw [cutFirst_markupRules] at cut
  obtain ⟨rule, member, found⟩ := List.exists_of_findSome?_eq_some cut
  obtain ⟨taken, cuts, same⟩ := Option.map_eq_some_iff.mp found
  cases same
  exact ⟨rule, member, rfl, cuts⟩

/-- Every literal word is cut off by a keyword rule that stands before the
names. -/
theorem keyword_of_mem : ∀ {word : List Char}, word ∈ literalWords →
    ∃ rule ∈ rulesBeforeNames, rule.shape = .keyword word := by
  have each : ∀ word ∈ literalWords, ∃ rule ∈ rulesBeforeNames,
      rule.shape = .keyword word := by
    decide
  exact fun {word} => each word

/-- A word is taken where it does not go on. -/
theorem cut?_keyword (stops : remaining.head?.any Text.isWordChar = false) :
    Matcher.cut? (.keyword text) (text ++ remaining) = some (text, remaining) := by
  have isPrefix : text.isPrefixOf (text ++ remaining) = true :=
    List.isPrefixOf_iff_prefix.mpr (List.prefix_append ..)
  rw [Matcher.cut?, isPrefix, List.drop_left, stops]
  rfl

/-- A name is a word. -/
theorem isWord_of_cutFirst
    (cut : cutFirst markupRules chars = some (.byName, text, remaining)) :
    IsWord text ∧ chars.head? = text.head? := by
  have notNames : ∀ rule ∈ rulesBeforeNames, rule.label ≠ .byName := by decide
  rw [cutFirst_markupRules, markupRules_eq, List.findSome?_append] at cut
  cases before : rulesBeforeNames.findSome? fun rule =>
      (rule.shape.cut? chars).map fun taken => (rule.label, taken) with
  | some found =>
    rw [before] at cut
    cases cut
    obtain ⟨rule, member, found⟩ := List.exists_of_findSome?_eq_some before
    obtain ⟨taken, -, same⟩ := Option.map_eq_some_iff.mp found
    exact absurd (congrArg Prod.fst same) (notNames rule member)
  | none =>
    rw [before, Option.none_or, List.findSome?_singleton] at cut
    obtain ⟨taken, cuts, same⟩ := Option.map_eq_some_iff.mp cut
    cases same
    cases chars with
    | nil => cases cuts
    | cons char chars =>
      simp only [Matcher.cut?, Option.ite_none_right_eq_some, Option.some.injEq,
        Prod.mk.injEq] at cuts
      obtain ⟨begins, rfl, rfl⟩ := cuts
      refine ⟨⟨by simpa using begins, ?_, ?_⟩, rfl⟩
      · exact List.all_takeWhile
      · intro reserved
        obtain ⟨rule, member, shape⟩ := keyword_of_mem reserved
        have none := (List.findSome?_eq_none_iff.mp before) rule member
        rw [shape, Option.map_eq_none_iff] at none
        have taken : char :: chars = (char :: chars.takeWhile Text.isWordChar) ++
            chars.dropWhile Text.isWordChar := by
          rw [List.cons_append, List.takeWhile_append_dropWhile]
        rw [taken, cut?_keyword (head?_dropWhile _ _)] at none
        cases none

/-- An integer is a row of digits. -/
theorem isDigits_of_cutFirst
    (cut :
      cutFirst markupRules (consumed ++ remaining) =
        some (.fixed .integer, text, remaining)) : IsDigits text := by
  have shapes : ∀ rule ∈ markupRules,
      rule.label = .fixed .integer → rule.shape = .number false := by
    decide
  obtain ⟨rule, member, isInteger, cuts⟩ := rule_of_cutFirst cut
  obtain ⟨rfl, digits, -⟩ :=
    Matcher.takes_of_cut? (shapes rule member isInteger ▸ cuts)
  exact digits

/-! ## Last characters -/

/-- The text that a shape takes, if it takes only one. -/
def Matcher.fixedText? : Matcher → Option (List Char)
  | .literal text => some text
  | .keyword word => some word
  | _ => none

/-- Of the rules for one text or one of a set of characters, only the one for
dots takes a dot. -/
theorem markupRules_dot :
    ∀ rule ∈ markupRules,
      ('.' ∈ rule.shape.firsts ∨
       rule.shape.fixedText?.bind List.getLast? = some '.') →
      rule.label = .fixed .dot := by
  decide

theorem getLast?_ne_dot {accepts : Char → Bool} (all : text.all accepts = true)
    (other : accepts '.' = false) : text.getLast? ≠ some '.' := by
  intro last
  have accepted := List.all_eq_true.mp all '.' (List.mem_of_getLast? last)
  rw [other] at accepted
  cases accepted

/-- A lexeme that ends in a dot is a dot, or a comment to the end of its line. -/
theorem dot_of_cutFirst
    (cut :
      cutFirst markupRules (consumed ++ remaining) =
        some (label, text, remaining)) (dotted : consumed.getLast? = some '.') :
    label = .fixed .dot ∨ remaining.head?.all (· == '\n') = true := by
  obtain ⟨rule, member, rfl, cuts⟩ := rule_of_cutFirst cut
  have dots := markupRules_dot rule member
  have takes := Matcher.takes_of_cut? cuts
  cases shape : rule.shape with
  | oneOf set =>
    rw [shape] at takes dots
    obtain ⟨char, isMember, rfl, -⟩ := takes
    cases dotted
    exact .inl (dots (.inl isMember))
  | literal mark =>
    rw [shape] at takes dots
    obtain ⟨rfl, -⟩ := takes
    exact .inl (dots (.inr dotted))
  | keyword word =>
    rw [shape] at takes dots
    obtain ⟨rfl, -⟩ := takes
    exact .inl (dots (.inr dotted))
  | comment first opening =>
    rw [shape] at takes
    exact .inr takes.2.2
  | quotedText =>
    rw [shape] at takes
    obtain ⟨quote, isQuote, rfl, -⟩ := takes
    rw [List.getLast?_append, List.getLast?_singleton, Option.some_or] at dotted
    cases dotted
    exact absurd isQuote (by decide)
  | number fraction =>
    rw [shape] at takes
    cases fraction with
    | false =>
      obtain ⟨-, digits, -⟩ := takes
      exact absurd dotted (getLast?_ne_dot digits.all rfl)
    | true =>
      obtain ⟨-, ⟨whole, fraction, rfl, -, digits⟩, -⟩ := takes
      rw [List.getLast?_append, List.getLast?_cons,
        List.getLast?_eq_some_getLast digits.some] at dotted
      exact absurd (List.getLast?_eq_some_getLast digits.some ▸ dotted)
        (getLast?_ne_dot digits.all rfl)
  | identifier =>
    rw [shape] at takes
    obtain ⟨-, ⟨first, others, rfl, begins, continues⟩, -⟩ := takes
    rcases List.mem_cons.mp (List.mem_of_getLast? dotted) with rfl | inside
    · exact absurd begins (by decide)
    · exact absurd (List.all_eq_true.mp continues '.' inside) (by decide)

/-! ## Spelling -/

theorem kindOfName_ne_integer (text : List Char) (before : Option Char) :
    kindOfName text before ≠ .integer := by
  unfold kindOfName
  repeat' split
  all_goals exact nofun

/-- The text that is cut off is spelled as its kind asks. -/
theorem spelling_of_cutFirst {before : Option Char}
    {previous : Option TokenKind} {kind : TokenKind}
    (cut :
      cutFirst markupRules (consumed ++ remaining) =
        some (label, text, remaining))
    (kept : label.kind? text before = some kind)
    (dotted :
      before = some '.' →
        previous = some .dot ∨
        (consumed ++ remaining).head?.all (· == '\n') = true) :
    Spelling previous (kind, String.ofList text) := by
  have fixed :
      ∀ rule ∈ markupRules, ∀ kind ∈ nameKinds, rule.label ≠ .fixed kind := by
    decide
  cases label with
  | skip => cases kept
  | fixed other =>
    cases kept
    have notName : kind ∉ nameKinds := by
      intro isName
      obtain ⟨rule, member, same, -⟩ := rule_of_cutFirst cut
      exact fixed rule member kind isName same
    refine ⟨fun isName => absurd isName notName,
      fun isName => absurd isName notName, ?_⟩
    rintro rfl
    rw [String.toList_ofList]
    exact isDigits_of_cutFirst cut
  | byName =>
    cases kept
    obtain ⟨word, sameHead⟩ := isWord_of_cutFirst cut
    rw [← @String.toList_ofList text] at word
    refine ⟨fun _ => word,
      fun _ => ⟨before, by rw [String.toList_ofList], fun dot => ?_⟩,
      fun integer => absurd integer (kindOfName_ne_integer text before)⟩
    rcases dotted dot with isDot | line
    · exact isDot
    · obtain ⟨first, others, same, begins, -⟩ := word.parts
      rw [String.toList_ofList] at same
      rw [sameHead, same] at line
      cases eq_of_beq (show (first == '\n') = true from line)
      exact absurd begins (by decide)

/-- The tokens that a text lexes to are spelled. -/
theorem Lexes.spelled {before : Option Char} {previous : Option TokenKind}
    {pieces : List (TokenKind × String)}
    (lexes : Lexes markupRules before chars pieces)
    (dotted :
      before = some '.' →
      previous = some .dot ∨ chars.head?.all (· == '\n') = true) :
    Spelled previous pieces := by
  induction lexes generalizing previous with
  | done => trivial
  | skip cut taken moves dropped others hypothesis =>
    refine hypothesis fun ends => ?_
    subst taken
    rcases dot_of_cutFirst cut ends with rfl | stops
    · cases dropped
    · exact .inr stops
  | token kind cut taken moves kept others hypothesis =>
    subst taken
    refine ⟨spelling_of_cutFirst cut kept dotted, hypothesis fun ends => ?_⟩
    rcases dot_of_cutFirst cut ends with rfl | stops
    · cases kept
      exact .inl rfl
    · exact .inr stops

/-- The tokens of a source text are spelled. -/
theorem spelled_of_tokenize {source : String} {tokens : List Token}
    (lexed : tokenize markupRules source = .ok tokens) :
    ∃ pieces,
      tokens.map Token.piece = pieces ++ [(.endOfInput, "")] ∧
      Spelled none pieces := by
  obtain ⟨pieces, lexes, same⟩ := lexes_of_tokenize lexed
  exact ⟨pieces, same, lexes.spelled nofun⟩

end LiveMarkup
