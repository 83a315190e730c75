import LiveMarkup.Proofs.Printing.Spelling

/-!
# Texts that lex to given tokens

How the texts of a printed expression lex, one behind the other.  A text is
joined to what stands behind it by saying how that lexes, wherever it stands,
and with which character it may begin.
-/

namespace LiveMarkup

/-! ## What may stand behind a text -/

/-- Some characters that lex to the same tokens wherever they stand, and do not
continue a word. -/
structure Ends (tail : List Char) (pieces : List (TokenKind × String)) : Prop where
  stops : tail.head?.any Text.isWordChar = false
  lexes : ∀ before, Lexes markupRules before tail pieces

/-- Some characters behind an operand: they do not continue a reference or a
number either. -/
structure Goes (tail : List Char) (pieces : List (TokenKind × String)) :
    Prop extends Ends tail pieces where
  undotted : tail.head? ≠ some '.'

variable {before : Option Char} {text tail : List Char}
  {pieces others : List (TokenKind × String)}
  {kind : TokenKind}

/-- A lexeme whose kind does not depend on its surroundings. -/
theorem lexes_fixed
    (cut : cutFirst markupRules (text ++ tail) = some (.fixed kind, text, tail))
    (some : text ≠ []) (lexes : Lexes markupRules text.getLast? tail others) :
    Lexes markupRules before (text ++ tail)
      ((kind, String.ofList text) :: others) :=
  .token kind cut rfl some rfl lexes

/-- A single mark is cut off as its own token. -/
theorem lexes_mark {mark : Char × TokenKind} (member : mark ∈ singleMarks)
    (lexes : Lexes markupRules (some mark.1) tail others) :
    Lexes markupRules before (mark.1 :: tail)
      ((mark.2, String.ofList [mark.1]) :: others) :=
  @lexes_fixed before [mark.1] tail others mark.2 (cutFirst_mark member tail)
    (List.cons_ne_nil _ _) lexes

theorem goes_nil : Goes [] [] where
  stops := rfl
  lexes before := .done before
  undotted := nofun

/-- A blank is passed over. -/
theorem goes_blank (lexes : Lexes markupRules (some ' ') tail others) :
    Goes (' ' :: tail) others where
  stops := rfl
  lexes before := by
    have taken : ' ' :: tail = [' '] ++ tail := rfl
    exact .skip (cutFirst_blank tail) taken (List.cons_ne_nil _ _) rfl lexes
  undotted := nofun

theorem goes_closing (goes : Goes tail others) :
    Goes (')' :: tail) ((.rightParen, ")") :: others) where
  stops := rfl
  lexes before :=
    @lexes_mark before tail others (')', .rightParen) (by decide) (goes.lexes _)
  undotted := nofun

theorem goes_comma (lexes : Lexes markupRules (some ' ') tail others) :
    Goes (',' :: ' ' :: tail) ((.comma, ",") :: others) where
  stops := rfl
  lexes before :=
    @lexes_mark before (' ' :: tail) others (',', .comma) (by decide)
      ((goes_blank lexes).lexes _)
  undotted := nofun

/-! ## Names -/

/-- A word becomes a token of the kind that its spelling gives it. -/
theorem lexes_word (word : IsWord text)
    (spelled : kindOfName text before = kind) (ends : Ends tail others) :
    Lexes markupRules before (text ++ tail)
      ((kind, String.ofList text) :: others) := by
  obtain ⟨first, rest, same, -⟩ := word.parts
  exact .token kind (cutFirst_name word ends.stops) rfl
    (by rw [same]; exact List.cons_ne_nil _ _)
    (congrArg some spelled) (ends.lexes _)

/-- Behind characters other than a dot, a name has one kind. -/
theorem kindOfName_congr {other : Option Char} (here : before ≠ some '.')
    (there : other ≠ some '.') :
    kindOfName text before = kindOfName text other := by
  have same : (before == some '.') = (other == some '.') := by
    rw [beq_false_of_ne here, beq_false_of_ne there]
  unfold kindOfName
  rw [same]

/-- The kind of a name that is none of the keywords, by its first character. -/
def kindOfFirst (text : List Char) (before : Option Char) : TokenKind :=
  match text with
  | first :: _ :: _ =>
    if first == '$' then .globalRef
    else if first == '@' then .aliasRef
    else if first == '#' then .signalName
    else if Text.isCapital first then
      if before == some '.' then .name else .component
    else .name
  | _ => .name

/-- The keywords, with their kinds. -/
def keywordKinds : List (List Char × TokenKind) :=
  [(['e', 'a', 'c', 'h'], .each), (['u', 's', 'i', 'n', 'g'], .using),
    (['i', 'm', 'p', 'o', 'r', 't'], .importModule),
    (['i', 'm', 'p', 'o', 'r', 't', '_', 't', 'o', 'p'], .importTop),
    (['r', 'e', 's', 'o', 'u', 'r', 'c', 'e'], .resource),
    (['v', 'e', 'c', '2'], .vec2)]

/-- A keyword has its own kind, wherever it stands. -/
theorem kindOfName_keyword {keyword : List Char × TokenKind}
    (member : keyword ∈ keywordKinds) :
    keyword.2 ∉ nameKinds ∧
    ∀ before, kindOfName keyword.1 before = keyword.2 := by
  simp only [keywordKinds, List.mem_cons, List.not_mem_nil, or_false] at member
  rcases member with rfl | rfl | rfl | rfl | rfl | rfl <;>
    exact ⟨by decide, fun _ => rfl⟩

theorem kindOfName_plain (plain : text ∉ keywordKinds.map Prod.fst)
    (before : Option Char) :
    kindOfName text before = kindOfFirst text before := by
  simp only [keywordKinds, List.map_cons, List.map_nil, List.mem_cons,
    List.not_mem_nil, or_false, not_or] at plain
  obtain ⟨notEach, notUsing, notImport, notImportTop, notResource, notVec2⟩ := plain
  unfold kindOfName
  rw [if_neg notEach, if_neg notUsing, if_neg notImport, if_neg notImportTop,
    if_neg notResource, if_neg notVec2]
  rfl

theorem kindOfName_eq (spelled : kindOfName text before = kind)
    (named : kind ∈ nameKinds) :
    ∀ other, kindOfName text other = kindOfFirst text other := by
  apply kindOfName_plain
  intro reserved
  obtain ⟨keyword, member, rfl⟩ := List.mem_map.mp reserved
  obtain ⟨outside, same⟩ := kindOfName_keyword member
  rw [← spelled, same] at named
  exact outside named

/-- What is a plain name is one behind a dot. -/
theorem kindOfName_dot (spelled : kindOfName text before = .name) :
    kindOfName text (some '.') = .name := by
  have same := kindOfName_eq spelled (by decide)
  rw [same] at spelled ⊢
  unfold kindOfFirst at spelled ⊢
  split at spelled
  · split at spelled
    · cases spelled
    · split at spelled
      · cases spelled
      · split at spelled
        · cases spelled
        · simp_all
  · rfl

/-- A reference to an alias begins with its sign. -/
theorem eq_sign_of_aliasRef (spelled : kindOfName text before = .aliasRef) :
    text = '@' :: text.drop 1 := by
  have same := kindOfName_eq spelled (by decide)
  rw [same] at spelled
  unfold kindOfFirst at spelled
  split at spelled
  · split at spelled
    · cases spelled
    · split at spelled
      · next sign => rw [eq_of_beq sign]; rfl
      · split at spelled
        · cases spelled
        · split at spelled
          · split at spelled <;> cases spelled
          · cases spelled
  · cases spelled

/-! ## Literal words -/

/-- The literal words that are printed, with their kinds. -/
def printedLiterals : List (List Char × TokenKind) :=
  [("null".toList, .null), ("false".toList, .boolean), ("true".toList, .boolean)]

/-- A printed literal is cut off whole where no word character follows it. -/
theorem cutFirst_literal {literal : List Char × TokenKind}
    (member : literal ∈ printedLiterals)
    (stops : tail.head?.any Text.isWordChar = false) :
    cutFirst markupRules (literal.1 ++ tail) =
      some (.fixed literal.2, literal.1, tail) := by
  have place : ∃ count, markupRules = markupRules.take count ++
      ⟨.fixed literal.2, .keyword literal.1⟩ :: markupRules.drop (count + 1) ∧
        (markupRules.take count).findSome? (fun rule =>
          (rule.shape.cut? (literal.1 ++ tail)).map fun taken =>
            (rule.label, taken)) = none := by
    simp only [printedLiterals, List.mem_cons, List.not_mem_nil, or_false] at member
    rcases member with rfl | rfl | rfl
    · exact ⟨6, rfl, rfl⟩
    · exact ⟨8, rfl, rfl⟩
    · exact ⟨9, rfl, rfl⟩
  obtain ⟨count, rules, before⟩ := place
  rw [cutFirst_markupRules, rules, List.findSome?_append, before,
    List.findSome?_cons, cut?_keyword stops]
  rfl

/-- A name before an opening parenthesis. -/
theorem lexes_call (word : IsWord text) (spelled : kindOfName text before = kind)
    (lexes : Lexes markupRules (some '(') tail others) :
    Lexes markupRules before (text ++ '(' :: tail)
      ((kind, String.ofList text) :: (.leftParen, "(") :: others) := by
  have member : ('(', TokenKind.leftParen) ∈ singleMarks := by decide
  exact lexes_word word spelled ⟨rfl, fun _ => lexes_mark member lexes⟩

end LiveMarkup
