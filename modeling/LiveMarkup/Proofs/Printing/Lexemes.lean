import Mathlib.Tactic.IntervalCases
import LiveMarkup.Expr.Parser
import LiveMarkup.Expr.Printer
import LiveMarkup.Proofs.Printing.Lexing

/-!
# The lexemes of the markup language

What the rules of the markup language cut off the beginning of a text: marks,
operators, names, numbers and quoted texts, each with what may stand behind it.
-/

namespace LiveMarkup

/-! ## First characters -/

/-- The decimal digits. -/
def digitChars : List Char := ['0', '1', '2', '3', '4', '5', '6', '7', '8', '9']

theorem mem_digitChars {char : Char} (digit : Text.isDigit char = true) :
    char ∈ digitChars := by
  simp only [Text.isDigit, Bool.and_eq_true, decide_eq_true_eq] at digit
  have lower : 48 ≤ char.toNat := digit.1
  have upper : char.toNat ≤ 57 := digit.2
  rw [← Char.ofNat_toNat char]
  generalize char.toNat = code at lower upper
  interval_cases code <;> decide

/-- The characters that a shape other than the one of names can begin with. -/
def Matcher.firsts : Matcher → List Char
  | .oneOf set => set
  | .literal text => text.take 1
  | .keyword word => word.take 1
  | .comment first _ => [first]
  | .quotedText => ['"', '\'']
  | .number _ => digitChars
  | .identifier => []

/-- A matcher of more than an empty text. -/
def Matcher.Substantial (shape : Matcher) : Prop :=
  shape ≠ .literal [] ∧ shape ≠ .keyword []

instance (shape : Matcher) : Decidable shape.Substantial :=
  inferInstanceAs (Decidable (_ ∧ _))

theorem head_of_isPrefixOf {text rest : List Char} {char : Char}
    (substantial : text ≠ [])
    (isPrefix : text.isPrefixOf (char :: rest) = true) :
    char ∈ text.take 1 := by
  cases text with
  | nil => exact absurd rfl substantial
  | cons first text =>
    simp only [List.isPrefixOf, Bool.and_eq_true, beq_iff_eq] at isPrefix
    rw [← isPrefix.1]
    exact List.mem_cons_self ..

/-- A shape begins only with its first characters. -/
theorem Matcher.cut?_of_not_mem_firsts {shape : Matcher} {char : Char}
    (substantial : shape.Substantial) (plain : shape ≠ .identifier)
    (other : char ∉ shape.firsts) (rest : List Char) :
    shape.cut? (char :: rest) = none := by
  cases shape with
  | oneOf set => exact if_neg (by simpa [Matcher.firsts] using other)
  | literal text =>
    refine if_neg fun isPrefix => other (head_of_isPrefixOf ?_ isPrefix)
    exact fun empty => substantial.1 (empty ▸ rfl)
  | keyword word =>
    refine if_neg fun taken =>
      other (head_of_isPrefixOf ?_ (Bool.and_eq_true_iff.mp taken).1)
    exact fun empty => substantial.2 (empty ▸ rfl)
  | comment first opening =>
    exact if_neg fun isPrefix =>
      other (head_of_isPrefixOf (List.cons_ne_nil _ _) isPrefix)
  | quotedText => exact if_neg (by simpa [Matcher.firsts] using other)
  | number fraction =>
    have notDigit : Text.isDigit char = false :=
      Bool.eq_false_iff.mpr fun digit => other (mem_digitChars digit)
    simp [Matcher.cut?, notDigit]
  | identifier => exact absurd rfl plain

/-! ## Cuts move -/

/-- A rule that cuts off a character wherever it applies. -/
def Rule.Moves (rule : Rule) : Prop :=
  ∀ chars text remaining, rule.shape.cut? chars = some (text, remaining) →
    remaining.length < chars.length

/-- Rules that always move cut off what the first of them to apply does. -/
theorem cutFirst_eq_findSome? {rules : List Rule}
    (moves : ∀ rule ∈ rules, rule.Moves) (chars : List Char) :
    cutFirst rules chars =
      rules.findSome? fun rule => (rule.shape.cut? chars).map fun taken =>
        (rule.label, taken) := by
  induction rules with
  | nil => rfl
  | cons rule others hypothesis =>
    have rest :=
      hypothesis fun other member => moves other (List.mem_cons_of_mem _ member)
    rw [cutFirst, List.findSome?_cons, rest]
    cases cut : rule.shape.cut? chars with
    | none => rfl
    | some taken =>
      have shorter := moves rule (List.mem_cons_self ..) chars taken.1 taken.2 cut
      simp [shorter]

theorem length_cutQuoted {quote : Char} {chars text remaining : List Char}
    {escaped : Bool} {collected : List Char}
    (cut : cutQuoted quote escaped collected chars = some (text, remaining)) :
    remaining.length < chars.length := by
  induction chars generalizing escaped collected with
  | nil => cases cut
  | cons char chars hypothesis =>
    rw [cutQuoted] at cut
    grind

theorem length_drop_of_isPrefixOf {text chars : List Char}
    (substantial : text ≠ []) (isPrefix : text.isPrefixOf chars = true) :
    (chars.drop text.length).length < chars.length := by
  obtain ⟨remaining, rfl⟩ := List.isPrefixOf_iff_prefix.mp isPrefix
  have positive := List.length_pos_iff.mpr substantial
  rw [List.drop_left, List.length_append]
  omega

theorem length_dropWhile_le (accepts : Char → Bool) (chars : List Char) :
    (chars.dropWhile accepts).length ≤ chars.length :=
  (List.dropWhile_suffix accepts).length_le

theorem length_dropWhile_lt {accepts : Char → Bool} {chars : List Char}
    (some : chars.takeWhile accepts ≠ []) :
    (chars.dropWhile accepts).length < chars.length := by
  have positive := List.length_pos_iff.mpr some
  have parts :=
    congrArg List.length
      (List.takeWhile_append_dropWhile (p := accepts) (l := chars))
  rw [List.length_append] at parts
  omega

/-- A matcher of more than an empty text moves. -/
theorem Matcher.length_cut? {shape : Matcher}
    (substantial : shape.Substantial) {chars text remaining : List Char}
    (cut : shape.cut? chars = some (text, remaining)) :
    remaining.length < chars.length := by
  cases shape with
  | oneOf set =>
    cases chars with
    | nil => cases cut
    | cons char chars =>
      simp only [Matcher.cut?, Option.ite_none_right_eq_some, Option.some.injEq,
        Prod.mk.injEq] at cut
      obtain ⟨-, -, rfl⟩ := cut
      exact Nat.lt_succ_self _
  | literal literal =>
    simp only [Matcher.cut?, Option.ite_none_right_eq_some, Option.some.injEq,
      Prod.mk.injEq] at cut
    obtain ⟨isPrefix, -, rfl⟩ := cut
    exact length_drop_of_isPrefixOf
      (fun empty => substantial.1 (empty ▸ rfl)) isPrefix
  | keyword word =>
    simp only [Matcher.cut?, Bool.and_eq_true, Option.ite_none_right_eq_some,
      Option.some.injEq, Prod.mk.injEq] at cut
    obtain ⟨⟨isPrefix, -⟩, -, rfl⟩ := cut
    exact length_drop_of_isPrefixOf
      (fun empty => substantial.2 (empty ▸ rfl)) isPrefix
  | comment first opening =>
    simp only [Matcher.cut?, Option.ite_none_right_eq_some, Option.some.injEq,
      Prod.mk.injEq] at cut
    obtain ⟨isPrefix, -, rfl⟩ := cut
    exact Nat.lt_of_le_of_lt (length_dropWhile_le _ _)
      (length_drop_of_isPrefixOf (List.cons_ne_nil _ _) isPrefix)
  | quotedText =>
    cases chars with
    | nil => cases cut
    | cons char chars =>
      simp only [Matcher.cut?, Option.ite_none_right_eq_some] at cut
      exact Nat.lt_succ_of_lt (length_cutQuoted cut.2)
  | number fraction =>
    simp only [Matcher.cut?] at cut
    split at cut
    · cases cut
    · next digits =>
      have shorter := length_dropWhile_lt (by simpa using digits)
      split at cut
      · cases cut
        exact shorter
      · split at cut
        · next tail left =>
          split at cut
          · cases cut
          · cases cut
            rw [left] at shorter
            have := length_dropWhile_le Text.isDigit tail
            exact Nat.lt_of_le_of_lt this (Nat.lt_of_succ_lt shorter)
        · cases cut
  | identifier =>
    cases chars with
    | nil => cases cut
    | cons char chars =>
      simp only [Matcher.cut?, Option.ite_none_right_eq_some, Option.some.injEq,
        Prod.mk.injEq] at cut
      obtain ⟨-, -, rfl⟩ := cut
      exact Nat.lt_succ_of_le (length_dropWhile_le _ _)

theorem markupRules_substantial :
    ∀ rule ∈ markupRules, rule.shape.Substantial := by
  decide

/-- The rules of the markup language cut off what the first of them to apply
does. -/
theorem cutFirst_markupRules (chars : List Char) :
    cutFirst markupRules chars = markupRules.findSome? fun rule =>
      (rule.shape.cut? chars).map fun taken => (rule.label, taken) := by
  refine cutFirst_eq_findSome? ?_ chars
  intro rule member _ _ _
  exact Matcher.length_cut? (markupRules_substantial rule member)

/-! ## Marks and operators -/

/-- The marks that stand alone in an expression, whatever follows them. -/
def singleMarks : List (Char × TokenKind) :=
  [(',', .comma), ('.', .dot), ('(', .leftParen), ('\x7b', .leftBrace),
    ('\x7d', .rightBrace), (')', .rightParen)]

theorem cutFirst_mark {mark : Char × TokenKind} (member : mark ∈ singleMarks)
    (tail : List Char) :
    cutFirst markupRules (mark.1 :: tail) =
      some (.fixed mark.2, [mark.1], tail) := by
  rw [cutFirst_markupRules]
  simp only [singleMarks, List.mem_cons, List.not_mem_nil, or_false] at member
  rcases member with rfl | rfl | rfl | rfl | rfl | rfl <;> rfl

theorem cutFirst_colon (tail : List Char) :
    cutFirst markupRules (':' :: ' ' :: tail) =
      some (.fixed .colon, [':'], ' ' :: tail) := by
  rw [cutFirst_markupRules]
  rfl

theorem cutFirst_blank (tail : List Char) :
    cutFirst markupRules (' ' :: tail) = some (.skip, [' '], tail) := by
  rw [cutFirst_markupRules]
  rfl

theorem cutFirst_infixOp (op : InfixOp) (tail : List Char) :
    cutFirst markupRules (op.symbol.toList ++ ' ' :: tail) =
      some (.fixed .operator, op.symbol.toList, ' ' :: tail) := by
  rw [cutFirst_markupRules]
  cases op <;> rfl

theorem cutFirst_prefixOp (op : PrefixOp) {tail : List Char}
    (next : tail.head? ≠ some '=') :
    cutFirst markupRules (op.symbol.toList ++ tail) =
      some (.fixed .operator, op.symbol.toList, tail) := by
  rw [cutFirst_markupRules]
  cases op with
  | not =>
    cases tail with
    | nil => rfl
    | cons char tail =>
      have different : ('=' == char) = false :=
        beq_false_of_ne fun same => next (same ▸ rfl)
      have longer :
          Matcher.cut? (.literal ['!', '=']) ('!' :: char :: tail) = none := by
        simp [Matcher.cut?, List.isPrefixOf, different]
      have rules : markupRules = markupRules.take 10 ++
          ⟨.fixed .operator, .literal ['!', '=']⟩ :: markupRules.drop 11 := rfl
      change markupRules.findSome? (fun rule =>
        (rule.shape.cut? ('!' :: char :: tail)).map fun taken =>
          (rule.label, taken)) = _
      rw [rules, List.findSome?_append, List.findSome?_cons, longer]
      rfl
  | plus => rfl
  | minus => rfl

/-! ## Names -/

/-- The words that the rules before the one for names take. -/
def literalWords : List (List Char) :=
  ["null".toList, "Null".toList, "false".toList, "true".toList]

/-- The spelling of a name. -/
structure IsWord (text : List Char) : Prop where
  begins : text.head?.any beginsName = true
  continues : text.tail.all Text.isWordChar = true
  unreserved : text ∉ literalWords

theorem IsWord.parts {text : List Char} (word : IsWord text) :
    ∃ first others,
      text = first :: others ∧ beginsName first = true ∧
      others.all Text.isWordChar = true := by
  have begins := word.begins
  cases text with
  | nil => cases begins
  | cons first others => exact ⟨first, others, rfl, begins, word.continues⟩

/-- The rules that are tried before the one for names. -/
def rulesBeforeNames : List Rule := markupRules.dropLast

theorem markupRules_eq :
    markupRules = rulesBeforeNames ++ [⟨.byName, .identifier⟩] :=
  rfl

theorem mem_markupRules {rule : Rule} (member : rule ∈ rulesBeforeNames) :
    rule ∈ markupRules :=
  List.dropLast_subset _ member

/-- Of the rules before the one for names, only those for words can begin like a
name. -/
theorem beginsName_firsts : ∀ rule ∈ rulesBeforeNames, rule.shape ≠ .identifier ∧
    ((∃ word ∈ literalWords, rule.shape = .keyword word) ∨
      ∀ char ∈ rule.shape.firsts, beginsName char = false) := by
  have checked : rulesBeforeNames.all (fun rule => rule.shape != .identifier &&
      (literalWords.any (fun word => rule.shape == .keyword word) ||
        rule.shape.firsts.all fun char => !beginsName char)) = true := by rfl
  intro rule member
  simpa using List.all_eq_true.mp checked rule member

theorem literalWords_continue :
    ∀ word ∈ literalWords, word.all Text.isWordChar = true := by
  decide

/-- A walk over a class stops where the class does. -/
theorem takeWhile_append_stop {accepts : Char → Bool} {chars tail : List Char}
    (all : chars.all accepts = true) (stops : tail.head?.any accepts = false) :
    (chars ++ tail).takeWhile accepts = chars ∧
    (chars ++ tail).dropWhile accepts = tail := by
  rw [List.all_eq_true] at all
  rw [List.takeWhile_append_of_pos all, List.dropWhile_append_of_pos all]
  cases tail with
  | nil => simp
  | cons char tail =>
    have outside : accepts char = false := stops
    simp [outside]

/-- A word is not the beginning or an extension of another one. -/
theorem cut?_keyword_of_ne {word text tail : List Char}
    (letters : word.all Text.isWordChar = true) (substantial : word ≠ [])
    (continues : text.tail.all Text.isWordChar = true)
    (different : text ≠ word) (stops : tail.head?.any Text.isWordChar = false) :
    Matcher.cut? (.keyword word) (text ++ tail) = none := by
  refine if_neg fun taken => ?_
  obtain ⟨isPrefix, ends⟩ := Bool.and_eq_true_iff.mp taken
  obtain ⟨remaining, same⟩ := List.isPrefixOf_iff_prefix.mp isPrefix
  rw [← same, List.drop_left, Bool.not_eq_true'] at ends
  -- Either the text goes on behind the word, or the word goes on behind the text.
  rcases List.append_eq_append_iff.mp same with ⟨rest, text_eq, rfl⟩ |
    ⟨rest, word_eq, rfl⟩
  · cases rest with
    | nil => exact different (by rw [text_eq, List.append_nil])
    | cons char rest =>
      have member : char ∈ text.tail := by
        rw [text_eq, List.tail_append_of_ne_nil substantial]
        exact List.mem_append_right _ (List.mem_cons_self ..)
      rw [List.all_eq_true] at continues
      rw [List.cons_append, List.head?_cons, Option.any_some,
        continues char member] at ends
      cases ends
  · cases rest with
    | nil => exact different (by rw [word_eq, List.append_nil])
    | cons char rest =>
      have member : char ∈ word := by
        rw [word_eq]
        exact List.mem_append_right _ (List.mem_cons_self ..)
      rw [List.all_eq_true] at letters
      rw [List.cons_append, List.head?_cons, Option.any_some,
        letters char member] at stops
      cases stops

/-- A name is cut off as a whole. -/
theorem cutFirst_name {text tail : List Char} (word : IsWord text)
    (stops : tail.head?.any Text.isWordChar = false) :
    cutFirst markupRules (text ++ tail) = some (.byName, text, tail) := by
  obtain ⟨first, others, rfl, begins, continues⟩ := word.parts
  have before : rulesBeforeNames.findSome? (fun rule =>
      (rule.shape.cut? (first :: others ++ tail)).map fun taken =>
        (rule.label, taken)) = none := by
    rw [List.findSome?_eq_none_iff]
    intro rule member
    rw [Option.map_eq_none_iff]
    obtain ⟨plain, ⟨reserved, isReserved, same⟩ | apart⟩ :=
      beginsName_firsts rule member
    · rw [same]
      refine cut?_keyword_of_ne (literalWords_continue reserved isReserved) ?_
        continues ?_ stops
      · rintro rfl
        exact absurd isReserved (by decide)
      · rintro rfl
        exact word.unreserved isReserved
    · refine Matcher.cut?_of_not_mem_firsts
        (markupRules_substantial rule (mem_markupRules member)) plain
        (fun starts => ?_) _
      rw [apart first starts] at begins
      cases begins
  obtain ⟨takes, leaves⟩ := takeWhile_append_stop continues stops
  rw [cutFirst_markupRules, markupRules_eq, List.findSome?_append, before]
  simp [Matcher.cut?, begins, takes, leaves]

/-! ## Numbers -/

theorem markupRules_numbers :
    markupRules =
      markupRules.take 4 ++ ⟨.fixed .float, .number true⟩ ::
        ⟨.fixed .integer, .number false⟩ :: markupRules.drop 6 :=
  rfl

/-- The rules before those for numbers do not begin with a digit. -/
theorem digitChars_firsts : ∀ rule ∈ markupRules.take 4, rule.shape ≠ .identifier ∧
    ∀ char ∈ digitChars, char ∉ rule.shape.firsts := by
  have checked : (markupRules.take 4).all (fun rule => rule.shape != .identifier &&
      digitChars.all fun char => !rule.shape.firsts.contains char) = true := by rfl
  intro rule member
  simpa using List.all_eq_true.mp checked rule member

theorem findSome?_digit {char : Char} (digit : Text.isDigit char = true)
    (rest : List Char) :
    (markupRules.take 4).findSome?
      (fun rule => (rule.shape.cut? (char :: rest)).map fun taken =>
        (rule.label, taken)) = none := by
  rw [List.findSome?_eq_none_iff]
  intro rule member
  obtain ⟨plain, apart⟩ := digitChars_firsts rule member
  have known := List.take_subset _ _ member
  rw [Matcher.cut?_of_not_mem_firsts (markupRules_substantial rule known) plain
    (apart char (mem_digitChars digit))]
  rfl

/-- A row of digits. -/
structure IsDigits (text : List Char) : Prop where
  some : text ≠ []
  all : text.all Text.isDigit = true

theorem IsDigits.parts {text : List Char} (digits : IsDigits text) : ∃ first others,
    text = first :: others ∧ Text.isDigit first = true := by
  cases text with
  | nil => exact absurd rfl digits.some
  | cons first others =>
    exact ⟨first, others, rfl, (Bool.and_eq_true_iff.mp digits.all).1⟩

/-- Digits that neither another digit nor a dot follows are an integer. -/
theorem cutFirst_integer {digits tail : List Char}
    (isDigits : IsDigits digits) (stops : tail.head?.any Text.isDigit = false)
    (undotted : tail.head? ≠ some '.') :
    cutFirst markupRules (digits ++ tail) =
      some (.fixed .integer, digits, tail) := by
  obtain ⟨takes, leaves⟩ := takeWhile_append_stop isDigits.all stops
  have whole : digits.isEmpty = false := by simpa using isDigits.some
  have noFraction : Matcher.cut? (.number true) (digits ++ tail) = none := by
    simp only [Matcher.cut?, takes, leaves, whole, Bool.false_eq_true, if_false,
      Bool.not_true]
    split
    · exact absurd rfl undotted
    · rfl
  have integer :
      Matcher.cut? (.number false) (digits ++ tail) = some (digits, tail) := by
    simp [Matcher.cut?, takes, leaves, whole]
  obtain ⟨first, others, rfl, digit⟩ := isDigits.parts
  have before := findSome?_digit digit (others ++ tail)
  rw [← List.cons_append] at before
  rw [cutFirst_markupRules, markupRules_numbers, List.findSome?_append, before,
    List.findSome?_cons, noFraction, Option.map_none, List.findSome?_cons, integer]
  rfl

/-- Digits on both sides of a dot are a floating-point number. -/
theorem cutFirst_float {whole fraction tail : List Char} (isWhole : IsDigits whole)
    (isFraction : IsDigits fraction) (stops : tail.head?.any Text.isDigit = false) :
    cutFirst markupRules (whole ++ '.' :: fraction ++ tail) =
      some (.fixed .float, whole ++ '.' :: fraction, tail) := by
  have dot : ('.' :: (fraction ++ tail)).head?.any Text.isDigit = false := rfl
  obtain ⟨takes, leaves⟩ := takeWhile_append_stop isWhole.all dot
  obtain ⟨takesAgain, leavesAgain⟩ := takeWhile_append_stop isFraction.all stops
  have float : Matcher.cut? (.number true) (whole ++ '.' :: (fraction ++ tail)) =
      some (whole ++ '.' :: fraction, tail) := by
    simp [Matcher.cut?, takes, leaves, takesAgain, leavesAgain, isWhole.some,
      isFraction.some]
  have parts :
      whole ++ '.' :: fraction ++ tail = whole ++ '.' :: (fraction ++ tail) :=
    List.append_assoc ..
  rw [parts]
  obtain ⟨first, others, rfl, digit⟩ := isWhole.parts
  have before := findSome?_digit digit (others ++ '.' :: (fraction ++ tail))
  rw [← List.cons_append] at before
  rw [cutFirst_markupRules, markupRules_numbers, List.findSome?_append, before,
    List.findSome?_cons, float]
  rfl

/-! ## Quoted texts -/

/-- A character that is shown between double quotes as itself, or by a backslash
and one character. -/
def ShownPlainly (char : Char) : Prop :=
  Text.escapeChar '"' char = [char] ∨
  Text.escapeChar '"' char ∈
    ["\\0".toList, "\\t".toList, "\\r".toList, "\\n".toList, "\\\\".toList,
      "\\\"".toList]

instance (char : Char) : Decidable (ShownPlainly char) :=
  inferInstanceAs (Decidable (_ ∨ _))

/-- A character that is shown plainly needs at most a backslash before a mark
that stands for it. -/
theorem ShownPlainly.cases {char : Char} (plain : ShownPlainly char) :
    (Text.escapeChar '"' char = [char] ∧ char ≠ '\n' ∧ char ≠ '\\' ∧ char ≠ '"') ∨
      ∃ mark, Text.escapeChar '"' char = ['\\', mark] ∧ mark ≠ '\n' ∧
        ∀ rest, unescape ('\\' :: mark :: rest) = char :: unescape rest := by
  rcases plain with verbatim | escaped
  · left
    refine ⟨verbatim, ?_, ?_, ?_⟩ <;> rintro rfl <;>
      exact absurd verbatim (by decide)
  · right
    by_cases zero : char = '\x00'
    · exact ⟨'0', by rw [zero]; decide, by decide, fun rest => by rw [zero]; rfl⟩
    by_cases tab : char = '\t'
    · exact ⟨'t', by rw [tab]; decide, by decide, fun rest => by rw [tab]; rfl⟩
    by_cases carriage : char = '\r'
    · refine ⟨'r', by rw [carriage]; decide, by decide, ?_⟩
      intro rest
      rw [carriage]
      rfl
    by_cases line : char = '\n'
    · exact ⟨'n', by rw [line]; decide, by decide, fun rest => by rw [line]; rfl⟩
    by_cases backslash : char = '\\'
    · refine ⟨'\\', by rw [backslash]; decide, by decide, ?_⟩
      intro rest
      rw [backslash]
      rfl
    by_cases quote : char = '"'
    · exact ⟨'"', by rw [quote]; decide, by decide, fun rest => by rw [quote]; rfl⟩
    exfalso
    revert escaped
    simp only [Text.escapeChar, beq_iff_eq, zero, tab, carriage, line,
      backslash, quote, if_false, Bool.or_eq_true, or_self]
    split <;> simp

theorem mem_toDigits {base value : Nat} (bases : 1 < base) {char : Char}
    (member : char ∈ Nat.toDigits base value) :
    ∃ digit < base, char = digit.digitChar := by
  induction value using Nat.strongRecOn with
  | ind value induction =>
    rw [Nat.toDigits_eq_if bases] at member
    split at member
    · next less => exact ⟨value, less, List.mem_singleton.mp member⟩
    · rcases List.mem_append.mp member with earlier | last
      · exact induction _ (Nat.div_lt_self (by omega) bases) earlier
      · exact ⟨value % base, Nat.mod_lt _ (by omega), List.mem_singleton.mp last⟩

/-- The digits of a code point end no text. -/
theorem hexDigit_plain {char digit : Char} (member : digit ∈ Text.hexDigits char) :
    digit ≠ '\n' ∧ digit ≠ '\\' ∧ digit ≠ '"' := by
  have digits : ∀ value < 16, value.digitChar ≠ '\n' ∧ value.digitChar ≠ '\\' ∧
      value.digitChar ≠ '"' := by
    decide
  obtain ⟨value, less, rfl⟩ := mem_toDigits (by decide) member
  exact digits value less

/-- The code point of a character, in braces. -/
def codePointChars (char : Char) : List Char :=
  '\x7b' :: Text.hexDigits char ++ ['\x7d']

theorem escapeChar_of_not_shownPlainly {char : Char}
    (unseen : ¬ ShownPlainly char) :
    Text.escapeChar '"' char = '\\' :: 'u' :: codePointChars char := by
  have apart {short : Char} (plain : ShownPlainly short) : char ≠ short :=
    fun same => unseen (same ▸ plain)
  have zero : char ≠ '\x00' := apart (by decide)
  have tab : char ≠ '\t' := apart (by decide)
  have carriage : char ≠ '\r' := apart (by decide)
  have line : char ≠ '\n' := apart (by decide)
  have backslash : char ≠ '\\' := apart (by decide)
  have quote : char ≠ '"' := apart (by decide)
  have hidden : (!Text.isCombining char && Text.isVisible char) = false := by
    refine Bool.eq_false_iff.mpr fun shown => unseen (.inl ?_)
    simp only [Text.escapeChar, beq_iff_eq, zero, tab, carriage, line,
      backslash, quote, shown, Bool.or_eq_true, or_self, if_false, if_true]
  simp only [Text.escapeChar, beq_iff_eq, zero, tab, carriage, line, backslash,
    quote, hidden, Bool.or_eq_true, or_self, if_false, Bool.false_eq_true,
    codePointChars, List.cons_append]

/-- What reading makes of a printed text: only what is shown plainly comes back. -/
def respell (value : List Char) : List Char :=
  value.flatMap fun char => if ShownPlainly char then [char]
    else 'u' :: codePointChars char

/-- Only texts all of whose characters are shown plainly come back. -/
theorem respell_eq_self_iff {value : List Char} :
    respell value = value ↔ ∀ char ∈ value, ShownPlainly char := by
  induction value with
  | nil => simp [respell]
  | cons char value hypothesis =>
    rw [List.forall_mem_cons, ← hypothesis, respell, List.flatMap_cons, ← respell]
    by_cases plain : ShownPlainly char
    · simp [plain]
    · rw [if_neg plain]
      refine iff_of_false (fun same => plain ?_) fun both => plain both.1
      rw [← (List.cons.inj same).1]
      decide

example : respell ['a', '\x01', '"'] = ['a', 'u', '\x7b', '1', '\x7d', '"'] := by
  decide

theorem cutQuoted_passes {chars : List Char}
    (plain : ∀ char ∈ chars, char ≠ '\n' ∧ char ≠ '\\' ∧ char ≠ '"')
    (collected tail : List Char) :
    cutQuoted '"' false collected (chars ++ tail) =
      cutQuoted '"' false (chars.reverse ++ collected) tail := by
  induction chars generalizing collected with
  | nil => rfl
  | cons char chars hypothesis =>
    obtain ⟨notEnd, notBackslash, notQuote⟩ := plain char (List.mem_cons_self ..)
    simp [cutQuoted, notEnd, notBackslash, notQuote,
      hypothesis fun other member => plain other (List.mem_cons_of_mem _ member)]

theorem unescape_passes {chars : List Char} (plain : ∀ char ∈ chars, char ≠ '\\')
    (tail : List Char) : unescape (chars ++ tail) = chars ++ unescape tail := by
  induction chars with
  | nil => rfl
  | cons char chars hypothesis =>
    have notBackslash := plain char (List.mem_cons_self ..)
    rw [List.cons_append, unescape, List.cons_append,
      hypothesis fun other member => plain other (List.mem_cons_of_mem _ member)]
    · exact fun same _ => notBackslash same
    · exact fun _ _ same _ => notBackslash same

theorem codePointChars_plain {char other : Char}
    (member : other ∈ codePointChars char) :
    other ≠ '\n' ∧ other ≠ '\\' ∧ other ≠ '"' := by
  simp only [codePointChars, List.cons_append, List.mem_cons, List.mem_append,
    List.not_mem_nil, or_false] at member
  rcases member with rfl | digit | rfl
  · decide
  · exact hexDigit_plain digit
  · decide

theorem cutQuoted_escaped (value collected tail : List Char) :
    cutQuoted '"' false collected
      (value.flatMap (Text.escapeChar '"') ++ '"' :: tail) =
      some (collected.reverse ++ value.flatMap (Text.escapeChar '"'),
        tail) := by
  induction value generalizing collected with
  | nil => simp [cutQuoted]
  | cons char value others =>
    rw [List.flatMap_cons]
    by_cases plain : ShownPlainly char
    · obtain ⟨shown, notEnd, notBackslash, notQuote⟩ |
          ⟨mark, shown, notEnd, -⟩ :=
        plain.cases
      · rw [shown]
        simp [cutQuoted, notEnd, notBackslash, notQuote, others]
      · rw [shown]
        simp [cutQuoted, notEnd, others]
    · rw [escapeChar_of_not_shownPlainly plain]
      have escape (rest : List Char) :
          cutQuoted '"' false collected ('\\' :: 'u' :: rest) =
            cutQuoted '"' false ('u' :: '\\' :: collected) rest := rfl
      rw [List.append_assoc, List.cons_append, List.cons_append, escape,
        cutQuoted_passes fun _ => codePointChars_plain, others]
      simp

/-- An escape is read as what it names, but the code point of a character as it
is spelled. -/
theorem unescape_escaped (value : List Char) :
    unescape (value.flatMap (Text.escapeChar '"')) = respell value := by
  induction value with
  | nil => rfl
  | cons char value others =>
    rw [List.flatMap_cons, respell, List.flatMap_cons, ← respell]
    by_cases plain : ShownPlainly char
    · rw [if_pos plain, List.singleton_append, ← others]
      obtain ⟨shown, -, notBackslash, -⟩ | ⟨mark, shown, -, names⟩ := plain.cases
      · rw [shown, List.singleton_append, unescape]
        · exact fun same _ => notBackslash same
        · exact fun _ _ same _ => notBackslash same
      · rw [shown]
        exact names _
    · rw [escapeChar_of_not_shownPlainly plain, if_neg plain, ← others]
      have escape (rest : List Char) :
          unescape ('\\' :: 'u' :: rest) = 'u' :: unescape rest :=
        rfl
      rw [List.cons_append, List.cons_append, escape,
        unescape_passes fun _ member => (codePointChars_plain member).2.1]
      rfl

/-- A quoted text is cut off with its quotes. -/
theorem cutFirst_text (value tail : List Char) :
    cutFirst markupRules (Text.quoteChars '"' value ++ tail) =
      some (.fixed .text, value.flatMap (Text.escapeChar '"'), tail) := by
  have rules : markupRules = markupRules.take 3 ++
      ⟨.fixed .text, .quotedText⟩ :: markupRules.drop 4 := rfl
  have quoted : Matcher.cut? .quotedText
      ('"' :: (value.flatMap (Text.escapeChar '"') ++ '"' :: tail)) =
        some (value.flatMap (Text.escapeChar '"'), tail) :=
    cutQuoted_escaped value [] tail
  have text : Text.quoteChars '"' value ++ tail =
      '"' :: (value.flatMap (Text.escapeChar '"') ++ '"' :: tail) := by
    simp [Text.quoteChars]
  rw [text, cutFirst_markupRules]
  change markupRules.findSome? (fun rule => (rule.shape.cut?
    ('"' :: (value.flatMap (Text.escapeChar '"') ++ '"' :: tail))).map fun taken =>
      (rule.label, taken)) = _
  rw [rules, List.findSome?_append, List.findSome?_cons, quoted]
  rfl

end LiveMarkup
