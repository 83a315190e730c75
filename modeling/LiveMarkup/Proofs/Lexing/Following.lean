import LiveMarkup.Proofs.Lexing.Segmentation

/-!
# What may follow a token

Whether some characters are cut off as a token depends on the one that stands
behind them, and where that is a dot, on the one behind the dot.  A blank ends
every token.  So a token is cut off as before when other characters take the
place of those behind it, as long as they begin with a blank or as the others
did.

The rules tried before the one that wins must still fail.  This is shown shape
by shape: a rule that applies now has applied before.
-/

namespace LiveMarkup

/-- Characters that begin with a blank, or with the same character as some
others. -/
def BeginsAs (others remaining : List Char) : Prop :=
  others.head?.any (blankChars.contains ·) = true ∨ others.head? = remaining.head?

/--
Characters that end a token no less than those that stood behind it: they begin
as these did, and put no digit behind a dot.
-/
structure EndsAs (others remaining : List Char) : Prop where
  begins : BeginsAs others remaining
  undotted : ∀ tail otherTail, remaining = '.' :: tail → others = '.' :: otherTail →
    tail.head?.any Text.isDigit = false → otherTail.head?.any Text.isDigit = false

variable {consumed remaining others text rest : List Char} {label : RuleLabel}
  {rule winner : Rule}

theorem isWordChar_blank : ∀ blank ∈ blankChars, Text.isWordChar blank = false := by
  have checked :
      blankChars.all (fun blank => Text.isWordChar blank == false) = true := by
    rfl
  exact fun blank member => eq_of_beq (List.all_eq_true.mp checked blank member)

theorem isDigit_blank : ∀ blank ∈ blankChars, Text.isDigit blank = false := by
  have checked :
      blankChars.all (fun blank => Text.isDigit blank == false) = true := by
    rfl
  exact fun blank member => eq_of_beq (List.all_eq_true.mp checked blank member)

/-- No name begins with a digit or a quotation mark. -/
theorem beginsName_eq_false :
    ∀ char ∈ digitChars ++ quoteChars, beginsName char = false := by
  have checked :
      (digitChars ++ quoteChars).all (fun char => beginsName char == false) =
        true := by
    rfl
  exact fun char member => eq_of_beq (List.all_eq_true.mp checked char member)

/-- A class without blanks ends at the other characters if it has ended at the
first ones. -/
theorem BeginsAs.stops (begins : BeginsAs others remaining)
    {accepts : Char → Bool}
    (apart : ∀ blank ∈ blankChars, accepts blank = false)
    (stops : remaining.head?.any accepts = false) :
    others.head?.any accepts = false := by
  rcases begins with blank | same
  · cases head : others.head? with
    | none => rfl
    | some char =>
        rw [head] at blank
        exact apart char (by simpa using blank)
  · rw [same]
    exact stops

/-- A character that is no blank stands behind the token if it stands there now. -/
theorem BeginsAs.head (begins : BeginsAs others remaining) {char : Char}
    (plain : char ∉ blankChars) (here : others.head? = some char) :
    remaining.head? = some char := by
  rcases begins with blank | same
  · rw [here] at blank
    exact absurd (by simpa using blank) plain
  · rw [← same, here]

/-! ## The rule that wins -/

/-- A shape takes the same if what follows begins in the same way. -/
theorem Matcher.Takes.beginsAs {shape : Matcher}
    (takes : shape.Takes text consumed remaining)
    (begins : BeginsAs others remaining)
    (noComment : ∀ first opening, shape ≠ .comment first opening) :
    shape.Takes text consumed others := by
  cases shape with
  | oneOf set => exact takes
  | literal literal => exact takes
  | keyword word =>
    exact ⟨takes.1, takes.2.1, begins.stops isWordChar_blank takes.2.2⟩
  | comment first opening => exact absurd rfl (noComment first opening)
  | quotedText => exact takes
  | number fraction =>
      cases fraction with
      | false => exact ⟨takes.1, takes.2.1, begins.stops isDigit_blank takes.2.2⟩
      | true => exact ⟨takes.1, takes.2.1, begins.stops isDigit_blank takes.2.2⟩
  | identifier =>
    exact ⟨takes.1, takes.2.1, begins.stops isWordChar_blank takes.2.2⟩

/-! ## The rules before it -/

/-- A short text without blanks is the beginning of a token's characters with
the others behind them only if it was with the first ones. -/
theorem BeginsAs.isPrefixOf (begins : BeginsAs others remaining)
    (moves : consumed ≠ []) {mark : List Char} (short : mark.length ≤ 2)
    (plain : ∀ char ∈ mark, char ∉ blankChars)
    (isPrefix : mark.isPrefixOf (consumed ++ others) = true) :
    mark.isPrefixOf (consumed ++ remaining) = true := by
  rw [List.isPrefixOf_iff_prefix] at isPrefix ⊢
  rcases List.prefix_or_prefix_of_prefix isPrefix
    (List.prefix_append consumed others) with
    inside | ⟨beyond, rfl⟩
  · exact inside.trans (List.prefix_append _ _)
  · have positive := List.length_pos_iff.mpr moves
    rw [List.length_append] at short
    have further := (List.prefix_append_right_inj consumed).mp isPrefix
    rw [List.prefix_append_right_inj]
    cases beyond with
    | nil => exact List.nil_prefix
    | cons char beyond =>
        cases List.eq_nil_of_length_eq_zero (l := beyond) (by simp at short; omega)
        obtain ⟨tail, rfl⟩ := further
        have stood := begins.head (plain char (by simp)) rfl
        obtain ⟨left, rfl⟩ := List.head?_eq_some_iff.mp stood
        exact ⟨left, rfl⟩

/-- What the marks of the rules look like: one or two characters, none of them
blank. -/
def Matcher.marks : Matcher → List (List Char)
  | .literal mark => [mark]
  | .comment first opening => [first :: opening]
  | _ => []

/-- Marks are short, and nothing in them is blank. -/
theorem markupRules_marks (member : rule ∈ markupRules) {mark : List Char}
    (isMark : mark ∈ rule.shape.marks) :
    mark.length ≤ 2 ∧ ∀ char ∈ mark, char ∉ blankChars := by
  have checked : markupRules.all (fun rule => rule.shape.marks.all fun mark =>
      decide (mark.length ≤ 2) &&
        mark.all fun char => !blankChars.contains char) = true := by
    rfl
  simpa using List.all_eq_true.mp
    (List.all_eq_true.mp checked rule member) mark isMark

/-- What begins with the first character of a quoted text or a number is one. -/
theorem markupRules_firsts (member : rule ∈ markupRules) {char : Char}
    (starts : char ∈ rule.shape.firsts) :
    (char ∈ quoteChars → rule.shape = .quotedText) ∧
      (char ∈ digitChars → ∃ fraction, rule.shape = .number fraction) := by
  have checked : markupRules.all (fun rule => rule.shape.firsts.all fun char =>
      (!quoteChars.contains char || rule.shape == .quotedText) &&
        (!digitChars.contains char || rule.shape == .number true ||
          rule.shape == .number false)) =
      true := by
    rfl
  have found :=
    List.all_eq_true.mp (List.all_eq_true.mp checked rule member) char starts
  simp only [Bool.and_eq_true, Bool.or_eq_true, Bool.not_eq_true',
    List.contains_eq_mem, decide_eq_false_iff_not, beq_iff_eq] at found
  refine ⟨fun quote => ?_, fun digit => ?_⟩
  · exact found.1.resolve_left fun apart => apart quote
  · rcases found.2 with (apart | fraction) | whole
    · exact absurd digit apart
    · exact ⟨true, fraction⟩
    · exact ⟨false, whole⟩

/-- The shape of a rule that takes something off a character that begins no name
has that character among its first ones. -/
theorem mem_firsts_of_cut? (member : rule ∈ markupRules) {char : Char}
    (noName : beginsName char = false)
    (cut : rule.shape.cut? (char :: rest) = some (text, remaining)) :
    char ∈ rule.shape.firsts := by
  by_contra other
  by_cases name : rule.shape = .identifier
  · rw [name] at cut
    simp [Matcher.cut?, noName] at cut
  · rw [Matcher.cut?_of_not_mem_firsts (markupRules_substantial rule member)
      name other] at cut
    cases cut

/-- What a rule takes that begins like a name ends where the name does. -/
theorem stops_of_begins (known : winner ∈ markupRules)
    (wins : winner.shape.cut? (consumed ++ remaining) = some (text, remaining))
    (begins : consumed.head?.any beginsName = true) :
    remaining.head?.any Text.isWordChar = false := by
  cases consumed with
  | nil => cases begins
  | cons char consumed =>
      have takes := Matcher.takes_of_cut? wins
      rcases word_of_cut? known begins wins with names | ⟨word, -, reserved⟩
      · rw [names] at takes
        exact takes.2.2
      · rw [reserved] at takes
        exact takes.2.2

theorem literalWords_begin :
    ∀ word ∈ literalWords, word.head?.any beginsName = true := by
  decide

/-- A reserved word is there with the other characters only if it was with the
first ones. -/
theorem BeginsAs.keyword (same : BeginsAs others remaining) (moves : consumed ≠ [])
    (known : winner ∈ markupRules)
    (wins : winner.shape.cut? (consumed ++ remaining) = some (text, remaining))
    {word : List Char} (reserved : word ∈ literalWords)
    (applies : (Matcher.cut? (.keyword word) (consumed ++ others)).isSome = true) :
    (Matcher.cut? (.keyword word) (consumed ++ remaining)).isSome = true := by
  have begins := literalWords_begin word reserved
  obtain ⟨⟨left, remaining'⟩, cuts⟩ := Option.isSome_iff_exists.mp applies
  obtain ⟨taken, parts⟩ := Matcher.exists_consumed cuts
  rw [parts] at cuts
  obtain ⟨rfl, -, ended⟩ := Matcher.takes_of_cut? cuts
  rcases List.append_eq_append_iff.mp parts with ⟨beyond, rfl, rfl⟩ |
    ⟨more, rfl, rfl⟩
  · have first : (consumed ++ beyond).head? = consumed.head? := by
      rw [List.head?_append, List.head?_eq_some_head moves, Option.some_or]
    have stops := stops_of_begins known wins (first ▸ begins)
    cases beyond with
    | nil =>
        rw [List.append_nil, cut?_keyword stops]
        rfl
    | cons char beyond =>
        have letter :=
          List.all_eq_true.mp (literalWords_continue _ reserved) char (by simp)
        have plain : char ∉ blankChars := by
          intro blank
          rw [isWordChar_blank char blank] at letter
          cases letter
        rw [same.head plain rfl, Option.any_some, letter] at stops
        cases stops
  · cases more with
    | nil =>
        rw [List.append_nil] at wins ⊢
        rw [cut?_keyword (stops_of_begins known wins begins)]
        rfl
    | cons char more =>
        have stops :
            (char :: more ++ remaining).head?.any Text.isWordChar = false :=
          ended
        rw [List.append_assoc, cut?_keyword stops]
        rfl

/-- A number with a fraction is there with the other characters only if it was
with the first ones. -/
theorem EndsAs.fraction (ends : EndsAs others remaining)
    (known : winner ∈ markupRules)
    (cut :
      cutFirst markupRules (consumed ++ remaining) =
        some (winner.label, text, remaining))
    (wins : winner.shape.cut? (consumed ++ remaining) = some (text, remaining))
    (moves : consumed ≠ [])
    (applies : (Matcher.cut? (.number true) (consumed ++ others)).isSome = true) :
    (Matcher.cut? (.number true) (consumed ++ remaining)).isSome = true := by
  obtain ⟨⟨found, left⟩, cuts⟩ := Option.isSome_iff_exists.mp applies
  obtain ⟨taken, parts⟩ := Matcher.exists_consumed cuts
  rw [parts] at cuts
  obtain ⟨-, ⟨whole, fraction, rfl, isWhole, isFraction⟩, -⟩ :=
    Matcher.takes_of_cut? cuts
  obtain ⟨first, digits, rfl, digit⟩ := isWhole.parts
  -- The winner begins with the same digit, so it is one of the two rules for
  -- numbers.
  have starts : consumed.head? = some first := by
    have head := congrArg List.head? parts
    rwa [List.head?_append, List.head?_eq_some_head moves, Option.some_or,
      ← List.head?_eq_some_head moves] at head
  obtain ⟨more, rfl⟩ := List.head?_eq_some_iff.mp starts
  have noName : beginsName first = false :=
    beginsName_eq_false first (List.mem_append_left _ (mem_digitChars digit))
  obtain ⟨fraction', shape⟩ :=
    (markupRules_firsts known (mem_firsts_of_cut? known noName wins)).2
      (mem_digitChars digit)
  cases fraction' with
  | true =>
      rw [← shape, wins]
      rfl
  | false =>
      have labels := markupRules_labels known
      rw [shape] at wins labels
      rw [List.mem_singleton.mp labels] at cut
      obtain ⟨-, integer, stops⟩ := Matcher.takes_of_cut? wins
      have dot : ('.' :: (fraction ++ left)).head?.any Text.isDigit = false := rfl
      have whole :=
        takeWhile_append_stop integer.all
          (ends.begins.stops isDigit_blank stops)
      have again := takeWhile_append_stop isWhole.all dot
      have regrouped : first :: more ++ others =
            first :: digits ++ '.' :: (fraction ++ left) := by
        rw [parts, List.append_assoc]
        rfl
      obtain rfl : others = '.' :: (fraction ++ left) := by
        rw [← whole.2, regrouped, again.2]
      obtain ⟨tail, rfl⟩ :=
        List.head?_eq_some_iff.mp (ends.begins.head (by decide) rfl)
      have undotted := undotted_of_cutFirst cut integer rfl
      have noDigit := ends.undotted tail (fraction ++ left) rfl rfl undotted
      obtain ⟨char, digits, rfl, isDigit⟩ := isFraction.parts
      rw [List.cons_append, List.head?_cons, Option.any_some, isDigit] at noDigit
      cases noDigit

/-- A rule that takes something with the other characters also did with the
first ones. -/
theorem EndsAs.applies (ends : EndsAs others remaining)
    (cut :
      cutFirst markupRules (consumed ++ remaining) =
        some (winner.label, text, remaining)) (known : winner ∈ markupRules)
    (wins : winner.shape.cut? (consumed ++ remaining) = some (text, remaining))
    (moves : consumed ≠ []) (member : rule ∈ markupRules)
    (applies : (rule.shape.cut? (consumed ++ others)).isSome = true) :
    (rule.shape.cut? (consumed ++ remaining)).isSome = true := by
  obtain ⟨first, more, rfl⟩ := List.exists_cons_of_ne_nil moves
  cases shape : rule.shape with
  | oneOf set =>
      rw [shape] at applies
      simpa [Matcher.cut?] using applies
  | literal mark =>
      rw [shape] at applies
      have look := markupRules_marks member
        (by rw [shape]; exact List.mem_singleton_self mark)
      have isPrefix : mark.isPrefixOf (first :: more ++ others) = true := by
        simpa [Matcher.cut?] using applies
      rw [Matcher.cut?, if_pos
        (ends.begins.isPrefixOf moves look.1 look.2 isPrefix)]
      rfl
  | keyword word =>
      rw [shape] at applies
      exact ends.begins.keyword moves known wins
        (keyword_mem_literalWords member shape) applies
  | comment opens opening =>
      rw [shape] at applies
      have look := markupRules_marks member
        (by rw [shape]; exact List.mem_singleton_self _)
      have isPrefix :
          (opens :: opening).isPrefixOf (first :: more ++ others) = true := by
        simpa [Matcher.cut?] using applies
      rw [Matcher.cut?, if_pos
        (ends.begins.isPrefixOf moves look.1 look.2 isPrefix)]
      rfl
  | quotedText =>
      rw [shape] at applies
      have quote : first ∈ quoteChars := by
        by_contra other
        have none : Matcher.quotedText.cut? (first :: more ++ others) = none :=
          if_neg (by simpa [quoteChars] using other)
        rw [none] at applies
        cases applies
      have noName : beginsName first = false :=
        beginsName_eq_false first (List.mem_append_right _ quote)
      rw [← (markupRules_firsts known (mem_firsts_of_cut? known noName wins)).1
        quote, wins]
      rfl
  | number fraction =>
      rw [shape] at applies
      cases fraction with
      | true => exact ends.fraction known cut wins moves applies
      | false => simpa [Matcher.cut?] using applies
  | identifier =>
      rw [shape] at applies
      simpa [Matcher.cut?] using applies

/-- A token is cut off in the same way with other characters behind it that end
it as well. -/
theorem cutFirst_endsAs
    (cut :
      cutFirst markupRules (consumed ++ remaining) =
        some (label, text, remaining)) (moves : consumed ≠ [])
    (kept : label ≠ .skip) (ends : EndsAs others remaining) :
    cutFirst markupRules (consumed ++ others) = some (label, text, others) := by
  have found := cut
  rw [cutFirst_markupRules] at found
  obtain ⟨before, winner, behind, rules, found, none⟩ :=
    List.findSome?_eq_some_iff.mp found
  obtain ⟨taken, wins, same⟩ := Option.map_eq_some_iff.mp found
  cases same
  have known : winner ∈ markupRules :=
    rules ▸ List.mem_append_right _ (List.mem_cons_self ..)
  have noComment : ∀ first opening, winner.shape ≠ .comment first opening := by
    intro first opening shape
    have labels := markupRules_labels known
    rw [shape, Matcher.labels] at labels
    split at labels
    · exact kept (List.mem_singleton.mp labels)
    · cases labels
  have takes := (Matcher.takes_of_cut? wins).beginsAs ends.begins noComment
  have earlier : before.findSome? (fun rule =>
      (rule.shape.cut? (consumed ++ others)).map fun taken =>
        (rule.label, taken)) = Option.none := by
    rw [List.findSome?_eq_none_iff]
    intro rule member
    have fails := Option.map_eq_none_iff.mp (none rule member)
    rw [Option.map_eq_none_iff, ← Option.not_isSome_iff_eq_none]
    intro applies
    have applied :=
      ends.applies cut known wins moves
        (rules ▸ List.mem_append_left _ member) applies
    rw [fails] at applied
    cases applied
  rw [cutFirst_markupRules, rules, List.findSome?_append, List.findSome?_cons,
    earlier, takes.cut?]
  rfl

end LiveMarkup
