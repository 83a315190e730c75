import LiveMarkup.Proofs.Lexing.Scans
import LiveMarkup.Proofs.Printing.Spelling

/-!
# Tokens are maximal

The tokens of a markup text and the gaps between them make up the whole text.  A
gap consists of blanks, line ends and line comments; the characters of a token
spell its value, and what stands behind them could not have been taken too.  If
a text has no token list, this holds of everything before the place where no
rule applies, and that much of the text has the same tokens when it stands
alone.
-/

namespace LiveMarkup

/-- The characters between tokens that are not in a comment. -/
def blankChars : List Char := [' ', '\t', '\r', '\n']

/-- The characters from an offset up to another are a line comment, and the line
ends there. -/
structure CommentAt (source : List Char) (first last : Nat) : Prop where
  opens : ∃ line, source.extract first last = '/' :: '/' :: line ∧ '\n' ∉ line
  ends : source[last]?.all (· == '\n') = true

/-- The kinds of tokens that are words. -/
def wordKinds : List TokenKind :=
  [.null, .boolean, .name, .component, .globalRef, .aliasRef, .signalName,
    .each, .using, .importModule, .importTop, .resource, .vec2]

/-- The marks that make another token with the mark behind them. -/
def jointMarks : List (Char × Char) :=
  [('!', '='), ('<', '='), ('>', '='), (':', '='), ('|', '|')]

/-- The value of a token of some kind, as its characters spell it. -/
inductive Spells : TokenKind → List Char → List Char → Prop where
  | plain {kind : TokenKind} (bare : kind ≠ .text) (chars : List Char) :
      Spells kind chars chars
  | quoted {quote : Char} (isQuote : quote ∈ quoteChars) {value : List Char}
      (shielded : Shielded quote value) :
      Spells .text value (quote :: value ++ [quote])

/-- The characters of a token could not be more, given what stands behind them. -/
structure Maximal (kind : TokenKind) (chars behind : List Char) : Prop where
  word : kind ∈ wordKinds → behind.head?.any Text.isWordChar = false
  integer : kind = .integer → behind.head?.any Text.isDigit = false ∧
    ∀ tail, behind = '.' :: tail → tail.head?.any Text.isDigit = false
  float : kind = .float → behind.head?.any Text.isDigit = false
  mark : ∀ joint ∈ jointMarks, chars = [joint.1] → behind.head? ≠ some joint.2

/-- Tokens that cut the characters from an offset up to another into pieces,
with gaps between them. -/
structure Segmentation (source : List Char) (first last : Nat)
    (tokens : List Token) : Prop where
  /-- No token is empty, and all lie in the range. -/
  within : ∀ token ∈ tokens,
      first ≤ token.span.start ∧ token.span.start < token.span.stop ∧
      token.span.stop ≤ last
  /-- A token begins where the ones before it end, or behind that. -/
  ordered :
      tokens.Pairwise fun earlier later => earlier.span.stop ≤ later.span.start
  /-- The source spells the values of the tokens. -/
  spelled : ∀ token ∈ tokens,
      Spells token.kind token.value.toList
        (source.extract token.span.start token.span.stop)
  /-- No token could be longer. -/
  maximal : ∀ token ∈ tokens,
    Maximal token.kind (source.extract token.span.start token.span.stop)
      (source.drop token.span.stop)
  /-- A character outside of all tokens is blank or in a comment, which is
  outside of them too. -/
  gaps : ∀ offset, first ≤ offset → offset < last →
    (∃ token ∈ tokens, token.span.start ≤ offset ∧ offset < token.span.stop) ∨
      source[offset]?.any (blankChars.contains ·) = true ∨
        ∃ start stop, start ≤ offset ∧ offset < stop ∧ first ≤ start ∧ stop ≤ last ∧
          CommentAt source start stop ∧
            ∀ token ∈ tokens, token.span.stop ≤ start ∨ stop ≤ token.span.start

/-! ## What the rules cut off -/

/-- The labels that go with a shape. -/
def Matcher.labels : Matcher → List RuleLabel
  | .oneOf set => if set.all (blankChars.contains ·) then [.skip] else []
  | .comment first opening =>
    if first == '/' && opening == ['/'] then [.skip] else []
  | .quotedText => [.fixed .text]
  | .number false => [.fixed .integer]
  | .number true => [.fixed .float]
  | .keyword _ => [.fixed .null, .fixed .boolean]
  | .literal _ => (.operator :: punctuation.map Prod.snd).map .fixed
  | .identifier => [.byName]

theorem markupRules_labels {rule : Rule} (member : rule ∈ markupRules) :
    rule.label ∈ rule.shape.labels := by
  have checked :
      markupRules.all (fun rule => rule.shape.labels.contains rule.label) =
        true := by
    rfl
  exact List.contains_iff_mem.mp (List.all_eq_true.mp checked rule member)

variable {behind consumed remaining text rest left taken kept source :
  List Char} {label : RuleLabel}
  {tokens : List Token} {first middle last : Nat}

/-- What is dropped is a blank or a comment to the end of its line. -/
theorem gap_of_cutFirst
    (cut :
      cutFirst markupRules (consumed ++ remaining) =
        some (label, text, remaining)) {before : Option Char}
    (dropped : label.kind? text before = none) :
    (∃ blank ∈ blankChars, consumed = [blank]) ∨
    (∃ line, consumed = '/' :: '/' :: line ∧ '\n' ∉ line) ∧
    remaining.head?.all (· == '\n') = true := by
  obtain ⟨rule, member, rfl, cuts⟩ := rule_of_cutFirst cut
  have labels := markupRules_labels member
  have takes := Matcher.takes_of_cut? cuts
  have skips : rule.label = .skip := by
    cases label : rule.label with
    | skip => rfl
    | fixed kind =>
      rw [label] at dropped
      cases dropped
    | byName =>
      rw [label] at dropped
      cases dropped
  rw [skips] at labels
  cases shape : rule.shape with
  | oneOf set =>
    rw [shape] at takes labels
    obtain ⟨char, isMember, rfl, -⟩ := takes
    simp only [Matcher.labels] at labels
    split at labels
    · next blank =>
      refine .inl ?_
      exact ⟨char, List.contains_iff_mem.mp
        (List.all_eq_true.mp blank char isMember), rfl⟩
    · cases labels
  | comment opens opening =>
    rw [shape] at takes labels
    obtain ⟨-, ⟨line, rfl, inLine⟩, ends⟩ := takes
    simp only [Matcher.labels] at labels
    split at labels
    · next slashes =>
      obtain ⟨rfl, rfl⟩ : opens = '/' ∧ opening = ['/'] := by simpa using slashes
      exact .inr ⟨⟨line, rfl, inLine⟩, ends⟩
    · cases labels
  | quotedText => simp [shape, Matcher.labels] at labels
  | number fraction => cases fraction <;> simp [shape, Matcher.labels] at labels
  | keyword word => simp [shape, Matcher.labels] at labels
  | literal mark => simp [shape, Matcher.labels] at labels
  | identifier => simp [shape, Matcher.labels] at labels

/-- Two marks that make one token are never taken apart. -/
theorem cutFirst_joint {joint : Char × Char} (member : joint ∈ jointMarks)
    (tail : List Char) :
    ∃ kind,
      cutFirst markupRules (joint.1 :: joint.2 :: tail) =
        some (.fixed kind, [joint.1, joint.2], tail) := by
  rw [cutFirst_markupRules]
  simp only [jointMarks, List.mem_cons, List.not_mem_nil, or_false] at member
  rcases member with rfl | rfl | rfl | rfl | rfl <;> exact ⟨_, rfl⟩

/-- A mark of one character is not cut off where a joint mark stands. -/
theorem mark_of_cutFirst
    (cut :
      cutFirst markupRules (consumed ++ remaining) =
        some (label, text, remaining)) :
    ∀ joint ∈ jointMarks,
      consumed = [joint.1] → remaining.head? ≠ some joint.2 := by
  rintro joint member rfl next
  cases remaining with
  | nil => cases next
  | cons char tail =>
    cases next
    obtain ⟨kind, both⟩ := cutFirst_joint member tail
    have same := Option.some.inj (cut.symm.trans both)
    have shorter :=
      congrArg (fun found : RuleLabel × List Char × List Char =>
        found.2.2.length) same
    simp at shorter

/-- Digits before a dot and another digit are not an integer. -/
theorem undotted_of_cutFirst
    (cut :
      cutFirst markupRules (consumed ++ remaining) =
        some (.fixed .integer, text, remaining)) (digits : IsDigits consumed)
    {tail : List Char} (dotted : remaining = '.' :: tail) :
    tail.head?.any Text.isDigit = false := by
  rw [Bool.eq_false_iff]
  intro digit
  subst dotted
  have fraction : IsDigits (tail.takeWhile Text.isDigit) := by
    refine ⟨?_, List.all_takeWhile⟩
    cases tail with
    | nil => cases digit
    | cons char tail =>
      rw [List.takeWhile_cons_of_pos (by simpa using digit)]
      exact List.cons_ne_nil _ _
  have float := cutFirst_float digits fraction (head?_dropWhile Text.isDigit tail)
  rw [List.append_assoc, List.cons_append, List.takeWhile_append_dropWhile, cut]
    at float
  cases float

theorem kindOfName_mem_wordKinds (name : List Char) (before : Option Char) :
    kindOfName name before ∈ wordKinds := by
  unfold kindOfName
  repeat' split
  all_goals decide

/-- A token is spelled by what is cut off, which could not be more. -/
theorem maximal_of_cutFirst
    (cut :
      cutFirst markupRules (consumed ++ remaining) =
        some (label, text, remaining)) {before : Option Char}
    {kind : TokenKind} (kept : label.kind? text before = some kind) :
    Spells kind text consumed ∧ Maximal kind consumed remaining := by
  have mark := mark_of_cutFirst cut
  obtain ⟨rule, member, rfl, cuts⟩ := rule_of_cutFirst cut
  have labels := markupRules_labels member
  have takes := Matcher.takes_of_cut? cuts
  have skips : rule.label ≠ .skip := by
    intro label
    rw [label] at kept
    cases kept
  cases shape : rule.shape with
  | oneOf set =>
    rw [shape] at labels
    simp only [Matcher.labels] at labels
    split at labels
    · exact absurd (List.mem_singleton.mp labels) skips
    · cases labels
  | comment opens opening =>
    rw [shape] at labels
    simp only [Matcher.labels] at labels
    split at labels
    · exact absurd (List.mem_singleton.mp labels) skips
    · cases labels
  | quotedText =>
    rw [shape] at labels takes
    rw [List.mem_singleton.mp labels] at kept
    cases kept
    obtain ⟨quote, isQuote, rfl, shielded⟩ := takes
    exact ⟨.quoted isQuote shielded, fun word => absurd word (by decide), nofun,
      nofun, mark⟩
  | number fraction =>
    rw [shape] at labels takes
    cases fraction with
    | false =>
      rw [List.mem_singleton.mp labels] at kept cut
      cases kept
      obtain ⟨rfl, digits, stops⟩ := takes
      exact ⟨.plain (by decide) _, fun word => absurd word (by decide),
        fun _ => ⟨stops, fun tail => undotted_of_cutFirst cut digits⟩, nofun, mark⟩
    | true =>
      rw [List.mem_singleton.mp labels] at kept
      cases kept
      obtain ⟨rfl, -, stops⟩ := takes
      exact ⟨.plain (by decide) _, fun word => absurd word (by decide), nofun,
        fun _ => stops, mark⟩
  | keyword word =>
    rw [shape] at labels takes
    obtain ⟨rfl, rfl, stops⟩ := takes
    simp only [Matcher.labels, List.mem_cons, List.not_mem_nil, or_false] at labels
    rcases labels with label | label <;>
    · rw [label] at kept
      cases kept
      exact ⟨.plain (by decide) _, fun _ => stops, nofun, nofun, mark⟩
  | literal literal =>
    rw [shape] at labels takes
    obtain ⟨rfl, rfl⟩ := takes
    obtain ⟨fixed, isMark, label⟩ := List.mem_map.mp labels
    rw [← label] at kept
    cases kept
    have apart : ∀ kind ∈ .operator :: punctuation.map Prod.snd,
        kind ≠ .text ∧ kind ∉ wordKinds ∧ kind ≠ .integer ∧ kind ≠ .float := by
      decide
    obtain ⟨bare, noWord, noInteger, noFloat⟩ := apart kind isMark
    exact ⟨.plain bare _, fun word => absurd word noWord,
      fun integer => absurd integer noInteger,
      fun float => absurd float noFloat, mark⟩
  | identifier =>
    rw [shape] at labels takes
    rw [List.mem_singleton.mp labels] at kept
    cases kept
    obtain ⟨rfl, -, stops⟩ := takes
    have apart :
        ∀ kind ∈ wordKinds, kind ≠ .text ∧ kind ≠ .integer ∧ kind ≠ .float := by
      decide
    obtain ⟨bare, noInteger, noFloat⟩ :=
      apart _ (kindOfName_mem_wordKinds text before)
    refine ⟨.plain bare _, fun _ => stops, ?_, ?_, mark⟩
    · intro integer
      exact absurd integer noInteger
    · intro float
      exact absurd float noFloat

/-! ## Segmentations grow -/

theorem segmentation_nil (source : List Char) (first : Nat) :
    Segmentation source first first [] where
  within := nofun
  ordered := .nil
  spelled := nofun
  maximal := nofun
  gaps _ lower upper := absurd upper (Nat.not_lt.mpr lower)

/-- Characters that are blank or in one comment may stand before the first token. -/
theorem Segmentation.afterGap
    (others : Segmentation source middle last tokens)
    (before : first ≤ middle) (upTo : middle ≤ last)
    (gap :
      (∀ offset,
        first ≤ offset → offset < middle →
        source[offset]?.any (blankChars.contains ·) = true) ∨
      CommentAt source first middle) :
    Segmentation source first last tokens where
  within token member :=
    ⟨Nat.le_trans before (others.within token member).1,
      (others.within token member).2⟩
  ordered := others.ordered
  spelled := others.spelled
  maximal := others.maximal
  gaps offset lower upper := by
    by_cases early : offset < middle
    · right
      rcases gap with blank | comment
      · exact .inl (blank offset lower early)
      · refine .inr ?_
        refine ⟨first, middle, lower, early, Nat.le_refl _, upTo, comment, ?_⟩
        intro token member
        exact .inr (others.within token member).1
    · refine (others.gaps offset (Nat.not_lt.mp early) upper).imp_right
        (.imp_right ?_)
      rintro ⟨start, stop, lower, upper, inside, rest⟩
      exact ⟨start, stop, lower, upper, Nat.le_trans before inside, rest⟩

/-- A token is put in front of a segmentation that begins where it ends. -/
theorem Segmentation.afterToken {token : Token}
    (others : Segmentation source token.span.stop last tokens)
    (start : token.span.start = first) (some : first < token.span.stop)
    (upTo : token.span.stop ≤ last)
    (spelled :
      Spells token.kind token.value.toList
        (source.extract token.span.start token.span.stop))
    (maximal :
      Maximal token.kind (source.extract token.span.start token.span.stop)
        (source.drop token.span.stop)) :
    Segmentation source first last (token :: tokens) where
  within other member := by
    rcases List.mem_cons.mp member with rfl | later
    · exact ⟨Nat.le_of_eq start.symm, start ▸ some, upTo⟩
    · exact ⟨Nat.le_trans (Nat.le_of_lt some) (others.within other later).1,
        (others.within other later).2⟩
  ordered :=
    .cons (fun other member => (others.within other member).1) others.ordered
  spelled other member := by
    rcases List.mem_cons.mp member with rfl | later
    · exact spelled
    · exact others.spelled other later
  maximal other member := by
    rcases List.mem_cons.mp member with rfl | later
    · exact maximal
    · exact others.maximal other later
  gaps offset lower upper := by
    by_cases early : offset < token.span.stop
    · exact .inl ⟨token, List.mem_cons_self .., start ▸ lower, early⟩
    · rcases others.gaps offset (Nat.not_lt.mp early) upper
        with ⟨other, member, inside⟩ | gap
      · exact .inl ⟨other, List.mem_cons_of_mem _ member, inside⟩
      · refine .inr (gap.imp_right ?_)
        rintro ⟨start, stop, lower, upper, inside, within, comment, apart⟩
        refine ⟨start, stop, lower, upper,
          Nat.le_trans (Nat.le_of_lt some) inside, within, comment, ?_⟩
        intro other member
        rcases List.mem_cons.mp member with rfl | later
        · exact .inl inside
        · exact apart other later

/-! ## Tokens of a text -/

theorem extract_consumed (behind consumed remaining : List Char) :
    (behind ++ (consumed ++ remaining)).extract behind.length
      (behind.length + consumed.length) = consumed := by
  rw [List.extract_eq_take_drop, List.drop_left, Nat.add_sub_cancel_left,
    List.take_left]

theorem drop_consumed (behind consumed remaining : List Char) :
    (behind ++ (consumed ++ remaining)).drop (behind.length + consumed.length) =
      remaining := by
  rw [← List.append_assoc, ← List.length_append, List.drop_left]

/-- What is dropped is a gap where it stands. -/
theorem gap_at_of_cutFirst
    (cut :
      cutFirst markupRules (consumed ++ remaining) =
        some (label, text, remaining)) {before : Option Char}
    (dropped : label.kind? text before = none) :
    (∀ offset,
      behind.length ≤ offset →
      offset < behind.length + consumed.length →
      (behind ++ (consumed ++ remaining))[offset]?.any (blankChars.contains ·) =
        true) ∨
    CommentAt (behind ++ (consumed ++ remaining)) behind.length
      (behind.length + consumed.length) := by
  rcases gap_of_cutFirst cut dropped with ⟨blank, isBlank, rfl⟩ | ⟨line, ends⟩
  · left
    intro offset lower upper
    cases Nat.le_antisymm (Nat.le_of_lt_succ upper) lower
    simpa using isBlank
  · right
    refine ⟨?_, ?_⟩
    · rw [extract_consumed]
      exact line
    · have here := drop_consumed behind consumed remaining
      rw [← List.head?_drop, here]
      exact ends

/-- The tokens that markup scans to are a segmentation. -/
theorem Scans.segmentation (scans : Scans markupRules behind rest tokens left)
    (parts : rest = taken ++ left) :
    Segmentation (behind ++ rest) behind.length (behind.length + taken.length)
      tokens := by
  induction scans generalizing taken with
  | stop behind left =>
    have empty : taken = [] :=
      List.append_cancel_right (show taken ++ left = [] ++ left from parts.symm)
    subst empty
    exact segmentation_nil _ _
  | @step behind consumed remaining left text label tokens cut moves others
      hypothesis =>
    obtain ⟨later, same⟩ := others.exists_taken
    have split : taken = consumed ++ later := by
      refine List.append_cancel_right
        (show taken ++ left = consumed ++ later ++ left from ?_)
      rw [← parts, same, List.append_assoc]
    have next := hypothesis same
    rw [List.length_append, List.append_assoc] at next
    have upTo : behind.length + consumed.length ≤ behind.length + taken.length := by
      rw [split, List.length_append]
      omega
    have ends : behind.length + consumed.length + later.length =
          behind.length + taken.length := by
      rw [split, List.length_append, Nat.add_assoc]
    rw [ends] at next
    cases kept : label.kind? text behind.getLast? with
    | none =>
      exact next.afterGap (Nat.le_add_right _ _) upTo
        (gap_at_of_cutFirst cut kept)
    | some kind =>
      obtain ⟨spells, maximal⟩ := maximal_of_cutFirst cut kept
      have longer : behind.length < behind.length + consumed.length :=
        Nat.lt_add_of_pos_right (List.length_pos_iff.mpr moves)
      change Segmentation _ _ _ (tokenBehind behind consumed text kind :: _)
      refine Segmentation.afterToken next rfl longer upTo ?_ ?_
      · simpa only [tokenBehind, String.toList_ofList, extract_consumed]
          using spells
      · simpa only [tokenBehind, extract_consumed, drop_consumed] using maximal

/-! ## Cutting a text short -/

/-- The words of the rules for words are the reserved ones. -/
theorem keyword_mem_literalWords {rule : Rule} (member : rule ∈ markupRules)
    {word : List Char} (shape : rule.shape = .keyword word) :
    word ∈ literalWords := by
  have checked : markupRules.all (fun rule => match rule.shape with
      | .keyword word => literalWords.contains word
      | _ => true) = true := by
    rfl
  have reserved := List.all_eq_true.mp checked rule member
  rw [shape] at reserved
  simpa using reserved

/-- A shape that begins like a name is the one of names or one of the reserved
words. -/
theorem word_of_cut? {rule : Rule} {char : Char} (member : rule ∈ markupRules)
    (begins : beginsName char = true)
    (cut : rule.shape.cut? (char :: rest) = some (text, remaining)) :
    rule.shape = .identifier ∨
    ∃ word ∈ literalWords, rule.shape = .keyword word := by
  rw [markupRules_eq, List.mem_append, List.mem_singleton] at member
  rcases member with before | rfl
  · obtain ⟨plain, reserved | apart⟩ := beginsName_firsts rule before
    · exact .inr reserved
    · have known := mem_markupRules before
      have none := Matcher.cut?_of_not_mem_firsts
        (markupRules_substantial rule known) plain
        (fun starts => by rw [apart char starts] at begins; cases begins) rest
      rw [none] at cut
      cases cut
  · exact .inl rfl

/-- Where the rules cut off something, no reserved word begins that the text is
too short for. -/
theorem cut_word
    (cut :
      cutFirst markupRules (consumed ++ (kept ++ left)) =
        some (label, text, kept ++ left)) (moves : consumed ≠ [])
    (word : consumed ++ kept ∈ literalWords) :
    left.head?.any Text.isWordChar = false := by
  obtain ⟨rule, member, -, cuts⟩ := rule_of_cutFirst cut
  have takes := Matcher.takes_of_cut? cuts
  have letters := literalWords_continue _ word
  rw [List.all_append, Bool.and_eq_true] at letters
  have begins : ∀ word ∈ literalWords, word.head?.any beginsName = true := by decide
  have first := begins _ word
  cases consumed with
  | nil => exact absurd rfl moves
  | cons char consumed =>
    have stops : (kept ++ left).head?.any Text.isWordChar = false := by
      rcases word_of_cut? member first cuts with names | ⟨other, -, reserved⟩
      · rw [names] at takes
        exact takes.2.2
      · rw [reserved] at takes
        exact takes.2.2
    cases kept with
    | nil => exact stops
    | cons next kept =>
      have goesOn : Text.isWordChar next = true :=
        List.all_eq_true.mp letters.2 next (List.mem_cons_self ..)
      have ends : Text.isWordChar next = false := stops
      rw [goesOn] at ends
      cases ends

/-- The rules cut off the same when the text ends earlier behind it. -/
theorem cutFirst_cutShort (cut : cutFirst markupRules (consumed ++ (kept ++ left)) =
      some (label, text, kept ++ left)) (moves : consumed ≠ []) :
    cutFirst markupRules (consumed ++ kept) = some (label, text, kept) := by
  have atWord := cut_word cut moves
  rw [cutFirst_markupRules] at cut
  obtain ⟨before, rule, behind, rules, found, none⟩ :=
    List.findSome?_eq_some_iff.mp cut
  obtain ⟨taken, cuts, same⟩ := Option.map_eq_some_iff.mp found
  cases same
  have takes := (Matcher.takes_of_cut? cuts).cutShort
  rw [cutFirst_markupRules, rules, List.findSome?_append,
    List.findSome?_cons, takes.cut?]
  -- A rule that is tried before applies to the whole text if it does to the
  -- beginning.
  have earlier : before.findSome? (fun rule =>
      (rule.shape.cut? (consumed ++ kept)).map fun taken =>
        (rule.label, taken)) = Option.none := by
    rw [List.findSome?_eq_none_iff]
    intro rule member
    have fails := Option.map_eq_none_iff.mp (none rule member)
    rw [Option.map_eq_none_iff, Option.eq_none_iff_forall_not_mem]
    rintro ⟨text, remaining⟩ cuts
    obtain ⟨taken, parts⟩ := Matcher.exists_consumed cuts
    rw [parts] at cuts
    have takes := Matcher.takes_of_cut? cuts
    have whole : consumed ++ (kept ++ left) = taken ++ (remaining ++ left) := by
      rw [← List.append_assoc, parts, List.append_assoc]
    rw [whole] at fails
    cases remaining with
    | cons char remaining =>
      have further : rule.shape.Takes text taken (char :: remaining ++ left) :=
        takes.sameNext rfl
      rw [further.cut?] at fails
      cases fails
    | nil =>
      rcases takes.goesOn left with some | ⟨word, shape, rfl, goesOn⟩
      · rw [List.nil_append] at fails
        rw [fails] at some
        cases some
      · have reserved : taken ∈ literalWords :=
          keyword_mem_literalWords (rules ▸ List.mem_append_left _ member) shape
        rw [List.append_nil] at parts
        rw [atWord (parts ▸ reserved)] at goesOn
        cases goesOn
  rw [earlier]
  rfl

/-- Markup that can be cut off up to some place can be cut off when it ends
there. -/
theorem Scans.cutShort (scans : Scans markupRules behind rest tokens left)
    (parts : rest = taken ++ left) : Scans markupRules behind taken tokens [] := by
  induction scans generalizing taken with
  | stop behind left =>
    have empty : taken = [] :=
      List.append_cancel_right (show taken ++ left = [] ++ left from parts.symm)
    subst empty
    exact .stop behind []
  | @step behind consumed remaining left text label tokens cut moves others
      hypothesis =>
    obtain ⟨later, same⟩ := others.exists_taken
    have split : taken = consumed ++ later := by
      refine List.append_cancel_right
        (show taken ++ left = consumed ++ later ++ left from ?_)
      rw [← parts, same, List.append_assoc]
    subst split same
    exact .step (cutFirst_cutShort cut moves) moves (hypothesis rfl)

/-! ## Tokens of a source text -/

/-- Where the rules cut off nothing, none of them matches. -/
theorem run_eq_none {source : String} {char : Char}
    (parts : source.toList = taken ++ char :: left)
    (stuck : cutFirst markupRules (char :: left) = none) {rule : Rule}
    (member : rule ∈ markupRules) :
    (rule.shape.run ((Cursor.ofString source).moveTo taken.length)).1 =
      none := by
  have splits :
      ((Cursor.ofString source).moveTo taken.length).Splits taken
        (char :: left) :=
    ⟨(Cursor.splits_ofString source).source.trans parts, rfl⟩
  rw [cutFirst_markupRules, List.findSome?_eq_none_iff] at stuck
  rw [(rule.shape.answers splits).text,
    Option.map_eq_none_iff.mp (stuck rule member)]
  rfl

/-- The tokens of a markup text are maximal pieces of it with gaps between them,
up to the end of the text.  If there is a character that no rule matches, the
same holds of the text before the first such character, whose tokens are these;
and the error names that character and its position. -/
theorem tokenize_segmentation (source : String) :
    match tokenize markupRules source with
    | .ok tokens => ∃ pieces, tokens = pieces ++ [endToken source.toList] ∧
        Segmentation source.toList 0 source.toList.length pieces
    | .error error =>
      ∃ place pieces, source.toList[place]? = some error.char ∧
          error.position = exactPosition source.toList place ∧
          Segmentation source.toList 0 place pieces ∧
          tokenize markupRules (String.ofList (source.toList.take place)) =
          .ok (pieces ++ [endToken (source.toList.take place)]) ∧
          ∀ rule ∈ markupRules,
          (rule.shape.run ((Cursor.ofString source).moveTo place)).1 =
          none := by
  rcases scans_of_tokenize markupRules source with ⟨tokens, scans, found⟩ |
    ⟨tokens, taken, char, left, scans, parts, stuck, failed⟩
  · rw [found]
    refine ⟨tokens, rfl, ?_⟩
    simpa using scans.segmentation (List.append_nil source.toList).symm
  · rw [failed]
    have upTo : source.toList.take taken.length = taken := by
      rw [parts, List.take_left]
    have alone : Scans markupRules [] (String.ofList taken).toList tokens [] := by
      rw [String.toList_ofList]
      exact scans.cutShort parts
    refine ⟨taken.length, tokens, by simp [parts], ?_, ?_, ?_,
      fun rule => run_eq_none parts stuck⟩
    · rw [parts, exactPosition_append]
    · simpa using scans.segmentation parts
    · rw [upTo, alone.tokenize, String.toList_ofList]

end LiveMarkup
