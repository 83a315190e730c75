import Mathlib.Tactic.Tauto
import LiveMarkup.Proofs.Text.SnakeCase
import LiveMarkup.Text.Letters

/-!
# Identifiers in both spellings

An identifier with underscores consists of words of small letters and digits;
one with inner capitals begins with a capital.  The two spellings of
`LiveMarkup.Text.KeyCase` carry the identifiers of one kind to those of the
other and back.

Both conversions go through a text once.  A word that `joinWords` has
capitalised is what `splitWords` parts from the word before it, whatever stands
behind; so the proofs go word by word in one direction and capital by capital in
the other.
-/

namespace LiveMarkup.Text

/-- A small letter of ASCII. -/
def isSmallLetter (char : Char) : Bool :=
  'a' ≤ char && char ≤ 'z'

/-- A capital letter of ASCII. -/
def isCapitalLetter (char : Char) : Bool :=
  'A' ≤ char && char ≤ 'Z'

/-- A character inside of a word. -/
def isWordLetter (char : Char) : Bool :=
  isSmallLetter char || isDigit char

/-- Words joined by single underscores, each a small letter with small letters
and digits behind it. -/
inductive JoinedWords : List Char → Prop where
  | word {first : Char} {rest : List Char} (small : isSmallLetter first = true)
      (others : ∀ char ∈ rest, isWordLetter char = true) :
      JoinedWords (first :: rest)
  | join {first : Char} {rest words : List Char}
      (small : isSmallLetter first = true)
      (others : ∀ char ∈ rest, isWordLetter char = true)
      (joined : JoinedWords words) :
      JoinedWords (first :: rest ++ '_' :: words)

/-- An identifier with underscores. -/
def IsSnakeName (text : String) : Prop := JoinedWords text.toList

/-- A capital letter with letters and digits behind it. -/
def isCapitalised : List Char → Bool
  | [] => false
  | first :: rest =>
    isCapitalLetter first && rest.all fun char => isAsciiLetter char ||
      isDigit char

/-- An identifier with inner capitals. -/
def IsPascalName (text : String) : Prop := isCapitalised text.toList = true

/-! ## Characters -/

/-- What a claim about the codes of ASCII says of a character. -/
theorem ascii_cases (claim : Char → Prop)
    (all : ∀ code < 128, claim (Char.ofNat code)) {char : Char}
    (ascii : char.toNat < 128) : claim char := by
  have same : Char.ofNat char.toNat = char := Char.ofNat_toNat char
  exact same ▸ all char.toNat ascii

theorem toNat_lt_of_le {char last : Char} (least : char ≤ last)
    (ascii : last.toNat < 128) : char.toNat < 128 :=
  Nat.lt_of_le_of_lt least ascii

theorem isSmallLetter_ascii {char : Char} (small : isSmallLetter char = true) :
    char.toNat < 128 := by
  simp only [isSmallLetter, Bool.and_eq_true, decide_eq_true_eq] at small
  exact toNat_lt_of_le small.2 (by decide)

theorem isCapitalLetter_ascii {char : Char}
    (capital : isCapitalLetter char = true) : char.toNat < 128 := by
  simp only [isCapitalLetter, Bool.and_eq_true, decide_eq_true_eq] at capital
  exact toNat_lt_of_le capital.2 (by decide)

theorem isDigit_ascii {char : Char} (digit : isDigit char = true) :
    char.toNat < 128 := by
  simp only [isDigit, Bool.and_eq_true, decide_eq_true_eq] at digit
  exact toNat_lt_of_le digit.2 (by decide)

/-- A letter that begins words, with its capital. -/
structure Capitalises (small capital : Char) : Prop where
  isSmall : isSmallLetter small = true
  isLarge : isCapitalLetter capital = true
  capitals : capitals small = [capital]
  smalls : smalls capital = [small]
  isCapital : isCapital capital = true

theorem capitalises_toUpper {char : Char} (small : isSmallLetter char = true) :
    Capitalises char char.toUpper := by
  obtain ⟨isLarge, capitals, smalls, isCapital⟩ :=
    ascii_cases (fun char => isSmallLetter char = true →
      isCapitalLetter char.toUpper = true ∧ capitals char = [char.toUpper] ∧
      smalls char.toUpper = [char] ∧ isCapital char.toUpper = true) (by decide)
      (isSmallLetter_ascii small) small
  exact ⟨small, isLarge, capitals, smalls, isCapital⟩

theorem capitalises_toLower {char : Char} (large : isCapitalLetter char = true) :
    Capitalises char.toLower char := by
  obtain ⟨isSmall, capitals, smalls, isCapital⟩ :=
    ascii_cases (fun char => isCapitalLetter char = true →
      isSmallLetter char.toLower = true ∧ capitals char.toLower = [char] ∧
      smalls char = [char.toLower] ∧ isCapital char = true) (by decide)
      (isCapitalLetter_ascii large) large
  exact ⟨isSmall, large, capitals, smalls, isCapital⟩

/-- What is true of the characters that neither conversion changes. -/
structure IsPlain (char : Char) : Prop where
  small : isCapital char = false
  noUnderscore : char ≠ '_'
  noHyphen : char ≠ '-'

theorem isPlain_of_isWordLetter {char : Char}
    (letter : isWordLetter char = true) : IsPlain char := by
  have ascii : char.toNat < 128 := by
    rcases (Bool.or_eq_true _ _).mp letter with small | digit
    · exact isSmallLetter_ascii small
    · exact isDigit_ascii digit
  obtain ⟨small, noUnderscore, noHyphen⟩ :=
    ascii_cases (fun char => isWordLetter char = true →
      isCapital char = false ∧ char ≠ '_' ∧ char ≠ '-') (by decide) ascii letter
  exact ⟨small, noUnderscore, noHyphen⟩

theorem isWordLetter_of_isSmallLetter {char : Char}
    (small : isSmallLetter char = true) : isWordLetter char = true :=
  (Bool.or_eq_true _ _).mpr (.inl small)

theorem isLetter_of_isWordLetter {char : Char} (letter : isWordLetter char = true) :
    (isAsciiLetter char || isDigit char) = true := by
  simp only [isWordLetter, isSmallLetter, isAsciiLetter, Bool.or_eq_true]
    at letter ⊢
  exact letter.imp .inl id

namespace Capitalises

variable {small capital : Char} (pair : Capitalises small capital)
include pair

theorem isPlain : IsPlain small :=
  isPlain_of_isWordLetter (isWordLetter_of_isSmallLetter pair.isSmall)

theorem capital_noHyphen : capital ≠ '-' := by
  rintro rfl
  exact absurd pair.isLarge (by decide)

/-- A word is written with a capital where one begins. -/
theorem joinWords_cons (rest : List Char) :
    joinWords true (small :: rest) = capital :: joinWords false rest := by
  simp [joinWords, pair.isPlain.noUnderscore, pair.isPlain.noHyphen, pair.capitals]

/-- A text that begins with a capital begins with a word. -/
theorem splitWords_cons_none (rest : List Char) :
    splitWords none (capital :: rest) = small :: splitWords (some small) rest := by
  simp [splitWords, pair.capital_noHyphen, pair.isCapital, pair.smalls]

/-- A capital that stands behind a letter begins another word. -/
theorem splitWords_cons_some {last : Char} (letter : last ≠ '_')
    (rest : List Char) :
    splitWords (some last) (capital :: rest) =
      '_' :: small :: splitWords (some small) rest := by
  simp [splitWords, pair.capital_noHyphen, pair.isCapital, pair.smalls, letter]

end Capitalises

/-! ## From words to capitals and back -/

/-- Letters are joined as they are. -/
theorem joinWords_letters {letters : List Char}
    (plain : ∀ char ∈ letters, isWordLetter char = true) (rest : List Char) :
    joinWords false (letters ++ rest) = letters ++ joinWords false rest := by
  induction letters with
  | nil => rfl
  | cons char letters induction =>
    obtain ⟨letter, others⟩ := List.forall_mem_cons.mp plain
    have charPlain := isPlain_of_isWordLetter letter
    simp [joinWords, charPlain.noUnderscore, charPlain.noHyphen, induction others]

/-- Letters inside of a word are kept, and what stands behind them stands behind
a letter. -/
theorem splitWords_letters {letters : List Char}
    (plain : ∀ char ∈ letters, isWordLetter char = true) {last : Char}
    (letter : last ≠ '_') (rest : List Char) :
    ∃ final,
      final ≠ '_' ∧
      splitWords (some last) (letters ++ rest) =
        letters ++ splitWords (some final) rest := by
  induction letters generalizing last with
  | nil => exact ⟨last, letter, rfl⟩
  | cons char letters induction =>
    obtain ⟨here, others⟩ := List.forall_mem_cons.mp plain
    have charPlain := isPlain_of_isWordLetter here
    obtain ⟨final, differs, kept⟩ := induction others charPlain.noUnderscore
    refine ⟨final, differs, ?_⟩
    simp [splitWords, charPlain.noHyphen, charPlain.small, kept]

/-- Joined words begin with a capital and are parted again, behind a letter by
an underscore. -/
structure Parted (text joined : List Char) : Prop where
  capitalised : isCapitalised joined = true
  alone : splitWords none joined = text
  behind : ∀ last, last ≠ '_' → splitWords (some last) joined = '_' :: text

theorem all_letters {letters : List Char}
    (plain : ∀ char ∈ letters, isWordLetter char = true) :
    (letters.all fun char => isAsciiLetter char || isDigit char) = true := by
  refine List.all_eq_true.mpr ?_
  intro char member
  exact isLetter_of_isWordLetter (plain char member)

theorem isCapitalised_all {text : List Char}
    (capitalised : isCapitalised text = true) :
    (text.all fun char => isAsciiLetter char || isDigit char) = true := by
  cases text with
  | nil => rfl
  | cons first rest =>
    simp only [isCapitalised, Bool.and_eq_true] at capitalised
    have letter : isAsciiLetter first = true :=
      (Bool.or_eq_true _ _).mpr (.inr capitalised.1)
    rw [List.all_cons, letter, capitalised.2]
    rfl

/-- Joined words can be told apart by their capitals again. -/
theorem JoinedWords.parted {text : List Char} (joined : JoinedWords text) :
    Parted text (joinWords true text) := by
  induction joined with
  | @word first rest small others =>
    have pair := capitalises_toUpper small
    have written : joinWords false rest = rest := by
      simpa [joinWords] using joinWords_letters others []
    have kept : splitWords (some first) rest = rest := by
      obtain ⟨final, _, kept⟩ :=
        splitWords_letters others pair.isPlain.noUnderscore []
      simpa [splitWords] using kept
    rw [pair.joinWords_cons, written]
    refine ⟨?_, ?_, fun last letter => ?_⟩
    · simp [isCapitalised, pair.isLarge, all_letters others]
    · rw [pair.splitWords_cons_none, kept]
    · rw [pair.splitWords_cons_some letter, kept]
  | @join first rest words small others _ induction =>
    have pair := capitalises_toUpper small
    have written : joinWords false (rest ++ '_' :: words) =
          rest ++ joinWords true words := by
      rw [joinWords_letters others]
      rfl
    have kept : splitWords (some first) (rest ++ joinWords true words) =
          rest ++ '_' :: words := by
      obtain ⟨final, letter, kept⟩ :=
        splitWords_letters others pair.isPlain.noUnderscore (joinWords true words)
      rw [kept, induction.behind final letter]
    rw [List.cons_append, pair.joinWords_cons, written]
    refine ⟨?_, ?_, fun last letter => ?_⟩
    · simp only [isCapitalised, pair.isLarge, List.all_append, all_letters others,
        isCapitalised_all induction.capitalised, Bool.and_self]
    · rw [pair.splitWords_cons_none, kept]
    · rw [pair.splitWords_cons_some letter, kept]

/-! ## From capitals to words and back -/

/-- What may stand behind the first letter of joined words. -/
inductive BehindLetter : List Char → Prop where
  | letters {rest : List Char}
      (others : ∀ char ∈ rest, isWordLetter char = true) :
      BehindLetter rest
  | words {rest words : List Char}
      (others : ∀ char ∈ rest, isWordLetter char = true)
      (joined : JoinedWords words) :
      BehindLetter (rest ++ '_' :: words)

theorem JoinedWords.cons {first : Char} {rest : List Char}
    (small : isSmallLetter first = true) (behind : BehindLetter rest) :
    JoinedWords (first :: rest) := by
  cases behind with
  | letters others => exact .word small others
  | words others joined => exact .join small others joined

theorem BehindLetter.cons {char : Char} {rest : List Char}
    (letter : isWordLetter char = true) (behind : BehindLetter rest) :
    BehindLetter (char :: rest) := by
  cases behind with
  | letters others => exact .letters (List.forall_mem_cons.mpr ⟨letter, others⟩)
  | words others joined =>
    exact .words (List.forall_mem_cons.mpr ⟨letter, others⟩) joined

/-- Letters and digits are parted before each capital and joined again. -/
theorem splitWords_behindLetter {text : List Char}
    (letters : (text.all fun char => isAsciiLetter char || isDigit char) = true)
    {last : Char} (letter : last ≠ '_') :
    BehindLetter (splitWords (some last) text) ∧
    joinWords false (splitWords (some last) text) = text := by
  induction text generalizing last with
  | nil => exact ⟨.letters nofun, rfl⟩
  | cons char text induction =>
    rw [List.all_cons, Bool.and_eq_true] at letters
    by_cases large : isCapitalLetter char = true
    · have pair := capitalises_toLower large
      obtain ⟨behind, rejoined⟩ := induction letters.2 pair.isPlain.noUnderscore
      rw [pair.splitWords_cons_some letter]
      refine ⟨.words (List.forall_mem_nil _) (.cons pair.isSmall behind), ?_⟩
      calc joinWords false
            ('_' :: char.toLower :: splitWords (some char.toLower) text)
          = joinWords true
              (char.toLower :: splitWords (some char.toLower) text) := rfl
        _ = char :: text := by rw [pair.joinWords_cons, rejoined]
    · have inside : isWordLetter char = true := by
        have either := letters.1
        simp only [isAsciiLetter, isWordLetter, isSmallLetter, isCapitalLetter,
          Bool.or_eq_true] at *
        tauto
      have plain := isPlain_of_isWordLetter inside
      obtain ⟨behind, rejoined⟩ := induction letters.2 plain.noUnderscore
      have kept : splitWords (some last) (char :: text) =
            char :: splitWords (some char) text := by
        simp [splitWords, plain.noHyphen, plain.small]
      rw [kept]
      refine ⟨behind.cons inside, ?_⟩
      simp [joinWords, plain.noUnderscore, plain.noHyphen, rejoined]

/-! ## Identifiers -/

variable {text : String}

/-- An identifier with underscores gets inner capitals. -/
theorem IsSnakeName.pascalCase (snake : IsSnakeName text) :
    IsPascalName (pascalCase text) := by
  rw [IsPascalName, Text.pascalCase, String.toList_ofList]
  exact (JoinedWords.parted snake).capitalised

/-- It has its underscores again when they are put before the capitals. -/
theorem IsSnakeName.snakeCase_pascalCase (snake : IsSnakeName text) :
    snakeCase (Text.pascalCase text) = text := by
  rw [snakeCase, Text.pascalCase, String.toList_ofList,
    (JoinedWords.parted snake).alone, String.ofList_toList]

theorem IsPascalName.joinedWords (pascal : IsPascalName text) :
    JoinedWords (splitWords none text.toList) ∧
      joinWords true (splitWords none text.toList) = text.toList := by
  unfold IsPascalName at pascal
  cases spelled : text.toList with
  | nil =>
    rw [spelled] at pascal
    cases pascal
  | cons first rest =>
    rw [spelled] at pascal
    simp only [isCapitalised, Bool.and_eq_true] at pascal
    have pair := capitalises_toLower pascal.1
    obtain ⟨behind, rejoined⟩ :=
      splitWords_behindLetter pascal.2 pair.isPlain.noUnderscore
    rw [pair.splitWords_cons_none, pair.joinWords_cons, rejoined]
    exact ⟨.cons pair.isSmall behind, rfl⟩

/-- An identifier with inner capitals gets underscores. -/
theorem IsPascalName.snakeCase (pascal : IsPascalName text) :
    IsSnakeName (snakeCase text) := by
  rw [IsSnakeName, Text.snakeCase, String.toList_ofList]
  exact pascal.joinedWords.1

/-- It has its capitals again when the words are joined. -/
theorem IsPascalName.pascalCase_snakeCase (pascal : IsPascalName text) :
    Text.pascalCase (Text.snakeCase text) = text := by
  rw [Text.pascalCase, Text.snakeCase, String.toList_ofList, pascal.joinedWords.2,
    String.ofList_toList]

/-- Different identifiers with underscores have different capitalised spellings. -/
theorem IsSnakeName.eq_of_pascalCase_eq {other : String}
    (snake : IsSnakeName text) (otherSnake : IsSnakeName other)
    (same : Text.pascalCase text = Text.pascalCase other) : text = other := by
  rw [← snake.snakeCase_pascalCase, same, otherSnake.snakeCase_pascalCase]

/-- An identifier with underscores is its own underscored spelling. -/
theorem IsSnakeName.snakeCase_eq (snake : IsSnakeName text) :
    Text.snakeCase text = text := by
  have stable := snakeCase_snakeCase (Text.pascalCase text)
  rwa [snake.snakeCase_pascalCase] at stable

/-- Whether a text comes back from its capitalised spelling. -/
def comesBack (text : String) : Bool :=
  isCapitalised (pascalCase text).toList && snakeCase (pascalCase text) == text

/-- The texts that come back are the identifiers with underscores. -/
theorem comesBack_iff : comesBack text = true ↔ IsSnakeName text := by
  rw [comesBack, Bool.and_eq_true, beq_iff_eq]
  constructor
  · rintro ⟨pascal, same⟩
    have snake := IsPascalName.snakeCase pascal
    rwa [same] at snake
  · intro snake
    exact ⟨snake.pascalCase, snake.snakeCase_pascalCase⟩

instance : Decidable (IsSnakeName text) := decidable_of_iff _ comesBack_iff

instance : Decidable (IsPascalName text) := inferInstanceAs (Decidable (_ = true))

end LiveMarkup.Text
