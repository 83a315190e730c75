import LiveMarkup.Proofs.Parsing.DocumentSteps

/-!
# What parsers keep to on a token list

A stream of a token list stands at an index of it: the token there comes next,
and the offset that is known as the end of what was read is that of the token
before.  A parser keeps to a contract on such a stream if it goes on to a later
index or reports a token of the list.

Two parsers that meet a contract together keep to it and do the same.  There is
a rule for each elementary parser and for what follows it.
-/

namespace LiveMarkup

/-- Some token of a list is at a position. -/
def Located (tokens : List Token) (position : Position) : Prop :=
  ∃ token ∈ tokens, token.span.position = position

/-- A cause that a parser gives for a token that it cannot use.  The depth of
nesting is no such cause. -/
def ParseError.Cause.Grammatical : ParseError.Cause → Prop
  | .unexpectedCharacter _ | .nestedTooDeep => False
  | _ => True

namespace TokenStream

/-- A stream reads a token list from an index on, up to a token for the end of
the input. -/
structure StandsAt (tokens : List Token) (index : Nat) (stream : TokenStream) :
    Prop where
  place : tokens.drop index = stream.upcoming ++ [stream.final]
  lastStop : stream.lastStop = stopAfter 0 (tokens.take index)
  ends : stream.final.kind = .endOfInput

/-- A stream reads a token list from some index on. -/
def Stands (tokens : List Token) (stream : TokenStream) : Prop :=
  ∃ index, stream.StandsAt tokens index

variable {tokens : List Token} {index : Nat} {stream : TokenStream}

/-- A token list that ends with the end of the input is read from its beginning. -/
theorem standsAt_ofTokens {pieces : List Token} {final : Token}
    (ends : final.kind = .endOfInput) :
    (ofTokens (pieces ++ [final])).StandsAt (pieces ++ [final]) 0 := by
  refine ⟨?_, rfl, ?_⟩
  · simp [ofTokens]
  · simpa [ofTokens] using ends

namespace StandsAt

/-- The token at the index comes next. -/
theorem head (stands : stream.StandsAt tokens index) :
    tokens[index]? = some stream.head := by
  have first := congrArg List.head? stands.place
  rw [List.head?_drop] at first
  rw [first, TokenStream.head]
  cases stream.upcoming <;> rfl

theorem length (stands : stream.StandsAt tokens index) :
    index + stream.upcoming.length + 1 = tokens.length := by
  have same := congrArg List.length stands.place
  rw [List.length_drop, List.length_append, List.length_singleton] at same
  omega

/-- The end of what was read is the end of the token before the index. -/
theorem stop_before (stands : stream.StandsAt tokens (index + 1)) :
    tokens[index]?.map (·.span.stop) = some stream.lastStop := by
  have before : index < tokens.length := by
    have same := stands.length
    omega
  rw [stands.lastStop, List.take_add_one, List.getElem?_eq_getElem before,
    stopAfter_append]
  rfl

/-- Taking a token moves to the next index. -/
theorem tail (stands : stream.StandsAt tokens index)
    (further : stream.head.kind ≠ .endOfInput) :
    stream.tail.StandsAt tokens (index + 1) := by
  obtain ⟨remaining, upcoming, passed⟩ := exists_upcoming stands.ends further
  refine ⟨?_, ?_, ?_⟩
  · have next := congrArg List.tail stands.place
    rw [List.tail_drop, upcoming] at next
    rw [next, passed]
    rfl
  · rw [passed, pass_lastStop, stands.lastStop, List.take_add_one, stands.head,
      stopAfter_append]
    rfl
  · rw [passed]
    exact stands.ends

end StandsAt

namespace Stands

theorem located (stands : stream.Stands tokens) :
    Located tokens stream.head.span.position := by
  obtain ⟨index, stands⟩ := stands
  exact ⟨stream.head, List.mem_of_getElem? stands.head, rfl⟩

/-- Taking a token that is not the end of the input leaves one token less. -/
theorem tail (stands : stream.Stands tokens)
    (further : stream.head.kind ≠ .endOfInput) :
    stream.tail.Stands tokens ∧
    stream.tail.upcoming.length + 1 = stream.upcoming.length := by
  obtain ⟨index, stands⟩ := stands
  have behind := stands.tail further
  have before := stands.length
  have after := behind.length
  exact ⟨⟨index + 1, behind⟩, by omega⟩

theorem declare (stands : stream.Stands tokens) (names : List String) :
    (stream.declare names).Stands tokens := by
  obtain ⟨index, place, lastStop, ends⟩ := stands
  exact ⟨index, place, lastStop, ends⟩

theorem ends (stands : stream.Stands tokens) : stream.final.kind = .endOfInput := by
  obtain ⟨index, stands⟩ := stands
  exact stands.ends

end Stands

end TokenStream

namespace Parser

/-- An outcome on a token list: a value with a stream that has fewer tokens than
`limit`, or an error at a token. -/
inductive Within {α : Type} (tokens : List Token) (gives : α → Prop) (limit : Nat) :
    Except ParseError (α × TokenStream) → Prop where
  | read {value : α} {rest : TokenStream} (stands : rest.Stands tokens)
      (given : gives value) (fewer : rest.upcoming.length < limit) :
      Within tokens gives limit (.ok (value, rest))
  | refused {error : ParseError} (cause : error.cause.Grammatical)
      (located : Located tokens error.position) :
      Within tokens gives limit (.error error)

/-- A contract may be widened to a larger bound and to a weaker property of the
result. -/
theorem Within.mono {α : Type} {tokens : List Token} {gives keeps : α → Prop}
    {limit bound : Nat} {outcome : Except ParseError (α × TokenStream)}
    (within : Within tokens gives limit outcome) (wider : limit ≤ bound)
    (weaker : ∀ value, gives value → keeps value) :
    Within tokens keeps bound outcome := by
  cases within with
  | read stands given fewer =>
    exact .read stands (weaker _ given) (Nat.lt_of_lt_of_le fewer wider)
  | refused cause located => exact .refused cause located

/-- Two parsers have the same outcome on a stream, and keep to a contract. -/
structure Meets {α : Type} (tokens : List Token) (gives : α → Prop)
    (limit : Nat) (first second : Parser α) (stream : TokenStream) : Prop where
  same : first stream = second stream
  within : Within tokens gives limit (first stream)

namespace Meets

variable {α β : Type} {tokens : List Token} {gives : α → Prop}
  {promises : β → Prop} {limit bound : Nat}
  {first second : Parser α} {further other : α → Parser β} {stream : TokenStream}

theorem mono (meets : Meets tokens gives limit first second stream)
    (wider : limit ≤ bound) {keeps : α → Prop}
    (weaker : ∀ value, gives value → keeps value) :
    Meets tokens keeps bound first second stream :=
  ⟨meets.same, meets.within.mono wider weaker⟩

/-- Only what the parsers do on the stream matters. -/
theorem congr {third fourth : Parser α} (one : first stream = third stream)
    (two : second stream = fourth stream)
    (meets : Meets tokens gives limit third fourth stream) :
    Meets tokens gives limit first second stream := by
  refine ⟨?_, ?_⟩
  · rw [one, two]
    exact meets.same
  · rw [one]
    exact meets.within

theorem pure {value : α} (stands : stream.Stands tokens) (given : gives value)
    (fewer : stream.upcoming.length < limit) :
    Meets tokens gives limit (Pure.pure value) (Pure.pure value) stream :=
  ⟨rfl, .read stands given fewer⟩

/-- What follows a parser has to meet the contract behind everything that the
parser gives. -/
theorem bind (before : Meets tokens gives bound first second stream)
    (after :
      ∀ value rest,
        rest.Stands tokens → gives value → rest.upcoming.length < bound →
        Meets tokens promises limit (further value) (other value) rest) :
    Meets tokens promises limit (first >>= further) (second >>= other)
      stream := by
  have within := before.within
  constructor
  · rw [bind_apply, bind_apply, ← before.same]
    cases outcome : first stream with
    | error error => rfl
    | ok result =>
      rw [outcome] at within
      cases within with
      | read stands given fewer => exact (after _ _ stands given fewer).same
  · rw [bind_apply]
    cases outcome : first stream with
    | error error =>
      rw [outcome] at within
      cases within with
      | refused cause located => exact .refused cause located
    | ok result =>
      rw [outcome] at within
      cases within with
      | read stands given fewer => exact (after _ _ stands given fewer).within

/-- A parser that refuses meets any contract, as long as its reason and its
place are proper. -/
theorem fail {cause : ParseError.Cause} {position : Position}
    (grammatical : cause.Grammatical) (located : Located tokens position) :
    Meets tokens gives limit (Parser.fail cause position)
      (Parser.fail cause position) stream :=
  ⟨rfl, .refused grammatical located⟩

theorem failHere {cause : Token → ParseError.Cause}
    (stands : stream.Stands tokens)
    (grammatical : (cause stream.head).Grammatical) :
    Meets tokens gives limit (Parser.failHere cause)
      (Parser.failHere cause) stream :=
  ⟨rfl, .refused grammatical stands.located⟩

theorem unexpected (stands : stream.Stands tokens) (what : String) :
    Meets tokens gives limit (Parser.unexpected what)
      (Parser.unexpected what) stream :=
  failHere stands trivial

/-- Looking at the next token changes nothing about what the rest must meet. -/
theorem peek {further other : Token → Parser β}
    (after :
      Meets tokens promises limit (further stream.head)
        (other stream.head) stream) :
    Meets tokens promises limit (Parser.peek >>= further)
      (Parser.peek >>= other) stream :=
  ⟨after.same, after.within⟩

theorem lastStop {further other : Nat → Parser β}
    (after :
      Meets tokens promises limit (further stream.lastStop)
        (other stream.lastStop) stream) :
    Meets tokens promises limit (Parser.lastStop >>= further)
      (Parser.lastStop >>= other) stream :=
  ⟨after.same, after.within⟩

theorem get {further other : TokenStream → Parser β}
    (after : Meets tokens promises limit (further stream) (other stream) stream) :
    Meets tokens promises limit (MonadState.get >>= further)
      (MonadState.get >>= other) stream :=
  ⟨after.same, after.within⟩

/-- Taking a token that is not the end of the input leaves one token less. -/
theorem next {further other : Token → Parser β}
    (stands : stream.Stands tokens) (plain : stream.head.kind ≠ .endOfInput)
    (after :
      ∀ rest,
        rest.Stands tokens →
        rest.upcoming.length + 1 = stream.upcoming.length →
        Meets tokens promises limit (further stream.head)
          (other stream.head) rest) :
    Meets tokens promises limit (Parser.next >>= further)
      (Parser.next >>= other) stream := by
  obtain ⟨behind, fewer⟩ := stands.tail plain
  have meets := after stream.tail behind fewer
  exact ⟨meets.same, meets.within⟩

/-- A token that is expected is there and taken, or else the token in its place
is reported. -/
theorem expect {kind : TokenKind} {further other : Token → Parser β}
    (stands : stream.Stands tokens) (plain : kind ≠ .endOfInput)
    (after :
      ∀ token rest,
        token.kind = kind → Located tokens token.span.position →
        rest.Stands tokens →
        rest.upcoming.length + 1 = stream.upcoming.length →
        Meets tokens promises limit (further token) (other token) rest) :
    Meets tokens promises limit (Parser.expect kind >>= further)
      (Parser.expect kind >>= other) stream := by
  by_cases found : stream.head.kind = kind
  · have taken :
        Meets tokens promises limit (Parser.next >>= further)
          (Parser.next >>= other) stream :=
      next stands (by rw [found]; exact plain) fun rest behind fewer =>
        after stream.head rest found stands.located behind fewer
    refine ⟨?_, ?_⟩
    · rw [bind_apply, bind_apply, expect_of_kind found]
      exact taken.same
    · rw [bind_apply, expect_of_kind found]
      exact taken.within
  · have refused : ∀ {γ : Type} (rest : Token → Parser γ),
        (Parser.expect kind >>= rest) stream =
          .error ⟨.expected kind.description stream.head,
            stream.head.span.position⟩ := by
      intro γ rest
      simp only [Parser.expect, bind_apply, peek_apply, beq_iff_eq, found, if_false]
      rfl
    refine ⟨?_, ?_⟩
    · rw [refused, refused]
    · rw [refused]
      exact .refused trivial stands.located

/-- An alias that is declared takes no token. -/
theorem declareAlias {name : String} {position : Position}
    (stands : stream.Stands tokens) (located : Located tokens position) :
    Meets tokens (fun _ => True) (stream.upcoming.length + 1)
      (Parser.declareAlias name position) (Parser.declareAlias name position)
      stream := by
  refine ⟨rfl, ?_⟩
  by_cases known : name ∈ stream.aliases
  · have refused : Parser.declareAlias name position stream =
          .error ⟨.duplicateAlias name, position⟩ := by
      simp [Parser.declareAlias, known]
    rw [refused]
    exact .refused trivial located
  · rw [declareAlias_of_fresh known]
    exact .read (stands.declare _) trivial (Nat.lt_succ_self _)

end Meets

end Parser

end LiveMarkup
