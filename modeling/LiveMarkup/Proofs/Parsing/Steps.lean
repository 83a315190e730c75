import LiveMarkup.Token.Stream

/-!
# Running parsers on token streams

A parser that succeeds has passed some tokens of its stream.  This module says
where a stream stands after passing tokens, and how the elementary parsers and
their sequences run on a given stream.  Everything that is shown about larger
parsers goes through these equations; none of them looks at the parser monad
again.
-/

namespace LiveMarkup

/-- The end of the last of some tokens, or a given offset if there is none. -/
def stopAfter (stop : Nat) (tokens : List Token) : Nat :=
  tokens.foldl (fun _ token => token.span.stop) stop

@[simp]
theorem stopAfter_nil (stop : Nat) : stopAfter stop [] = stop := rfl

@[simp]
theorem stopAfter_cons (stop : Nat) (token : Token) (tokens : List Token) :
    stopAfter stop (token :: tokens) = stopAfter token.span.stop tokens := rfl

@[simp]
theorem stopAfter_append (stop : Nat) (first second : List Token) :
    stopAfter stop (first ++ second) = stopAfter (stopAfter stop first) second := by
  simp [stopAfter]

namespace TokenStream

/-- The stream that stands before `remaining` once `passed` has been read. -/
def pass (stream : TokenStream) (passed remaining : List Token) : TokenStream :=
  { stream with
    upcoming := remaining
    lastStop := stopAfter stream.lastStop passed }

@[simp]
theorem pass_upcoming (stream : TokenStream) (passed remaining : List Token) :
    (stream.pass passed remaining).upcoming = remaining := rfl

@[simp]
theorem pass_final (stream : TokenStream) (passed remaining : List Token) :
    (stream.pass passed remaining).final = stream.final := rfl

@[simp]
theorem pass_lastStop (stream : TokenStream) (passed remaining : List Token) :
    (stream.pass passed remaining).lastStop =
      stopAfter stream.lastStop passed :=
  rfl

@[simp]
theorem pass_aliases (stream : TokenStream) (passed remaining : List Token) :
    (stream.pass passed remaining).aliases = stream.aliases := rfl

@[simp]
theorem pass_pass (stream : TokenStream)
    (first second middle last : List Token) :
    (stream.pass first middle).pass second last =
      stream.pass (first ++ second) last := by
  simp [pass]

theorem pass_nil (stream : TokenStream) :
    stream.pass [] stream.upcoming = stream :=
  rfl

@[simp]
theorem pass_head (stream : TokenStream) (passed remaining : List Token) :
    (stream.pass passed remaining).head = remaining.headD stream.final := rfl

/-- A head that is not at the end of the input is an upcoming token. -/
theorem exists_upcoming {stream : TokenStream}
    (ends : stream.final.kind = .endOfInput)
    (further : stream.head.kind ≠ .endOfInput) :
    ∃ remaining,
      stream.upcoming = stream.head :: remaining ∧
        stream.tail = stream.pass [stream.head] remaining := by
  cases upcoming : stream.upcoming with
  | nil => simp [head, upcoming, ends] at further
  | cons token remaining =>
      refine ⟨remaining, ?_, ?_⟩
      · simp [head, upcoming]
      · simp [head, tail, pass, upcoming]

/-- The head of a stream that has a next token is that token. -/
theorem head_of_upcoming {stream : TokenStream} {token : Token}
    {remaining : List Token} (upcoming : stream.upcoming = token :: remaining) :
    stream.head = token := by
  simp [head, upcoming]

/-- The tail of a stream that has a next token has passed it. -/
theorem tail_of_upcoming {stream : TokenStream} {token : Token}
    {remaining : List Token} (upcoming : stream.upcoming = token :: remaining) :
    stream.tail = stream.pass [token] remaining := by
  simp [tail, pass, upcoming]

/-- Reading from one stream to another passes some tokens and does nothing else. -/
structure Passes (stream : TokenStream) (passed : List Token)
    (rest : TokenStream) : Prop where
  upcoming : stream.upcoming = passed ++ rest.upcoming
  rest_eq : rest = stream.pass passed rest.upcoming

namespace Passes

theorem refl (stream : TokenStream) : Passes stream [] stream := ⟨rfl, rfl⟩

theorem of_upcoming {stream : TokenStream} {token : Token} {remaining : List Token}
    (upcoming : stream.upcoming = token :: remaining) :
    Passes stream [token] (stream.pass [token] remaining) :=
  ⟨upcoming, rfl⟩

theorem final {stream rest : TokenStream} {passed : List Token}
    (passes : Passes stream passed rest) : rest.final = stream.final := by
  rw [passes.rest_eq]
  rfl

/-- Passing over two stretches is passing over both together. -/
theorem trans {stream middle rest : TokenStream} {first second : List Token}
    (before : Passes stream first middle) (after : Passes middle second rest) :
    Passes stream (first ++ second) rest := by
  constructor
  · rw [before.upcoming, after.upcoming, List.append_assoc]
  · rw [after.rest_eq, before.rest_eq]
    simp

theorem lastStop {stream rest : TokenStream} {passed : List Token}
    (passes : Passes stream passed rest) :
    rest.lastStop = stopAfter stream.lastStop passed := by
  rw [passes.rest_eq]
  rfl

end Passes

/-- Taking a head that is not at the end of the input passes it. -/
theorem passes_tail {stream : TokenStream}
    (ends : stream.final.kind = .endOfInput)
    (further : stream.head.kind ≠ .endOfInput) :
    Passes stream [stream.head] stream.tail := by
  obtain ⟨remaining, upcoming, passed⟩ := exists_upcoming ends further
  rw [passed]
  exact .of_upcoming upcoming

end TokenStream

namespace Parser

variable {α β : Type} {stream after : TokenStream}

theorem pure_apply (value : α) (stream : TokenStream) :
    (pure value : Parser α) stream = .ok (value, stream) := rfl

theorem bind_apply (first : Parser α) (rest : α → Parser β) (stream : TokenStream) :
    (first >>= rest) stream =
      match first stream with
      | .ok (value, after) => rest value after
      | .error error => .error error := by
  change Except.bind (first stream) _ = _
  cases first stream <;> rfl

/-- A sequence succeeds exactly if its parts do, one after the other. -/
theorem bind_eq_ok {first : Parser α} {rest : α → Parser β} {value : β} :
    (first >>= rest) stream = .ok (value, after) ↔
      ∃ between middle,
        first stream = .ok (between, middle) ∧
          rest between middle = .ok (value, after) := by
  rw [bind_apply]
  cases first stream with
  | error error => simp
  | ok result =>
      constructor
      · intro parsed
        exact ⟨result.1, result.2, rfl, parsed⟩
      · rintro ⟨between, middle, equal, parsed⟩
        cases equal
        exact parsed

/-- What a mapped parser gives is the image of what the parser gives. -/
theorem map_eq_ok {transform : α → β} {parser : Parser α} {value : β} :
    (transform <$> parser) stream = .ok (value, after) ↔
      ∃ before, parser stream = .ok (before, after) ∧ transform before = value := by
  change (parser >>= fun before => pure (transform before)) stream = _ ↔ _
  rw [bind_eq_ok]
  constructor
  · rintro ⟨before, middle, parsed, finished⟩
    rw [pure_apply] at finished
    cases finished
    exact ⟨before, parsed, rfl⟩
  · rintro ⟨before, parsed, equal⟩
    exact ⟨before, after, parsed, by rw [pure_apply, equal]⟩

@[simp]
theorem peek_apply (stream : TokenStream) :
    peek stream = .ok (stream.head, stream) :=
  rfl

@[simp]
theorem next_apply (stream : TokenStream) :
    next stream = .ok (stream.head, stream.tail) :=
  rfl

@[simp]
theorem lastStop_apply (stream : TokenStream) :
    lastStop stream = .ok (stream.lastStop, stream) := rfl

theorem fail_ne_ok {cause : ParseError.Cause} {position : Position}
    {result : α × TokenStream} :
    (fail cause position : Parser α) stream ≠ .ok result := by
  simp [fail]

theorem failHere_ne_ok {cause : Token → ParseError.Cause}
    {result : α × TokenStream} :
    (failHere cause : Parser α) stream ≠ .ok result := by
  simp [failHere]

theorem unexpected_ne_ok {what : String} {result : α × TokenStream} :
    (unexpected what : Parser α) stream ≠ .ok result :=
  failHere_ne_ok

/-- Expecting the kind of the next token takes it. -/
theorem expect_of_kind {kind : TokenKind} (found : stream.head.kind = kind) :
    expect kind stream = .ok (stream.head, stream.tail) := by
  simp [expect, bind_apply, found]

/-- The expected token is passed when it is the next one. -/
theorem expect_of_upcoming {kind : TokenKind} {token : Token}
    {remaining : List Token} (upcoming : stream.upcoming = token :: remaining)
    (found : token.kind = kind) :
    expect kind stream = .ok (token, stream.pass [token] remaining) := by
  rw [expect_of_kind (by rw [TokenStream.head_of_upcoming upcoming, found]),
    TokenStream.head_of_upcoming upcoming, TokenStream.tail_of_upcoming upcoming]

/-- Expecting the next token of a stream that has passed some. -/
theorem expect_pass {kind : TokenKind} {token : Token}
    {passed remaining : List Token} {further : Token → Parser β}
    (found : token.kind = kind) :
    (expect kind >>= further) (stream.pass passed (token :: remaining)) =
      further token (stream.pass (passed ++ [token]) remaining) := by
  rw [bind_apply, expect_of_upcoming rfl found, TokenStream.pass_pass]

/-- Taking the next token of a stream that has passed some. -/
theorem next_pass {token : Token} {passed remaining : List Token}
    {further : Token → Parser β} :
    (next >>= further) (stream.pass passed (token :: remaining)) =
      further token (stream.pass (passed ++ [token]) remaining) := by
  rw [bind_apply, next_apply, TokenStream.head_of_upcoming rfl,
    TokenStream.tail_of_upcoming rfl, TokenStream.pass_pass]

/-- Looking at the next token of a stream that has passed some. -/
theorem peek_pass {token : Token} {passed remaining : List Token}
    {further : Token → Parser β} :
    (peek >>= further) (stream.pass passed (token :: remaining)) =
      further token (stream.pass passed (token :: remaining)) :=
  rfl

/-- What an expected token says about the stream it was taken from. -/
theorem expect_eq_ok {kind : TokenKind} {token : Token}
    (ends : stream.final.kind = .endOfInput) (further : kind ≠ .endOfInput)
    (parsed : expect kind stream = .ok (token, after)) :
    token.kind = kind ∧ stream.Passes [token] after := by
  by_cases found : stream.head.kind = kind
  · rw [expect_of_kind found] at parsed
    cases parsed
    exact ⟨found, TokenStream.passes_tail ends (by rw [found]; exact further)⟩
  · simp only [expect, bind_apply, peek_apply, beq_iff_eq, found, if_false]
      at parsed
    exact absurd parsed unexpected_ne_ok

end Parser

end LiveMarkup
