import LiveMarkup.Proofs.Lexing.Scans

/-!
# Positions do not depend on what the rules look ahead at

A rule that fails may have read past any number of line ends before the cursor
is put back.  Whatever the rules are and however far they have looked ahead, the
position of a token, and that of the character that no rule takes, counts the
line ends and the characters before it in the source text.
-/

namespace LiveMarkup

variable {rules : List Rule} {behind rest left : List Char} {tokens : List Token}

/-- The position of every token that some characters scan to is exact. -/
theorem Scans.exactPositions (scans : Scans rules behind rest tokens left) :
    ∀ token ∈ tokens,
      token.span.position =
        exactPosition (behind ++ rest) token.span.start := by
  induction scans with
  | stop behind left => exact nofun
  | @step behind consumed remaining left text label tokens cut moves others
      hypothesis =>
    intro token member
    rcases List.mem_append.mp member with first | later
    · obtain ⟨kind, -, rfl⟩ :=
        Option.map_eq_some_iff.mp (Option.mem_toList.mp first)
      exact (exactPosition_append behind (consumed ++ remaining)).symm
    · rw [← List.append_assoc]
      exact hypothesis token later

/-- Whatever the rules are, every token of a text, the one at its end included,
carries the exact position of its first character: one more than the number of
line ends before it, and one more than the number of characters behind the last
of them.  If the text has no tokens, the error carries the exact position of the
first character at which no rule takes anything. -/
theorem tokenize_positions (rules : List Rule) (source : String) :
    match tokenize rules source with
    | .ok tokens =>
      ∃ pieces, Scans rules [] source.toList pieces [] ∧
        tokens = pieces ++ [endToken source.toList] ∧
        ∀ token ∈ tokens, token.span.position =
        exactPosition source.toList token.span.start
    | .error error =>
      ∃ pieces taken left,
          Scans rules [] source.toList pieces (error.char :: left) ∧
          source.toList = taken ++ error.char :: left ∧
          cutFirst rules (error.char :: left) = none ∧
          error.position = exactPosition source.toList taken.length := by
  rcases scans_of_tokenize rules source with ⟨pieces, scans, found⟩ |
    ⟨pieces, taken, char, left, scans, parts, stuck, failed⟩
  · rw [found]
    refine ⟨pieces, scans, rfl, fun token member => ?_⟩
    rcases List.mem_append.mp member with piece | last
    · exact scans.exactPositions token piece
    · rw [List.mem_singleton.mp last]
      rfl
  · rw [failed]
    refine ⟨pieces, taken, left, scans, parts, stuck, ?_⟩
    rw [parts]
    exact (exactPosition_append taken (char :: left)).symm

/-- The first rule fails behind both line ends, which the second one then reads
again. -/
example :
    (tokenize [⟨.skip, .literal ['\n', '\n', 'x']⟩,
      ⟨.fixed .name, .oneOf ['\n', 'a']⟩] "\n\na").map
      (·.map (·.span.position)) = .ok [⟨1, 1⟩, ⟨2, 1⟩, ⟨3, 1⟩, ⟨3, 2⟩] := by
  cbv

end LiveMarkup
