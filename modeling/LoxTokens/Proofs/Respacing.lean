import LoxTokens.Proofs.Printing

/-!
# Tokens set apart

The lexemes of scanned tokens, written one after another with a separator behind each, are scanned
into the same tokens again.  A lexeme means the same wherever it stands, as long as a blank or the
end of the text follows it.
-/

namespace LoxTokens

/-- A text that keeps tokens apart: a blank, and then blanks and comments with their newlines. -/
inductive Separator : List Char → Prop where
  | blank {first : Char} {rest : List Char} :
      first ∈ [' ', '\t', '\r', '\n'] → ClosedGap rest → Separator (first :: rest)

theorem Separator.closedGap {gap : List Char} (separator : Separator gap) : ClosedGap gap := by
  cases separator with
  | blank blank closed => exact .blank blank closed

/-- Tokens with the text behind each of them, which is a separator, or nothing behind the last. -/
inductive SetApart : List (Token × List Char) → Prop where
  | nil : SetApart []
  | last {token : Token} : SetApart [(token, [])]
  | cons {token : Token} {gap : List Char} {words : List (Token × List Char)} :
      Separator gap → SetApart words → SetApart ((token, gap) :: words)

/-- The text of lexemes, each with the text behind it, after an opening. -/
def respace (opening : List Char) (words : List (Token × List Char)) : List Char :=
  opening ++ words.flatMap fun word => word.1.lexeme.toList ++ word.2

theorem respace_cons (opening : List Char) (word : Token × List Char)
    (words : List (Token × List Char)) :
    respace opening (word :: words) =
      opening ++ (word.1.lexeme.toList ++ respace word.2 words) := by
  simp [respace]

/-- Only a gap is visible after a lexeme that is set apart. -/
theorem SetApart.showsNoMore {token : Token} {gap : List Char} {words : List (Token × List Char)}
    (apart : SetApart ((token, gap) :: words)) : ShowsNoMore [] (respace gap words) := by
  intro front visible stands
  cases apart with
  | last => exact stands
  | cons separator =>
      obtain ⟨blank, -⟩ := separator
      cases front with
      | nil => exact List.nil_prefix
      | cons head front =>
          obtain ⟨rfl, -⟩ := List.cons_prefix_cons.mp stands
          exact (visible head List.mem_cons_self (isBlank_iff.mpr blank)).elim

theorem SetApart.closedGap {token : Token} {gap : List Char} {words : List (Token × List Char)}
    (apart : SetApart ((token, gap) :: words)) : ClosedGap gap ∧ SetApart words := by
  cases apart with
  | last => exact ⟨.nil, .nil⟩
  | cons separator apart => exact ⟨separator.closedGap, apart⟩

namespace Token

/-- A token moved to another place. -/
def movedTo (token : Token) (position : Position) : Token :=
  { token with line := position.line, start := position.offset }

/-- A token moved to the place behind a text. -/
def behind (token : Token) (front : List Char) : Token :=
  { token with line := (Position.origin.advance front).line, start := byteSize front }

theorem movedTo_origin (token : Token) (front : List Char) :
    token.movedTo (Position.origin.advance front) = token.behind front := by
  rw [movedTo, offset_origin, behind]

end Token

/-- Lexemes that are set apart are cut into the tokens that they are lexemes of. -/
theorem exists_tiled_respace {options : Options} {opening : List Char}
    {words : List (Token × List Char)} (opens : ClosedGap opening) (apart : SetApart words)
    (lexemes : ∀ word ∈ words,
      Lexeme options word.1.lexeme.toList (.token word.1.kind word.1.literal)) :
    ∃ tiles closing, Tiled options (respace opening words) tiles closing ∧
      ∀ position, Tile.items position tiles closing =
        (words.mapIdx fun index word =>
          Item.token (word.1.movedTo (position.advance (respace opening (words.take index))))) ++
        [.token
          (Token.eof (position.advance (respace opening words)).line
            (position.advance (respace opening words)).offset)] := by
  induction words generalizing opening with
  | nil =>
      have tiled : Tiled options opening [] opening := .closing opens.gapText
      refine ⟨[], opening, by simpa [respace] using tiled, ?_⟩
      intro position
      simp [Tile.items, respace]
  | cons word words ih =>
      obtain ⟨token, gap⟩ := word
      obtain ⟨lexeme, lexemes⟩ := List.forall_mem_cons.mp lexemes
      obtain ⟨closed, later⟩ := apart.closedGap
      obtain ⟨tiles, closing, tiled, items_eq⟩ := ih closed later lexemes
      have alone : IsLongestPrefix GapText ([] ++ (token.lexeme.toList ++ [])) [] := by
        simpa using lexeme.longest_nil
      have longest := opens.longest_of_shows apart.showsNoMore lexeme.ne_nil alone
      have munches := lexeme.munches_alone.of_shows apart.showsNoMore Verdict.noConfusion
      rw [respace_cons]
      refine ⟨_, closing, Tiled.tile longest munches tiled, ?_⟩
      intro position
      rw [Tile.items, items_eq, List.mapIdx_cons]
      simp [Tile.item, Verdict.item, Tile.source, Token.movedTo, respace]

namespace Scanner

/-- The tokens of a scan but the end of the source. -/
def lexed (source : List Char) (options : Options) : List Token :=
  (tokens source options).filter fun token => token.kind ≠ .eof

theorem lexeme_of_mem_lexed {source : List Char} {options : Options} {token : Token}
    (member : token ∈ lexed source options) :
    Lexeme options token.lexeme.toList (.token token.kind token.literal) := by
  obtain ⟨scanned, other⟩ := List.mem_filter.mp member
  obtain ⟨line, start, rfl⟩ | lexeme := lexeme_of_mem (mem_tokens.mp scanned)
  · simp [Token.eof] at other
  · exact lexeme

/--
Rescanning separated lexemes: when the tokens of a scan, whatever its errors, are written down
again with separators between them, a scan yields these tokens at their new places, the end of the
text, and nothing else.
-/
theorem items_respace (source : List Char) (options : Options) {opening : List Char}
    {words : List (Token × List Char)} (opens : ClosedGap opening) (apart : SetApart words)
    (tokens_eq : words.map Prod.fst = lexed source options) :
    (ofSource (respace opening words) options).items =
      (words.mapIdx fun index word =>
        Item.token (word.1.behind (respace opening (words.take index)))) ++
      [.token
        (Token.eof (Position.origin.advance (respace opening words)).line
          (byteSize (respace opening words)))] := by
  have lexemes : ∀ word ∈ words,
      Lexeme options word.1.lexeme.toList (.token word.1.kind word.1.literal) := by
    intro word member
    exact lexeme_of_mem_lexed (tokens_eq ▸ List.mem_map_of_mem member)
  obtain ⟨tiles, closing, tiled, items_eq⟩ := exists_tiled_respace opens apart lexemes
  rw [items_ofSource tiled, items_eq, offset_origin]
  simp only [Token.movedTo_origin]

/-- The tokens of a source with an error in it, each with a text that sets it apart. -/
def spreadWords : List (Token × List Char) :=
  [({ kind := .slash, lexeme := "/", literal := .null, line := 1, start := 0 },
      " // d\n".toList),
    ({ kind := .string, lexeme := "\"a//b\"", literal := .string "a//b", line := 1, start := 1 },
      "\t".toList),
    ({ kind := .number
       lexeme := "12"
       literal := .number (Decimal.toBinary64 { digits := 12, places := 0 })
       line := 1
       start := 7 },
      "\r".toList),
    ({ kind := .dot, lexeme := ".", literal := .null, line := 1, start := 9 }, "\n".toList),
    ({ kind := .identifier, lexeme := "orchid", literal := .null, line := 1, start := 11 }, [])]

theorem items_respace_spreadWords :
    ClosedGap "// c\n".toList ∧ SetApart spreadWords ∧
      spreadWords.map Prod.fst = lexed "/\"a//b\"12.@orchid".toList { identifiers := true } ∧
      respace "// c\n".toList spreadWords =
        "// c\n/ // d\n\"a//b\"\t12\r.\norchid".toList ∧
      (ofSource (respace "// c\n".toList spreadWords) { identifiers := true }).items =
        (spreadWords.mapIdx fun index word =>
          Item.token (word.1.behind (respace "// c\n".toList (spreadWords.take index)))) ++
        [.token
          (Token.eof (Position.origin.advance (respace "// c\n".toList spreadWords)).line
            (byteSize (respace "// c\n".toList spreadWords)))] := by
  have comment {body : List Char} (closed : '\n' ∉ body) :
      ClosedGap ('/' :: '/' :: (body ++ ['\n'])) := .comment closed .nil
  have opens : ClosedGap "// c\n".toList := @comment " c".toList (by decide)
  have remark : Separator " // d\n".toList := .blank (by decide) (@comment " d".toList (by decide))
  have blank {character : Char} (member : character ∈ [' ', '\t', '\r', '\n']) :
      Separator [character] := .blank member .nil
  have apart : SetApart spreadWords :=
    .cons remark (.cons (blank (by decide)) (.cons (blank (by decide))
      (.cons (blank (by decide)) .last)))
  have tokens_eq : spreadWords.map Prod.fst =
      lexed "/\"a//b\"12.@orchid".toList { identifiers := true } := by
    rw [lexed, tokens, items_of_take 7 (by decide +kernel)]
    decide +kernel
  exact ⟨opens, apart, tokens_eq, by decide, items_respace _ _ opens apart tokens_eq⟩

end Scanner
end LoxTokens
