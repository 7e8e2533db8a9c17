import LoxTokens.Proofs.Shifting

/-!
# Line endings

A carriage return in front of every newline changes nothing but the texts in which newlines stand
and the places behind them.  Between tokens and in comments it is one more character to be skipped,
no lookahead goes past it, and in strings it is kept.
-/

namespace LoxTokens

/-! ## Texts with carriage returns -/

/-- A text with a carriage return in front of every newline. -/
def withReturns (text : List Char) : List Char :=
  text.flatMap fun character => if character = '\n' then ['\r', '\n'] else [character]

theorem withReturns_append (left right : List Char) :
    withReturns (left ++ right) = withReturns left ++ withReturns right :=
  List.flatMap_append

theorem withReturns_newline (text : List Char) :
    withReturns ('\n' :: text) = '\r' :: '\n' :: withReturns text := rfl

theorem withReturns_cons {character : Char} (other : character ≠ '\n') (text : List Char) :
    withReturns (character :: text) = character :: withReturns text := by
  simp [withReturns, other]

/-- A text without newlines stays as it is. -/
theorem withReturns_closed {text : List Char} (closed : '\n' ∉ text) : withReturns text = text := by
  induction text with
  | nil => rfl
  | cons character text ih =>
      obtain ⟨other, closed⟩ := List.ne_and_not_mem_of_not_mem_cons closed
      rw [withReturns_cons other.symm, ih closed]

theorem quote_notMem_withReturns {text : List Char} (closed : '"' ∉ text) :
    '"' ∉ withReturns text := by
  intro member
  obtain ⟨character, source, member⟩ := List.mem_flatMap.mp member
  split at member
  · simp at member
  · obtain rfl := List.mem_singleton.mp member
    exact closed source

/-- What is visible behind a place stays as it is up to the end of the line. -/
theorem showsNoMore_withReturns (text : List Char) : ShowsNoMore text (withReturns text) := by
  intro front visible stands
  induction text generalizing front with
  | nil => exact stands
  | cons character text ih =>
      cases front with
      | nil => exact List.nil_prefix
      | cons first front =>
          obtain ⟨first_visible, visible⟩ := List.forall_mem_cons.mp visible
          by_cases newline : character = '\n'
          · subst newline
            obtain ⟨rfl, -⟩ := List.cons_prefix_cons.mp stands
            exact (first_visible rfl).elim
          · rw [withReturns_cons newline] at stands
            obtain ⟨rfl, later⟩ := List.cons_prefix_cons.mp stands
            exact List.cons_prefix_cons.mpr ⟨rfl, ih front visible later⟩

theorem byteSize_withReturns (text : List Char) :
    byteSize (withReturns text) = byteSize text + text.count '\n' := by
  induction text with
  | nil => rfl
  | cons character text ih =>
      by_cases newline : character = '\n'
      · subst newline
        have return_size : '\r'.utf8Size = 1 := rfl
        rw [withReturns_newline, byteSize_cons, byteSize_cons, byteSize_cons, ih,
          List.count_cons_self]
        omega
      · rw [withReturns_cons newline, byteSize_cons, byteSize_cons, ih,
          List.count_cons_of_ne newline, Nat.add_assoc]

theorem count_withReturns (text : List Char) :
    (withReturns text).count '\n' = text.count '\n' := by
  induction text with
  | nil => rfl
  | cons character text ih =>
      by_cases newline : character = '\n'
      · subst newline
        rw [withReturns_newline, List.count_cons_of_ne (by decide), List.count_cons_self, ih,
          List.count_cons_self]
      · rw [withReturns_cons newline, List.count_cons_of_ne newline, ih,
          List.count_cons_of_ne newline]

/-- The place behind a text stays on its line. -/
theorem Position.line_withReturns (position : Position) (text : List Char) :
    (position.advance (withReturns text)).line = (position.advance text).line := by
  rw [advance_eq_shift, advance_eq_shift, count_withReturns, shift, shift]

/-! ## Gaps -/

/-- In a comment a carriage return is the last character before the newline. -/
theorem withReturns_comment {body : List Char} (closed : '\n' ∉ body) (rest : List Char) :
    withReturns ('/' :: '/' :: (body ++ '\n' :: rest)) =
      '/' :: '/' :: ((body ++ ['\r']) ++ '\n' :: withReturns rest) := by
  rw [withReturns_cons (by decide), withReturns_cons (by decide), withReturns_append,
    withReturns_closed closed, withReturns_newline, List.append_assoc]
  rfl

/-- Where any blank can be skipped, one can be skipped together with its carriage return. -/
theorem withReturns_blank {accepted : List Char → Prop}
    (skip : ∀ {character : Char} {rest : List Char},
      character ∈ [' ', '\t', '\r', '\n'] → accepted rest → accepted (character :: rest))
    {character : Char} {rest : List Char} (blank : character ∈ [' ', '\t', '\r', '\n'])
    (later : accepted (withReturns rest)) : accepted (withReturns (character :: rest)) := by
  by_cases newline : character = '\n'
  · subst newline
    exact skip (by decide) (skip (by decide) later)
  · rw [withReturns_cons newline]
    exact skip blank later

theorem ClosedGap.withReturns {gap : List Char} (closed : ClosedGap gap) :
    ClosedGap (withReturns gap) := by
  induction closed with
  | nil => exact .nil
  | blank blank _ ih => exact withReturns_blank .blank blank ih
  | comment body_closed _ ih =>
      rw [withReturns_comment body_closed]
      exact .comment (by simpa using body_closed) ih

theorem GapText.withReturns {gap : List Char} (accepted : GapText gap) :
    GapText (withReturns gap) := by
  induction accepted with
  | nil => exact .nil
  | blank blank _ ih => exact withReturns_blank .blank blank ih
  | comment body_closed _ ih =>
      rw [withReturns_comment body_closed]
      cases ih with
      | blank _ line => exact .comment (by simpa using body_closed) line
  | lastComment body_closed =>
      rw [withReturns_cons (by decide), withReturns_cons (by decide),
        withReturns_closed body_closed]
      exact .lastComment body_closed

/-- The longest gap in front of other text stays the longest. -/
theorem IsLongestPrefix.withReturns {gap rest : List Char} (nonempty : rest ≠ [])
    (longest : IsLongestPrefix GapText (gap ++ rest) gap) :
    IsLongestPrefix GapText (LoxTokens.withReturns gap ++ LoxTokens.withReturns rest)
      (LoxTokens.withReturns gap) := by
  have closed := (longest.closedGap nonempty).withReturns
  obtain ⟨first, tail, rfl⟩ := List.exists_cons_of_ne_nil nonempty
  have other : first ≠ '\n' := by
    rintro rfl
    exact longest.not_gap.1 rfl
  rw [withReturns_cons other]
  exact closed.longest_of_shows (showsNoMore_withReturns tail) (List.cons_ne_nil first []) longest

/-! ## Lexemes -/

/-- A value of which each newline has a carriage return in front. -/
def Literal.withReturns : Literal → Literal
  | null => null
  | string value => string (String.ofList (LoxTokens.withReturns value.toList))
  | number value => number value

/-- A verdict on a text in which each newline has a carriage return in front. -/
def Verdict.withReturns : Verdict → Verdict
  | token kind literal => token kind literal.withReturns
  | error cause => error cause

/-- The verdict on a lexeme without newlines stays as it is. -/
theorem Lexeme.verdict_withReturns {options : Options} {text : List Char} {verdict : Verdict}
    (lexeme : Lexeme options text verdict) (closed : '\n' ∉ text) :
    verdict.withReturns = verdict := by
  cases lexeme with
  | @string body =>
      have body_closed : '\n' ∉ body := by simpa using closed
      rw [Verdict.withReturns, Literal.withReturns, String.toList_ofList,
        withReturns_closed body_closed]
  | symbol | number | overflow | reserved | identifier => rfl

theorem Lexeme.closed {options : Options} {text : List Char} {verdict : Verdict}
    (lexeme : Lexeme options text verdict) : verdict ≠ .error .unterminatedString := by
  rintro rfl
  exact LexError.noConfusion lexeme.error_eq

/-- What is taken from the front of a text is taken with its carriage returns. -/
theorem Munches.withReturns {options : Options} {text rest : List Char} {verdict : Verdict}
    (munches : Munches options text verdict rest)
    (starts : IsLongestPrefix GapText (text ++ rest) []) :
    Munches options (LoxTokens.withReturns text) verdict.withReturns
      (LoxTokens.withReturns rest) := by
  have shows := showsNoMore_withReturns rest
  cases munches with
  | lexeme longest lexeme =>
      rcases lexeme.string_or_visible with ⟨body, closed, rfl⟩ | visible
      · obtain rfl := lexeme.unique (.string closed)
        have taken := readPiece_munches options '"'
          (LoxTokens.withReturns body ++ '"' :: LoxTokens.withReturns rest)
        rw [readPiece_quote, readString_closed (quote_notMem_withReturns closed)] at taken
        rw [withReturns_cons (by decide), withReturns_append, Verdict.withReturns,
          Literal.withReturns, String.toList_ofList]
        exact taken
      · have closed : '\n' ∉ text := fun newline => visible '\n' newline rfl
        rw [withReturns_closed closed, lexeme.verdict_withReturns closed]
        exact Munches.of_shows shows lexeme.closed (.lexeme longest lexeme)
  | openString closed =>
      rw [withReturns_cons (by decide)]
      exact .openString (quote_notMem_withReturns closed)
  | @unexpected first _ quote none =>
      have visible : ¬ isBlank first := (@IsLongestPrefix.not_gap [] rest first starts).1
      have other : first ≠ '\n' := by
        rintro rfl
        exact visible rfl
      rw [withReturns_cons other]
      exact Munches.of_shows shows (by simp [Verdict.withReturns]) (.unexpected quote none)

/-! ## Tilings -/

/-- A tile with a carriage return in front of every newline. -/
def Tile.withReturns (tile : Tile) : Tile where
  gap := LoxTokens.withReturns tile.gap
  text := LoxTokens.withReturns tile.text
  verdict := tile.verdict.withReturns

theorem Tiled.withReturns {options : Options} {source closing : List Char} {tiles : List Tile}
    (tiled : Tiled options source tiles closing) :
    Tiled options (LoxTokens.withReturns source) (tiles.map Tile.withReturns)
      (LoxTokens.withReturns closing) := by
  induction tiled with
  | closing gap => exact .closing gap.withReturns
  | @tile gap text rest closing verdict tiles longest munches _ ih =>
      have nonempty := List.append_ne_nil_of_left_ne_nil munches.ne_nil rest
      have longest_again := longest.withReturns nonempty
      rw [withReturns_append] at longest_again
      rw [withReturns_append, withReturns_append]
      exact .tile longest_again (munches.withReturns longest.behind_gap) ih

/-! ## Items -/

/-- The number of newlines that start before a byte offset of a text. -/
def newlinesBefore : List Char → (offset : Nat) → Nat
  | [], _ => 0
  | character :: rest, offset =>
      if offset = 0 then 0
      else
        (if character = '\n' then 1 else 0) + newlinesBefore rest (offset - character.utf8Size)

theorem newlinesBefore_append (before after : List Char) :
    newlinesBefore (before ++ after) (byteSize before) = before.count '\n' := by
  induction before with
  | nil => cases after <;> rfl
  | cons character before ih =>
      have size := character.utf8Size_pos
      rw [List.cons_append, newlinesBefore, byteSize_cons, if_neg (by omega),
        Nat.add_sub_cancel_left, ih, List.count_cons, Nat.add_comm]
      simp

/-- A token of a source, after a carriage return is put in front of every newline. -/
def Token.withReturns (source : List Char) (token : Token) : Token :=
  { token with
    lexeme := String.ofList (LoxTokens.withReturns token.lexeme.toList)
    literal := token.literal.withReturns
    start := token.start + newlinesBefore source token.start }

/-- An item of a source, after a carriage return is put in front of every newline. -/
def Item.withReturns (source : List Char) : Item → Item
  | token value => token (value.withReturns source)
  | diagnostic value => diagnostic value

theorem Verdict.item_withReturns (verdict : Verdict) (before text after : List Char) :
    verdict.withReturns.item (LoxTokens.withReturns text)
        (Position.origin.advance (LoxTokens.withReturns before)) =
      (verdict.item text (Position.origin.advance before)).withReturns (before ++ after) := by
  cases verdict with
  | token kind literal =>
      simp only [withReturns, item, Item.withReturns, Token.withReturns, offset_origin,
        byteSize_withReturns, newlinesBefore_append, Position.line_withReturns,
        String.toList_ofList]
  | error cause =>
      simp only [withReturns, item, Item.withReturns, ← Position.advance_append,
        ← withReturns_append, Position.line_withReturns]

/-- The end of a source moves with the newlines of the source. -/
theorem Token.eof_withReturns (source : List Char) (line : UInt32) :
    (eof line (byteSize source)).withReturns source =
      eof line (byteSize (LoxTokens.withReturns source)) := by
  have newlines := newlinesBefore_append source []
  rw [List.append_nil] at newlines
  rw [byteSize_withReturns, withReturns, eof, newlines]
  rfl

theorem Tile.items_returned (before : List Char) (tiles : List Tile) (closing : List Char) :
    items (Position.origin.advance (LoxTokens.withReturns before)) (tiles.map Tile.withReturns)
        (LoxTokens.withReturns closing) =
      (items (Position.origin.advance before) tiles closing).map
        (Item.withReturns (before ++ (tiles.flatMap source ++ closing))) := by
  induction tiles generalizing before with
  | nil =>
      rw [List.flatMap_nil, List.nil_append, List.map_nil, items, items, List.map_singleton,
        ← Position.advance_append, ← Position.advance_append, ← withReturns_append,
        Position.line_withReturns, offset_origin, offset_origin, Item.withReturns,
        Token.eof_withReturns]
  | cons tile tiles ih =>
      have first := tile.verdict.item_withReturns (before ++ tile.gap) tile.text
        (tile.text ++ (tiles.flatMap source ++ closing))
      have later := ih (before ++ tile.source)
      simp only [withReturns_append, Position.advance_append, List.append_assoc, source]
        at first later
      simp only [List.map_cons, List.flatMap_cons, List.append_assoc, items, item, source,
        Tile.withReturns, Position.advance_append, first, later]

/--
Line endings do not matter: when a carriage return is put in front of every newline, a scan yields
the same items, with the carriage returns in their texts and at their places behind the carriage
returns.
-/
theorem Scanner.items_withReturns (source : List Char) (options : Options) :
    (ofSource (withReturns source) options).items =
      (ofSource source options).items.map (Item.withReturns source) := by
  obtain ⟨tiles, closing, tiled⟩ := exists_tiled options source
  have items_eq := Tile.items_returned [] tiles closing
  rw [List.nil_append, ← tiled.source_eq] at items_eq
  rw [items_ofSource tiled, items_ofSource tiled.withReturns]
  exact items_eq

end LoxTokens
