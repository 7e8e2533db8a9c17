import LoxTokens.Proofs.MaximalMunch

/-!
# Tilings of a source

A scan cuts its source into tiles, which are gaps each followed by the text of one item, and a
closing gap.  The tiles alone decide the items, so that facts about whole scans are facts about
tilings.  Nothing of the source is lost: the tiles and the closing gap rebuild it.
-/

namespace LoxTokens

/-! ## Bytes -/

/-- The number of bytes of a text. -/
def byteSize (text : List Char) : Nat := (String.ofList text).utf8ByteSize

@[simp]
theorem byteSize_append (left right : List Char) :
    byteSize (left ++ right) = byteSize left + byteSize right := by
  simp [byteSize, String.utf8ByteSize_append]

theorem byteSize_cons (character : Char) (text : List Char) :
    byteSize (character :: text) = character.utf8Size + byteSize text := by
  rw [← List.singleton_append, byteSize_append, byteSize, ← String.singleton_eq_ofList,
    String.utf8ByteSize_singleton]

theorem byteSize_pos {text : List Char} (nonempty : text ≠ []) : 0 < byteSize text := by
  rw [Nat.pos_iff_ne_zero]
  intro empty
  have text_eq := String.utf8ByteSize_eq_zero_iff.mp empty
  exact nonempty (by simpa using text_eq)

/-- Moving over a text counts its bytes. -/
theorem offset_advance (position : Position) (text : List Char) :
    (position.advance text).offset = position.offset + byteSize text := by
  induction text generalizing position with
  | nil => rfl
  | cons character text ih =>
      rw [Position.advance_cons, ih, byteSize_cons]
      simp only [Position.next]
      omega

theorem offset_origin (text : List Char) :
    (Position.origin.advance text).offset = byteSize text := by
  rw [offset_advance]
  simp [Position.origin]

/-! ## Tiles -/

/-- A gap and the text of the item after it. -/
structure Tile where
  /-- Blanks and comments. -/
  gap : List Char
  /-- The text of one item. -/
  text : List Char
  /-- What the text is. -/
  verdict : Verdict
  deriving DecidableEq

namespace Tile

/-- The source text that a tile covers. -/
def source (tile : Tile) : List Char := tile.gap ++ tile.text

/-- The item of a tile that starts at a position. -/
def item (tile : Tile) (position : Position) : Item :=
  tile.verdict.item tile.text (position.advance tile.gap)

/-- The items of adjacent tiles and of the end of the source after the closing gap. -/
def items : Position → List Tile → (closing : List Char) → List Item
  | position, [], closing =>
      [.token (Token.eof (position.advance closing).line (position.advance closing).offset)]
  | position, tile :: tiles, closing =>
      tile.item position :: items (position.advance tile.source) tiles closing

theorem items_ne_nil (position : Position) (tiles : List Tile) (closing : List Char) :
    items position tiles closing ≠ [] := by
  cases tiles <;> exact List.cons_ne_nil _ _

/-- An item comes from one of the tiles, or it is the end of the source. -/
theorem mem_items {position : Position} {tiles : List Tile} {closing : List Char} {item : Item} :
    item ∈ items position tiles closing ↔
      (∃ front tile back, tiles = front ++ tile :: back ∧
        item = tile.item (position.advance (front.flatMap source))) ∨
      item =
        .token
          (Token.eof (position.advance (tiles.flatMap source ++ closing)).line
            (position.advance (tiles.flatMap source ++ closing)).offset) := by
  induction tiles generalizing position with
  | nil => simp [items]
  | cons first tiles ih =>
      rw [items, List.mem_cons, ih]
      constructor
      · rintro (rfl | ⟨front, tile, back, rfl, rfl⟩ | rfl)
        · exact .inl ⟨[], first, tiles, rfl, rfl⟩
        · exact .inl ⟨first :: front, tile, back, rfl, by simp⟩
        · exact .inr (by simp)
      · rintro (⟨front, tile, back, tiles_eq, rfl⟩ | rfl)
        · cases front with
          | nil =>
              obtain ⟨rfl, rfl⟩ := List.cons.inj tiles_eq
              exact .inl rfl
          | cons head front =>
              obtain ⟨rfl, rfl⟩ := List.cons.inj tiles_eq
              exact .inr (.inl ⟨front, tile, back, rfl, by simp⟩)
        · exact .inr (.inr (by simp))

end Tile

/-- How the grammar cuts a source into tiles and a closing gap. -/
inductive Tiled (options : Options) : List Char → List Tile → List Char → Prop where
  | closing {gap : List Char} : GapText gap → Tiled options gap [] gap
  | tile {gap text rest closing : List Char} {verdict : Verdict} {tiles : List Tile} :
      IsLongestPrefix GapText (gap ++ (text ++ rest)) gap → Munches options text verdict rest →
        Tiled options rest tiles closing →
          Tiled options (gap ++ (text ++ rest)) ({ gap, text, verdict } :: tiles) closing

/-- Every source has a tiling. -/
theorem exists_tiled (options : Options) (source : List Char) :
    ∃ tiles closing, Tiled options source tiles closing := by
  generalize length_eq : source.length = length
  induction length using Nat.strongRecOn generalizing source with
  | ind length ih =>
      rcases gap_or_munches options source with
        gap | ⟨gap, text, rest, verdict, rfl, longest, munches⟩
      · exact ⟨[], source, .closing gap⟩
      · have taken := List.length_pos_iff.mpr munches.ne_nil
        rw [List.length_append, List.length_append] at length_eq
        obtain ⟨tiles, closing, tiled⟩ := ih rest.length (by omega) rest rfl
        exact ⟨_, closing, .tile longest munches tiled⟩

namespace Tiled

variable {options : Options} {source closing : List Char} {tiles : List Tile}

/-- The tiles and the closing gap rebuild the source. -/
theorem source_eq (tiled : Tiled options source tiles closing) :
    source = tiles.flatMap Tile.source ++ closing := by
  induction tiled with
  | closing => rfl
  | tile _ _ _ ih =>
      rw [List.flatMap_cons, List.append_assoc, ← ih]
      simp [Tile.source]

/-- The text of a tile stands between what the tiles before and after it rebuild. -/
theorem source_split (tiled : Tiled options source tiles closing) {front back : List Tile}
    {tile : Tile} (tiles_eq : tiles = front ++ tile :: back) :
    source =
      front.flatMap Tile.source ++ tile.gap ++ tile.text ++
        (back.flatMap Tile.source ++ closing) := by
  rw [tiled.source_eq, tiles_eq]
  simp [Tile.source]

theorem closing_gap (tiled : Tiled options source tiles closing) : GapText closing := by
  induction tiled with
  | closing gap => exact gap
  | tile _ _ _ ih => exact ih

/-- Each tile is made of the longest gap and of what the grammar takes after it. -/
theorem munches (tiled : Tiled options source tiles closing) {front back : List Tile} {tile : Tile}
    (tiles_eq : tiles = front ++ tile :: back) :
    IsLongestPrefix GapText
        (tile.gap ++ (tile.text ++ (back.flatMap Tile.source ++ closing))) tile.gap ∧
      Munches options tile.text tile.verdict (back.flatMap Tile.source ++ closing) := by
  induction tiled generalizing front with
  | closing => simp at tiles_eq
  | tile longest munches tiled ih =>
      cases front with
      | nil =>
          obtain ⟨rfl, rfl⟩ := List.cons.inj tiles_eq
          rw [← tiled.source_eq]
          exact ⟨longest, munches⟩
      | cons head front =>
          obtain ⟨-, tiles_eq⟩ := List.cons.inj tiles_eq
          exact ih tiles_eq

/-- No item is made of nothing. -/
theorem texts_ne_nil (tiled : Tiled options source tiles closing) :
    ∀ tile ∈ tiles, tile.text ≠ [] := by
  intro tile member
  obtain ⟨front, back, tiles_eq⟩ := List.append_of_mem member
  exact (tiled.munches tiles_eq).2.ne_nil

end Tiled

namespace Scanner

theorem items_finished {scanner : Scanner} (finished : scanner.finished) : scanner.items = [] := by
  rw [items_eq]
  simp [next?, finished]

/-- The tiles of the text that is left decide the items that are left. -/
theorem items_tiled {scanner : Scanner} {source closing : List Char} {tiles : List Tile}
    (tiled : Tiled scanner.options source tiles closing) (unfinished : scanner.finished = false)
    (rest_eq : scanner.rest = source) :
    scanner.items = Tile.items scanner.position tiles closing := by
  generalize options_eq : scanner.options = options at tiled
  induction tiled generalizing scanner with
  | closing gap =>
      subst rest_eq
      rw [items_eq, next?_gap unfinished gap]
      simp [items_finished, Tile.items]
  | @tile gap text rest closing verdict tiles longest munches tiled ih =>
      subst options_eq
      have later := @ih (scanner.moveOver (gap ++ text) rest) unfinished rfl rfl
      rw [items_eq, next?_munches unfinished rest_eq (rest_eq ▸ longest) munches]
      exact congrArg (List.cons _) later

theorem items_ofSource {options : Options} {source closing : List Char} {tiles : List Tile}
    (tiled : Tiled options source tiles closing) :
    (ofSource source options).items = Tile.items .origin tiles closing :=
  items_tiled tiled rfl rfl

end Scanner

/-! ## Losslessness -/

/-- A text stands in a source at a byte offset. -/
def StandsAt (source : List Char) (offset : Nat) (text : String) : Prop :=
  ∃ before after : String,
    String.ofList source = before ++ text ++ after ∧ before.utf8ByteSize = offset

/-- A text is what an error is about. -/
def LexError.Concerns : LexError → List Char → Prop
  | unexpectedCharacter character, text => text = [character]
  | unterminatedString, text => ∃ body, text = '"' :: body ∧ '"' ∉ body
  | invalidNumber lexeme, text => String.ofList text = lexeme

theorem Item.token?_eq_some {item : Item} {token : Token} :
    item.token? = some token ↔ item = .token token := by
  cases item <;> simp [Item.token?]

theorem tokens_cons (item : Item) (items : List Item) :
    (item :: items).filterMap Item.token? =
      item.token?.toList ++ items.filterMap Item.token? := by
  cases item <;> rfl

theorem mem_tokens {items : List Item} {token : Token} :
    token ∈ items.filterMap Item.token? ↔ .token token ∈ items := by
  simp [Item.token?_eq_some]

theorem Item.diagnostic?_eq_some {item : Item} {diagnostic : Diagnostic} :
    item.diagnostic? = some diagnostic ↔ item = .diagnostic diagnostic := by
  cases item <;> simp [Item.diagnostic?]

theorem diagnostics_cons (item : Item) (items : List Item) :
    (item :: items).filterMap Item.diagnostic? =
      item.diagnostic?.toList ++ items.filterMap Item.diagnostic? := by
  cases item <;> rfl

theorem mem_diagnostics {items : List Item} {diagnostic : Diagnostic} :
    diagnostic ∈ items.filterMap Item.diagnostic? ↔ .diagnostic diagnostic ∈ items := by
  simp [Item.diagnostic?_eq_some]

namespace Tile

variable {tile : Tile} {tiles : List Tile} {position : Position} {closing : List Char}
  {token : Token}

theorem item_token (token_eq : tile.item position = .token token) :
    ∃ kind literal, tile.verdict = .token kind literal ∧
      token =
        { kind
          lexeme := String.ofList tile.text
          literal
          line := (position.advance tile.gap).line
          start := (position.advance tile.gap).offset } := by
  cases verdict : tile.verdict with
  | token kind literal =>
      refine ⟨kind, literal, rfl, ?_⟩
      simpa [item, Verdict.item, verdict] using token_eq.symm
  | error => simp [item, Verdict.item, verdict] at token_eq

/-- The diagnostic of a tile is on the line where the tile stops. -/
theorem item_error {error : LexError} (verdict_eq : tile.verdict = .error error) :
    tile.item position =
      .diagnostic { line := (position.advance tile.source).line, error } := by
  simp [item, Verdict.item, verdict_eq, source]

/-- Text that is not a token is reported. -/
theorem exists_diagnostic {error : LexError} (position : Position) (closing : List Char)
    (member : tile ∈ tiles) (verdict_eq : tile.verdict = .error error) :
    ∃ line, .diagnostic { line, error } ∈ items position tiles closing := by
  obtain ⟨front, back, tiles_eq⟩ := List.append_of_mem member
  exact ⟨_, mem_items.mpr (.inl ⟨front, tile, back, tiles_eq, (item_error verdict_eq).symm⟩)⟩

theorem item_diagnostic {diagnostic : Diagnostic}
    (diagnostic_eq : tile.item position = .diagnostic diagnostic) :
    ∃ error, tile.verdict = .error error ∧
      diagnostic = { line := (position.advance tile.source).line, error } := by
  cases verdict : tile.verdict with
  | token => simp [item, Verdict.item, verdict] at diagnostic_eq
  | error error =>
      rw [item_error verdict] at diagnostic_eq
      exact ⟨error, rfl, (Item.diagnostic.inj diagnostic_eq).symm⟩

/-- A token of a tile starts after the gap and stops where the tile stops. -/
theorem span_token (token_eq : tile.item position = .token token) :
    token.start = position.offset + byteSize tile.gap ∧
      token.stop = position.offset + byteSize tile.source := by
  obtain ⟨kind, literal, -, rfl⟩ := item_token token_eq
  have stop_eq := Nat.add_assoc position.offset (byteSize tile.gap) (byteSize tile.text)
  rw [← byteSize_append, ← offset_advance] at stop_eq
  exact ⟨offset_advance position tile.gap, stop_eq⟩

theorem offset_le_start (member : .token token ∈ items position tiles closing) :
    position.offset ≤ token.start := by
  rcases mem_items.mp member with ⟨front, tile, back, -, token_eq⟩ | token_eq
  · rw [(span_token token_eq.symm).1, offset_advance]
    omega
  · obtain rfl := Item.token.inj token_eq
    simp only [Token.eof, offset_advance]
    omega

/-- The tokens of adjacent tiles follow one another. -/
theorem pairwise_tokens (nonempty : ∀ tile ∈ tiles, tile.text ≠ []) :
    ((items position tiles closing).filterMap Item.token?).Pairwise fun left right =>
      left.start < left.stop ∧ left.stop ≤ right.start := by
  induction tiles generalizing position with
  | nil => simp [items, Item.token?]
  | cons tile tiles ih =>
      obtain ⟨taken, nonempty⟩ := List.forall_mem_cons.mp nonempty
      have later := @ih (position.advance tile.source) nonempty
      rw [items, tokens_cons]
      cases item_eq : tile.item position with
      | diagnostic => exact later
      | token token =>
          obtain ⟨start_eq, stop_eq⟩ := span_token item_eq
          have positive := byteSize_pos taken
          refine List.pairwise_cons.mpr ⟨?_, later⟩
          intro right member
          have after := offset_le_start (mem_tokens.mp member)
          rw [offset_advance] at after
          rw [start_eq, stop_eq]
          refine ⟨?_, after⟩
          rw [source, byteSize_append]
          omega

/-- The last item is the end of the source. -/
theorem items_end (position : Position) (tiles : List Tile) (closing : List Char) :
    ∃ earlier,
      items position tiles closing =
        earlier ++
          [.token
            (Token.eof (position.advance (tiles.flatMap source ++ closing)).line
              (position.advance (tiles.flatMap source ++ closing)).offset)] := by
  induction tiles generalizing position with
  | nil => exact ⟨[], rfl⟩
  | cons tile tiles ih =>
      obtain ⟨earlier, items_eq⟩ := ih (position.advance tile.source)
      refine ⟨tile.item position :: earlier, ?_⟩
      rw [items, items_eq]
      simp

end Tile

/-- The lexeme of a token stands in the source at the place of the token. -/
theorem Tiled.token_place {options : Options} {source closing : List Char} {tiles : List Tile}
    (tiled : Tiled options source tiles closing) {token : Token}
    (member : .token token ∈ Tile.items .origin tiles closing) :
    ∃ before after, source = before ++ (token.lexeme.toList ++ after) ∧
      byteSize before = token.start ∧ token.line = (Position.origin.advance before).line := by
  rcases Tile.mem_items.mp member with ⟨front, tile, back, rfl, token_eq⟩ | token_eq
  · obtain ⟨kind, literal, -, rfl⟩ := Tile.item_token token_eq.symm
    refine ⟨front.flatMap Tile.source ++ tile.gap, back.flatMap Tile.source ++ closing, ?_, ?_, ?_⟩
    · simpa using tiled.source_split rfl
    · rw [← Position.advance_append, offset_origin]
    · rw [Position.advance_append]
  · obtain rfl := Item.token.inj token_eq
    rw [← tiled.source_eq]
    exact ⟨source, [], by simp [Token.eof], (offset_origin source).symm, rfl⟩

theorem Tiled.standsAt {options : Options} {source closing : List Char} {tiles : List Tile}
    (tiled : Tiled options source tiles closing) {token : Token}
    (member : .token token ∈ Tile.items .origin tiles closing) :
    StandsAt source token.start token.lexeme := by
  obtain ⟨before, after, source_eq, start_eq, -⟩ := tiled.token_place member
  refine ⟨String.ofList before, String.ofList after, ?_, start_eq⟩
  simp [source_eq, String.append_assoc]

/-- What the grammar takes as a token is a lexeme. -/
theorem Munches.isLexeme {options : Options} {text rest : List Char} {kind : Kind}
    {literal : Literal} (munches : Munches options text (.token kind literal) rest) :
    Lexeme options text (.token kind literal) := by
  cases munches with
  | lexeme _ lexeme => exact lexeme

/-- A token is the end of the source, or a rule makes it of its lexeme. -/
theorem Scanner.lexeme_of_mem {source : List Char} {options : Options} {token : Token}
    (member : .token token ∈ (ofSource source options).items) :
    (∃ line start, token = Token.eof line start) ∨
      Lexeme options token.lexeme.toList (.token token.kind token.literal) := by
  obtain ⟨tiles, closing, tiled⟩ := exists_tiled options source
  rw [items_ofSource tiled] at member
  rcases Tile.mem_items.mp member with ⟨front, tile, back, tiles_eq, token_eq⟩ | token_eq
  · obtain ⟨kind, literal, verdict_eq, rfl⟩ := Tile.item_token token_eq.symm
    obtain ⟨-, munches⟩ := tiled.munches tiles_eq
    rw [verdict_eq] at munches
    exact .inr (by simpa using munches.isLexeme)
  · exact .inl ⟨_, _, Item.token.inj token_eq⟩

/-- What the grammar takes without a token is what the error is about. -/
theorem Munches.concerns {options : Options} {text rest : List Char} {error : LexError}
    (munches : Munches options text (.error error) rest) : error.Concerns text := by
  cases munches with
  | lexeme _ lexeme =>
      obtain rfl := lexeme.error_eq
      rfl
  | openString closed => exact ⟨_, rfl, closed⟩
  | unexpected => rfl

/-- A gap on its own is scanned to its end and yields nothing else. -/
theorem Scanner.items_gap (options : Options) {gap : List Char} (isGap : GapText gap) :
    (Scanner.ofSource gap options).items =
      [.token (Token.eof (Position.origin.advance gap).line (byteSize gap))] := by
  rw [items_ofSource (.closing isGap), Tile.items, offset_origin]

/-- A lexeme on its own is taken whole. -/
theorem Lexeme.munches_alone {options : Options} {text : List Char} {verdict : Verdict}
    (lexeme : Lexeme options text verdict) : Munches options text verdict [] := by
  refine .lexeme ⟨List.prefix_append text [], ⟨verdict, lexeme⟩, ?_⟩ lexeme
  intro other stands _
  simpa using stands.length_le

/-- No gap stands in front of a lexeme. -/
theorem Lexeme.longest_nil {options : Options} {text : List Char} {verdict : Verdict}
    (lexeme : Lexeme options text verdict) : IsLongestPrefix GapText text [] := by
  cases text with
  | nil => exact (lexeme.ne_nil rfl).elim
  | cons first rest =>
      apply LoxTokens.longest_nil
      · rcases lexeme.string_or_visible with ⟨body, -, text_eq⟩ | visible
        · obtain ⟨rfl, -⟩ := List.cons.inj text_eq
          decide
        · exact visible first List.mem_cons_self
      · -- A slash is read as a lexeme by itself, so that no other slash follows it.
        intro comment
        obtain ⟨rfl, later, rfl⟩ := startsComment_iff.mp comment
        have alone := congrArg Piece.text (readPiece_alone lexeme)
        have slash : (readPiece options '/' ('/' :: later)).text = ['/'] := rfl
        rw [slash] at alone
        simp at alone

/-- A lexeme on its own is scanned as one item. -/
theorem Scanner.items_lexeme {options : Options} {text : List Char} {verdict : Verdict}
    (lexeme : Lexeme options text verdict) :
    (ofSource text options).items =
      [verdict.item text .origin,
        .token (Token.eof (Position.origin.advance text).line (byteSize text))] := by
  have longest : IsLongestPrefix GapText ([] ++ (text ++ [])) [] := by
    simpa using lexeme.longest_nil
  have tiled := Tiled.tile longest lexeme.munches_alone (.closing .nil)
  rw [List.nil_append, List.append_nil] at tiled
  rw [items_ofSource tiled]
  simp [Tile.items, Tile.item, Tile.source, offset_origin]

/--
Tiles and a closing gap cut a source without loss.  Each token stands in the source where it says,
the spans of the tokens follow one another, and the text of every diagnostic is what its error is
about.  No gap depends on what stands around it.
-/
structure CutsLosslessly (source : List Char) (options : Options) (tiles : List Tile)
    (closing : List Char) : Prop where
  /-- Gaps and texts rebuild the source. -/
  rebuilds : tiles.flatMap Tile.source ++ closing = source
  /-- Each tile makes one item, and the closing gap is followed by the end of the source. -/
  items_eq : (Scanner.ofSource source options).items = Tile.items .origin tiles closing
  /-- Gaps hold nothing but blanks and comments. -/
  gaps : ∀ gap ∈ closing :: tiles.map Tile.gap, GapText gap
  /-- No item is made of nothing. -/
  texts : ∀ tile ∈ tiles, tile.text ≠ []
  /-- Text that is not a token is the text that a diagnostic is about. -/
  errors : ∀ tile ∈ tiles, ∀ error, tile.verdict = .error error → error.Concerns tile.text
  /-- Tokens stand in the source where they say. -/
  lexemes : ∀ token, .token token ∈ (Scanner.ofSource source options).items →
    StandsAt source token.start token.lexeme
  /-- Spans are disjoint and increasing. -/
  spans : ((Scanner.ofSource source options).items.filterMap Item.token?).Pairwise
    fun left right => left.start < left.stop ∧ left.stop ≤ right.start
  /-- The last token is the end of the source. -/
  ends : ∃ earlier line,
    (Scanner.ofSource source options).items.filterMap Item.token? =
      earlier ++ [Token.eof line (byteSize source)]
  /-- A gap that is scanned on its own yields the end of the source only. -/
  gaps_alone : ∀ gap ∈ closing :: tiles.map Tile.gap, ∃ line,
    (Scanner.ofSource gap options).items = [.token (Token.eof line (byteSize gap))]

/-- Lossless tiling: every scan cuts its source into gaps and the texts of its items. -/
theorem exists_cutsLosslessly (source : List Char) (options : Options) :
    ∃ tiles closing, CutsLosslessly source options tiles closing := by
  obtain ⟨tiles, closing, tiled⟩ := exists_tiled options source
  have munches : ∀ tile ∈ tiles, GapText tile.gap ∧
      ∃ rest, Munches options tile.text tile.verdict rest := by
    intro tile member
    obtain ⟨front, back, tiles_eq⟩ := List.append_of_mem member
    obtain ⟨longest, munches⟩ := tiled.munches tiles_eq
    exact ⟨longest.accepted, _, munches⟩
  have gaps : ∀ gap ∈ closing :: tiles.map Tile.gap, GapText gap := by
    rw [List.forall_mem_cons, List.forall_mem_map]
    exact ⟨tiled.closing_gap, fun tile member => (munches tile member).1⟩
  have texts := tiled.texts_ne_nil
  have items_eq := Scanner.items_ofSource tiled
  refine ⟨tiles, closing, tiled.source_eq.symm, items_eq, gaps, texts, ?_, ?_, ?_, ?_, ?_⟩
  · intro tile member error verdict_eq
    obtain ⟨-, rest, munches⟩ := munches tile member
    exact (verdict_eq ▸ munches).concerns
  · intro token member
    exact tiled.standsAt (items_eq ▸ member)
  · rw [items_eq]
    exact Tile.pairwise_tokens texts
  · obtain ⟨earlier, ends⟩ := Tile.items_end .origin tiles closing
    rw [← tiled.source_eq, offset_origin] at ends
    refine ⟨earlier.filterMap Item.token?, (Position.origin.advance source).line, ?_⟩
    rw [items_eq, ends, List.filterMap_append]
    rfl
  · intro gap member
    exact ⟨_, Scanner.items_gap options (gaps gap member)⟩

end LoxTokens
