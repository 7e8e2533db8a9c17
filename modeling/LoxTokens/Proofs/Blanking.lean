import LoxTokens.Proofs.Tiling

/-!
# Blanking out what is not a token

Everything outside the spans of the tokens of a scan means as much as blanks.  A tile that is not a
token fades into the gap before the next tile, and a token is read as before, because no blank can
make its lexeme longer.
-/

namespace LoxTokens

/-- Whether a byte offset lies in the span of one of some tokens. -/
def covers (tokens : List Token) (offset : Nat) : Bool :=
  tokens.any fun token => decide (token.start ≤ offset) && decide (offset < token.stop)

/-- A character as so many spaces as it has bytes; a newline stays. -/
def blankCharacter (character : Char) : List Char :=
  if character = '\n' then ['\n'] else List.replicate character.utf8Size ' '

/-- Blank out what some tokens do not cover of the text that starts at a byte offset. -/
def blankFrom (tokens : List Token) : (offset : Nat) → List Char → List Char
  | _, [] => []
  | offset, character :: rest =>
      (if covers tokens offset then [character] else blankCharacter character) ++
        blankFrom tokens (offset + character.utf8Size) rest

/-- A source in which everything but newlines is blanked out outside the spans of some tokens. -/
def blankOutside (tokens : List Token) (source : List Char) : List Char :=
  blankFrom tokens 0 source

/-- A text of which nothing but the newlines is left. -/
def blankText (text : List Char) : List Char := text.flatMap blankCharacter

theorem blankText_cons (character : Char) (text : List Char) :
    blankText (character :: text) = blankCharacter character ++ blankText text :=
  List.flatMap_cons

theorem isBlank_blankCharacter {source : Char} :
    ∀ character ∈ blankCharacter source, isBlank character := by
  intro character member
  unfold blankCharacter at member
  split at member
  · obtain rfl := List.mem_singleton.mp member
    rfl
  · obtain rfl := List.eq_of_mem_replicate member
    rfl

theorem isBlank_blankText {text : List Char} :
    ∀ character ∈ blankText text, isBlank character := by
  intro character member
  obtain ⟨source, -, member⟩ := List.mem_flatMap.mp member
  exact isBlank_blankCharacter character member

theorem blankCharacter_ne_nil (character : Char) : blankCharacter character ≠ [] := by
  have size := character.utf8Size_pos
  unfold blankCharacter
  split
  · simp
  · rw [Ne, List.replicate_eq_nil_iff]
    omega

/-! ## Blanking out between tokens -/

section blankFrom

variable {tokens : List Token} {offset : Nat}

theorem blankFrom_append (left right : List Char) :
    blankFrom tokens offset (left ++ right) =
      blankFrom tokens offset left ++ blankFrom tokens (offset + byteSize left) right := by
  induction left generalizing offset with
  | nil => rfl
  | cons character left ih =>
      rw [List.cons_append, blankFrom, blankFrom, ih, byteSize_cons, List.append_assoc,
        Nat.add_assoc]

/-- A text that lies in the span of a token stays. -/
theorem blankFrom_inside {token : Token} (member : token ∈ tokens) {text : List Char}
    (starts : token.start ≤ offset) (stops : offset + byteSize text ≤ token.stop) :
    blankFrom tokens offset text = text := by
  induction text generalizing offset with
  | nil => rfl
  | cons character text ih =>
      have size := character.utf8Size_pos
      rw [byteSize_cons] at stops
      have covered : covers tokens offset := by
        rw [covers, List.any_eq_true]
        refine ⟨token, member, ?_⟩
        rw [Bool.and_eq_true, decide_eq_true_iff, decide_eq_true_iff]
        omega
      rw [blankFrom, if_pos covered, ih (by omega) (by omega)]
      rfl

/-- A text that lies outside the spans of all tokens is blanked out. -/
theorem blankFrom_outside {text : List Char}
    (outside : ∀ token ∈ tokens, token.stop ≤ offset ∨ offset + byteSize text ≤ token.start) :
    blankFrom tokens offset text = blankText text := by
  induction text generalizing offset with
  | nil => rfl
  | cons character text ih =>
      have size := character.utf8Size_pos
      simp only [byteSize_cons] at outside
      have uncovered : ¬ covers tokens offset := by
        rw [covers, List.any_eq_true]
        rintro ⟨token, member, inside⟩
        rw [Bool.and_eq_true, decide_eq_true_iff, decide_eq_true_iff] at inside
        have := outside token member
        omega
      have later : ∀ token ∈ tokens, token.stop ≤ offset + character.utf8Size ∨
          offset + character.utf8Size + byteSize text ≤ token.start := by
        intro token member
        have := outside token member
        omega
      rw [blankFrom, if_neg uncovered, ih later, blankText_cons]

end blankFrom

namespace Tile

/-- The source text of a tile, of which a token stays and all else is blanked out. -/
def blanked (tile : Tile) : List Char :=
  match tile.verdict with
  | .token _ _ => blankText tile.gap ++ tile.text
  | .error _ => blankText tile.source

/-- Between earlier and later tokens, blanking out leaves of a tile only its token. -/
theorem blankFrom_tile {earlier later : List Token} {position : Position} {tile : Tile}
    (stopped : ∀ token ∈ earlier, token.stop ≤ position.offset)
    (after : ∀ token ∈ later, position.offset + byteSize tile.source ≤ token.start) :
    blankFrom (earlier ++ ((tile.item position).token?.toList ++ later)) position.offset
        tile.source =
      tile.blanked := by
  cases item_eq : tile.item position with
  | diagnostic diagnostic =>
      obtain ⟨error, verdict_eq, -⟩ := item_diagnostic item_eq
      rw [blanked, verdict_eq]
      apply blankFrom_outside
      intro token member
      rcases List.mem_append.mp member with member | member
      · exact .inl (stopped token member)
      · exact .inr (after token member)
  | token token =>
      obtain ⟨kind, literal, verdict_eq, -⟩ := item_token item_eq
      obtain ⟨start_eq, stop_eq⟩ := span_token item_eq
      rw [source, byteSize_append] at stop_eq after
      rw [blanked, verdict_eq, source, blankFrom_append]
      congr 1
      · apply blankFrom_outside
        intro other member
        rcases List.mem_append.mp member with member | member
        · exact .inl (stopped other member)
        · rcases List.mem_cons.mp member with rfl | member
          · exact .inr start_eq.ge
          · have later_start := after other member
            omega
      · apply blankFrom_inside (List.mem_append_right earlier List.mem_cons_self)
        · exact start_eq.le
        · omega

/-- Blanking out between the tokens of some tiles blanks out each tile. -/
theorem blankFrom_tiles (position : Position) (tiles : List Tile) (closing : List Char)
    {earlier : List Token} (stopped : ∀ token ∈ earlier, token.stop ≤ position.offset) :
    blankFrom (earlier ++ (items position tiles closing).filterMap Item.token?) position.offset
        (tiles.flatMap source ++ closing) =
      tiles.flatMap blanked ++ blankText closing := by
  induction tiles generalizing earlier position with
  | nil =>
      apply blankFrom_outside
      intro token member
      rcases List.mem_append.mp member with member | member
      · exact .inl (stopped token member)
      · obtain rfl := Item.token.inj (List.mem_singleton.mp (mem_tokens.mp member))
        exact .inr (offset_advance position closing).ge
  | cons tile tiles ih =>
      have moved := offset_advance position tile.source
      have after : ∀ token ∈ (items (position.advance tile.source) tiles closing).filterMap
          Item.token?, position.offset + byteSize tile.source ≤ token.start := by
        intro token member
        exact moved ▸ offset_le_start (mem_tokens.mp member)
      have stopped_later : ∀ token ∈ earlier ++ (tile.item position).token?.toList,
          token.stop ≤ (position.advance tile.source).offset := by
        intro token member
        rw [moved]
        rcases List.mem_append.mp member with member | member
        · exact Nat.le_add_right_of_le (stopped token member)
        · exact (span_token (Item.token?_eq_some.mp (Option.mem_toList.mp member))).2.le
      have later := ih _ stopped_later
      rw [List.append_assoc, moved] at later
      rw [items, tokens_cons, List.flatMap_cons, List.append_assoc, blankFrom_append,
        blankFrom_tile stopped after, later, List.flatMap_cons, List.append_assoc]

end Tile

/-! ## Positions -/

private theorem advance_spaces (position : Position) (count : Nat) :
    position.advance (List.replicate count ' ') =
      { offset := position.offset + count, line := position.line } := by
  induction count generalizing position with
  | zero => rfl
  | succ count ih =>
      have size : ' '.utf8Size = 1 := rfl
      rw [List.replicate_succ, Position.advance_cons, ih]
      simp [Position.next, size]
      omega

/-- Blanking out a text changes no position after it. -/
theorem advance_blankText (position : Position) (text : List Char) :
    position.advance (blankText text) = position.advance text := by
  induction text generalizing position with
  | nil => rfl
  | cons character text ih =>
      rw [blankText_cons, Position.advance_append, Position.advance_cons, ih]
      congr 1
      by_cases newline : character = '\n'
      · simp [blankCharacter, newline]
      · simp [blankCharacter, newline, advance_spaces, Position.next]

/-! ## Faded texts -/

/-- A text turns into another one when some of its characters are blanked out. -/
inductive Fades : List Char → List Char → Prop where
  | nil : Fades [] []
  | keep {character : Char} {text faded : List Char} :
      Fades text faded → Fades (character :: text) (character :: faded)
  | blank {character : Char} {text faded : List Char} :
      Fades text faded → Fades (character :: text) (blankCharacter character ++ faded)

namespace Fades

variable {text faded : List Char}

theorem append_left (fades : Fades text faded) (front : List Char) :
    Fades (front ++ text) (front ++ faded) := by
  induction front with
  | nil => exact fades
  | cons character front ih => exact .keep ih

theorem append_blank (fades : Fades text faded) (front : List Char) :
    Fades (front ++ text) (blankText front ++ faded) := by
  induction front with
  | nil => exact fades
  | cons character front ih =>
      rw [blankText_cons, List.append_assoc]
      exact .blank ih

/-- What is still visible at the front of a faded text stood there before. -/
theorem showsNoMore (fades : Fades text faded) : ShowsNoMore text faded := by
  intro front visible remains
  induction fades generalizing front with
  | nil => exact remains
  | keep _ ih =>
      cases front with
      | nil => exact List.nil_prefix
      | cons first front =>
          obtain ⟨rfl, later⟩ := List.cons_prefix_cons.mp remains
          obtain ⟨-, visible⟩ := List.forall_mem_cons.mp visible
          exact List.cons_prefix_cons.mpr ⟨rfl, ih front visible later⟩
  | @blank character text faded _ _ =>
      cases front with
      | nil => exact List.nil_prefix
      | cons first front =>
          obtain ⟨head, tail, blanks_eq⟩ :=
            List.exists_cons_of_ne_nil (blankCharacter_ne_nil character)
          have blank := isBlank_blankCharacter head (blanks_eq ▸ List.mem_cons_self)
          rw [blanks_eq, List.cons_append] at remains
          obtain ⟨rfl, -⟩ := List.cons_prefix_cons.mp remains
          exact (visible first List.mem_cons_self blank).elim

end Fades

theorem Tile.fades (tiles : List Tile) (closing : List Char) :
    Fades (tiles.flatMap source ++ closing) (tiles.flatMap blanked ++ blankText closing) := by
  induction tiles with
  | nil => simpa using Fades.nil.append_blank closing
  | cons tile tiles ih =>
      rw [List.flatMap_cons, List.append_assoc, List.flatMap_cons, List.append_assoc, blanked]
      split
      · rw [source, List.append_assoc, List.append_assoc]
        exact (ih.append_left tile.text).append_blank tile.gap
      · exact ih.append_blank tile.source

/-! ## Scanning again -/

/-- Of a tiling of which all but the tokens is blanked out, the tokens are left. -/
theorem Tiled.blanked {options : Options} {source closing : List Char} {tiles : List Tile}
    (tiled : Tiled options source tiles closing) {blanks : List Char}
    (blank : ∀ character ∈ blanks, isBlank character) :
    ∃ others ending,
      Tiled options (blanks ++ (tiles.flatMap Tile.blanked ++ blankText closing)) others ending ∧
        ∀ position, Tile.items position others ending =
          ((Tile.items (position.advance blanks) tiles closing).filterMap Item.token?).map
            Item.token := by
  induction tiled generalizing blanks with
  | @closing gap _ =>
      refine ⟨[], blanks ++ blankText gap, .closing (closedGap_blanks ?_).gapText, ?_⟩
      · exact List.forall_mem_append.mpr ⟨blank, isBlank_blankText⟩
      · intro position
        simp [Tile.items, Item.token?, advance_blankText]
  | @tile gap text rest closing verdict tiles longest munches tiled ih =>
      cases verdict with
      | error error =>
          have blank_all : ∀ character ∈ blanks ++ blankText (gap ++ text), isBlank character :=
            List.forall_mem_append.mpr ⟨blank, isBlank_blankText⟩
          obtain ⟨others, ending, again, items_eq⟩ := ih blank_all
          refine ⟨others, ending, ?_, ?_⟩
          · simpa [Tile.blanked, Tile.source] using again
          · intro position
            rw [items_eq, Tile.items, Position.advance_append, advance_blankText]
            rfl
      | token kind literal =>
          have shows := (Tile.fades tiles closing).showsNoMore
          rw [← tiled.source_eq] at shows
          obtain ⟨others, ending, again, items_eq⟩ := @ih [] (by simp)
          rw [List.nil_append] at again
          have blank_all : ∀ character ∈ blanks ++ blankText gap, isBlank character :=
            List.forall_mem_append.mpr ⟨blank, isBlank_blankText⟩
          have gap_longest :=
            (closedGap_blanks blank_all).longest_of_shows shows munches.ne_nil longest
          have taken := munches.of_shows shows Verdict.noConfusion
          have tiled_again := Tiled.tile gap_longest taken again
          refine
            ⟨{ gap := blanks ++ blankText gap, text, verdict := .token kind literal } :: others,
              ending, ?_, ?_⟩
          · simpa [Tile.blanked] using tiled_again
          · intro position
            simp [Tile.items, Tile.item, Tile.source, Verdict.item, Item.token?, items_eq,
              advance_blankText]

/--
Everything outside the spans of tokens means as much as blanks: when all of it but the newlines is
blanked out, a scan yields the same tokens and nothing else.
-/
theorem items_blankOutside (source : List Char) (options : Options) :
    let tokens := (Scanner.ofSource source options).items.filterMap Item.token?
    (Scanner.ofSource (blankOutside tokens source) options).items = tokens.map Item.token := by
  obtain ⟨tiles, closing, tiled⟩ := exists_tiled options source
  obtain ⟨others, ending, again, items_eq⟩ := tiled.blanked (List.forall_mem_nil _)
  intro tokens
  have tokens_eq : tokens = (Tile.items .origin tiles closing).filterMap Item.token? :=
    congrArg (List.filterMap Item.token?) (Scanner.items_ofSource tiled)
  have blanked_eq : blankOutside tokens source =
      tiles.flatMap Tile.blanked ++ blankText closing := by
    have blanked := Tile.blankFrom_tiles .origin tiles closing (List.forall_mem_nil _)
    rw [List.nil_append, ← tiled.source_eq, ← tokens_eq] at blanked
    exact blanked
  rw [List.nil_append] at again
  rw [blanked_eq, Scanner.items_ofSource again, items_eq, tokens_eq]
  rfl

end LoxTokens
