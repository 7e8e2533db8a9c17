import LoxTokens.Proofs.ByteCursor
import LoxTokens.Proofs.Lexemes
import LoxTokens.Proofs.Pulling

/-!
# Safety of the cursor

A scan by byte offsets never slices its source beyond the end or inside a character.  It has a
result for every source, and that is the result of the scan by characters.
-/

namespace LoxTokens
namespace ByteScanner

/-! ## Items -/

namespace Stands

variable {scanner : ByteScanner} {before taken rest : List Char}

theorem makeToken (stands : Stands scanner before taken rest) (kind : Kind) (literal : Literal) :
    Does (makeToken kind literal) scanner
      (.token
        { kind
          lexeme := String.ofList taken
          literal
          line := scanner.startLine
          start := scanner.start })
      scanner :=
  stands.lexeme.bind (Does.get.bind (Does.pure _))

end Stands

theorem Does.report (scanner : ByteScanner) (error : LexError) :
    Does (report error) scanner (.diagnostic { line := scanner.line, error }) scanner :=
  Does.get.bind (Does.pure _)

/-- Where the lexeme starts. -/
def lexemeStart (scanner : ByteScanner) : Position where
  offset := scanner.start
  line := scanner.startLine

/-- A part yields the item of a piece from behind the first character and moves over the others. -/
def Yields (part : Reading Item) (scanner : ByteScanner) (first : Char) (piece : Piece) : Prop :=
  ∃ more, piece.text = first :: more ∧
    Does part scanner (piece.item scanner.lexemeStart (scanner.position.advance more))
      (scanner.moveOver more)

/-- What a part does may depend on the state. -/
theorem Yields.of_get {next : ByteScanner → Reading Item} {scanner : ByteScanner} {first : Char}
    {piece : Piece} (yields : Yields (next scanner) scanner first piece) :
    Yields (get >>= next) scanner first piece := by
  obtain ⟨more, text_eq, does⟩ := yields
  exact ⟨more, text_eq, Does.get.bind does⟩

namespace Stands

variable {scanner : ByteScanner} {before rest : List Char} {first : Char}

theorem operator (stands : Stands scanner before [first] rest) (alone joined : Kind) :
    Yields (operator alone joined) scanner first (readOperator first alone joined rest) := by
  by_cases equals : rest.head? = some '='
  · obtain ⟨rest, rfl⟩ := List.head?_eq_some_iff.mp equals
    have matched := stands.matchNext_self
    rw [← moveOver_singleton (by decide)] at matched
    have moved := stands.moveOver ['=']
    exact ⟨['='], rfl, matched.bind (moved.makeToken joined .null)⟩
  · have alone_eq : readOperator first alone joined rest =
        { text := [first], verdict := .token alone .null, rest } := by
      cases rest with
      | nil => rfl
      | cons next rest =>
          have different : next ≠ '=' := by simpa using equals
          simp [readOperator, different]
    rw [alone_eq]
    exact ⟨[], rfl, (stands.matchNext_of_ne equals).bind (stands.makeToken alone .null)⟩

theorem skipCounted {taken : List Char} {character : Char}
    (stands : Stands scanner before taken (character :: rest)) :
    Does skipCounted scanner () (scanner.moveOver [character]) := by
  refine stands.nextChar.bind ?_
  split
  · rename_i newline
    subst newline
    exact Does.change rfl
  · rename_i same_line
    rw [moveOver_singleton same_line]
    exact Does.pure ()

/-- A string goes on to the next quote; its text lies between the quotes. -/
theorem string (stands : Stands scanner before ['"'] rest) :
    Yields string scanner '"' (readString rest) := by
  have body := stands.whileDo (fun stands => stands.goesOn '"') (fun stands _ => stands.skipCounted)
  by_cases closed : '"' ∈ rest
  · obtain ⟨text, rest, rfl, outside⟩ := List.eq_append_cons_of_mem closed
    rw [takeWhile_append_stop (bne_of_notMem outside) (by rfl)] at body
    have opened := stands.moveOver text
    have quote := opened.skipChar_moveOver (by decide)
    have moved := opened.moveOver ['"']
    have value := moved.inside (by rfl) (by rfl)
    have token := moved.makeToken .string (.string (String.ofList text))
    rw [← moveOver_append] at quote value token
    rw [readString_closed outside]
    exact ⟨text ++ ['"'], rfl, body.bind (opened.isEnd.bind (quote.bind (value.bind token)))⟩
  · rw [List.takeWhile_eq_self_iff.mpr (bne_of_notMem closed)] at body
    rw [← List.append_nil rest] at stands
    rw [readString_open closed]
    exact ⟨rest, rfl, body.bind ((stands.moveOver rest).isEnd.bind (Does.report _ _))⟩

/-- The digits before and after the point are found again in the text of a number. -/
theorem numeralValue_eq {whole fraction : List Char} (digits : ∀ digit ∈ whole, digit.isDigit) :
    numeralValue (numeralText whole fraction) =
      (Decimal.ofDigitRuns whole fraction).toBinary64 := by
  rw [numeralText, numeralValue]
  split
  · rename_i empty
    obtain rfl := List.isEmpty_iff.mp empty
    rw [List.takeWhile_eq_self_iff.mpr digits, List.dropWhile_eq_nil_iff.mpr digits, List.tail_nil]
  · rw [takeWhile_append_stop digits (by rfl), dropWhile_append_stop digits (by rfl),
      List.tail_cons]

theorem skipFraction {taken : List Char} (stands : Stands scanner before taken rest) :
    Does skipFraction scanner () (scanner.moveOver (numeralText [] (readFraction rest).1)) := by
  refine stands.peek.bind ?_
  cases rest with
  | nil => exact Does.pure ()
  | cons next after =>
      rw [List.headD_cons]
      split
      · rename_i point
        subst point
        have digits := (stands.moveOver ['.']).skipDigits
        rw [← moveOver_append] at digits
        refine stands.peekNext.bind ?_
        rw [List.tail_cons]
        cases after with
        | nil => exact Does.pure ()
        | cons digit after =>
            rw [List.headD_cons]
            split
            · rename_i isDigit
              have taken : readFraction ('.' :: digit :: after) =
                  (digit :: after.takeWhile Char.isDigit, after.dropWhile Char.isDigit) := by
                simp [readFraction, isDigit]
              rw [List.takeWhile_cons_of_pos isDigit] at digits
              rw [taken]
              exact (stands.skipChar_moveOver (by decide)).bind digits
            · rename_i not_digit
              have nothing :
                  readFraction ('.' :: digit :: after) = ([], '.' :: digit :: after) := by
                simp [readFraction, not_digit]
              rw [nothing]
              exact Does.pure ()
      · rename_i no_point
        have nothing : readFraction (next :: after) = ([], next :: after) := by
          simp [readFraction, no_point]
        rw [nothing]
        exact Does.pure ()

/-- The digits of a number, and those behind a point, are moved over one after the other. -/
theorem number (stands : Stands scanner before [first] rest) (isDigit : first.isDigit) :
    Yields number scanner first (readNumber first rest) := by
  obtain ⟨whole, left, digits, rest_eq, whole_moves, reads⟩ : ∃ whole left,
      (∀ digit ∈ whole, digit.isDigit) ∧ rest = whole ++ left ∧
        Does ByteScanner.skipDigits scanner () (scanner.moveOver whole) ∧
          readNumber first rest =
            { text := numeralText (first :: whole) (readFraction left).1
              verdict := numeralVerdict (first :: whole) (readFraction left).1
              rest := (readFraction left).2 } :=
    ⟨rest.takeWhile Char.isDigit, rest.dropWhile Char.isDigit,
      fun digit member => List.all_eq_true.mp List.all_takeWhile digit member,
      List.takeWhile_append_dropWhile.symm, stands.skipDigits, rfl⟩
  rw [reads]
  rw [rest_eq] at stands
  have passed := stands.moveOver whole
  have fraction_moves := passed.skipFraction
  rw [← readFraction_append left] at passed
  have moved := passed.moveOver (numeralText [] (readFraction left).1)
  generalize (readFraction left).1 = fraction at *
  have text_eq := numeralText_eq_append (first :: whole) fraction
  have value_eq := @numeralValue_eq (first :: whole) fraction
    (List.forall_mem_cons.mpr ⟨isDigit, digits⟩)
  rw [← moveOver_append] at fraction_moves moved
  refine ⟨whole ++ numeralText [] fraction, text_eq, ?_⟩
  refine whole_moves.bind (fraction_moves.bind (moved.lexeme.bind ?_))
  -- The lexeme is the text of the number, so that its value can be found in it again.
  have taken_eq : [first] ++ whole ++ numeralText [] fraction =
      numeralText (first :: whole) fraction := text_eq.symm
  rw [taken_eq] at moved ⊢
  rw [value_eq, numeralVerdict]
  dsimp only
  split
  · exact moved.makeToken _ _
  · exact moved.lexeme.bind (Does.report _ _)

theorem inWord {taken : List Char} (stands : Stands scanner before taken rest) :
    Does inWord scanner (rest.head?.any continuesWord) scanner := by
  refine stands.peek.bind ?_
  cases rest with
  | nil => exact stands.peek.bind (Does.pure _)
  | cons character rest =>
      rw [List.headD_cons, List.head?_cons, Option.any_some, continuesWord]
      cases alphanumeric : character.isAlphanum with
      | true => exact Does.pure true
      | false => exact stands.peek.bind (Does.pure _)

theorem word (stands : Stands scanner before [first] rest) :
    Yields word scanner first (readWord first rest) := by
  have letters := stands.whileDo inWord fun stands continues =>
    stands.skipChar_moveOver (by rintro rfl; contradiction)
  rw [← @List.takeWhile_append_dropWhile _ continuesWord rest] at stands
  have moved := stands.moveOver (rest.takeWhile continuesWord)
  exact ⟨rest.takeWhile continuesWord, rfl, letters.bind (moved.lexeme.bind (moved.makeToken _ _))⟩

/-- The first character decides what is read, as it does for pieces. -/
theorem itemFrom (stands : Stands scanner before [first] rest) :
    Yields (itemFrom first) scanner first (readPiece scanner.options first rest) := by
  apply Yields.of_get
  unfold readPiece
  cases Kind.ofPunctuation? first with
  | some kind => exact ⟨[], rfl, stands.makeToken kind .null⟩
  | none =>
      cases Kind.ofOperator? first with
      | some kinds => exact stands.operator kinds.1 kinds.2
      | none =>
          dsimp only
          split_ifs with quote isDigit
          · subst quote
            exact stands.string
          · exact stands.number isDigit
          · exact stands.word
          · exact ⟨[], rfl, Does.report _ _⟩

theorem item_nil (stands : Stands scanner before [] []) :
    Does item scanner
      (.token (Token.eof scanner.position.line scanner.position.offset))
      { scanner with finished := true } :=
  stands.isEnd.bind ((Does.change rfl).bind (Does.get.bind (Does.pure _)))

theorem item_cons (stands : Stands scanner before [] (first :: rest)) (same_line : first ≠ '\n') :
    Does item scanner
      ((readPiece scanner.options first rest).item scanner.lexemeStart
        (scanner.position.advance (readPiece scanner.options first rest).text))
      (scanner.moveOver (readPiece scanner.options first rest).text) := by
  have step := stands.nextChar
  rw [← moveOver_singleton same_line] at step
  obtain ⟨more, text_eq, does⟩ := (stands.moveOver [first]).itemFrom
  have text_eq : (readPiece scanner.options first rest).text = first :: more := text_eq
  rw [← moveOver_append] at does
  rw [text_eq]
  exact stands.isEnd.bind (step.bind does)

/-- A lexeme that begins at the cursor has no text yet. -/
theorem atLexeme {taken : List Char} (stands : Stands scanner before taken rest) :
    Stands scanner.atLexeme (before ++ taken) [] rest where
  source_eq := by rw [List.append_nil]; exact stands.source_eq
  start_eq := stands.current_eq
  current_eq := by rw [List.append_nil]; exact stands.current_eq

end Stands

/-! ## Pulls -/

/-- A scan by byte offsets stands where a scan by characters does. -/
structure Follows (bytes : ByteScanner) (scanner : Scanner) : Prop where
  /-- Behind its cursor comes the text left. -/
  stands : ∃ before taken, Stands bytes before taken scanner.rest
  /-- The cursor is at the same place. -/
  position_eq : bytes.position = scanner.position
  /-- The same is recognised. -/
  options_eq : bytes.options = scanner.options
  /-- One is at its end if the other is. -/
  finished_eq : bytes.finished = scanner.finished

/-- A pull has a result; it yields the same item and leads to the same place. -/
theorem Follows.pull {bytes : ByteScanner} {scanner : Scanner} (follows : Follows bytes scanner) :
    ∃ after, Does pull bytes (scanner.next?.map Prod.fst) after ∧
      Follows after ((scanner.next?.map Prod.snd).getD scanner) := by
  have ⟨⟨before, taken, stands⟩, position_eq, options_eq, finished_eq⟩ := follows
  unfold ByteScanner.pull Scanner.next?
  cases finished : scanner.finished with
  | true =>
      refine ⟨bytes, Does.get.bind ?_, follows⟩
      rw [finished_eq, finished]
      exact Does.pure none
  | false =>
      rw [finished] at finished_eq
      obtain ⟨gap, left, rest_eq, visible, skipped, skips⟩ := stands.skipBlanks
      rw [rest_eq] at stands
      have begun := (stands.moveOver gap).atLexeme
      rw [position_eq] at skipped
      rw [skipped]
      have place : (bytes.moveOver gap).atLexeme.position = scanner.position.advance gap :=
        congrArg (Position.advance · gap) position_eq
      have start : (bytes.moveOver gap).atLexeme.lexemeStart = scanner.position.advance gap := place
      have pulled {item : Item} {after : ByteScanner}
          (does : Does ByteScanner.item (bytes.moveOver gap).atLexeme item after) :
          Does ByteScanner.pull bytes (some item) after := by
        refine Does.get.bind ?_
        rw [finished_eq]
        exact skips.bind ((Does.change rfl).bind (does.bind (Does.pure _)))
      cases left with
      | nil =>
          have token := begun.item_nil
          rw [place] at token
          exact ⟨_, pulled token,
            { stands := ⟨_, _, begun.source_eq, begun.start_eq, begun.current_eq⟩
              position_eq := place
              options_eq
              finished_eq := rfl }⟩
      | cons first rest =>
          have same_line : first ≠ '\n' := by
            rintro rfl
            exact visible _ rfl rfl
          have item := begun.item_cons same_line
          have piece_eq := readPiece_append scanner.options first rest
          have options_eq : (bytes.moveOver gap).atLexeme.options = scanner.options := options_eq
          rw [← piece_eq] at begun
          rw [options_eq, start, place] at item
          exact ⟨_, pulled item,
            { stands := ⟨_, _, begun.moveOver _⟩
              position_eq := congrArg (Position.advance · _) place
              options_eq
              finished_eq }⟩

theorem Follows.pulls {bytes : ByteScanner} {scanner : Scanner} (follows : Follows bytes scanner)
    (count : Nat) :
    ∃ after, Does (pulls count) bytes (scanner.take count).1 after ∧
      Follows after (scanner.take count).2 := by
  induction count generalizing bytes scanner with
  | zero => exact ⟨bytes, Does.pure [], follows⟩
  | succ count ih =>
      obtain ⟨middle, pulled, middle_follows⟩ := follows.pull
      obtain ⟨after, later, after_follows⟩ := ih middle_follows
      cases next : scanner.next? with
      | none =>
          -- A scan that has ended stays where it is, so that all later pulls yield nothing.
          have nothing := Scanner.take_finished (Scanner.next?_eq_none_iff.mp next)
          rw [next] at pulled later after_follows
          simp only [Option.map_none, Option.getD_none, nothing] at pulled later after_follows
          rw [nothing]
          exact ⟨after, pulled.bind (later.bind (Does.pure _)), after_follows⟩
      | some pull =>
          rw [next] at pulled later after_follows
          simp only [Scanner.take, next]
          exact ⟨after, pulled.bind (later.bind (Does.pure _)), after_follows⟩

end ByteScanner

/-! ## Safety -/

/-- What a scan by byte offsets that makes some number of pulls does. -/
structure RunsSafely (source : List Char) (options : Options) (count : Nat) (after : ByteScanner)
    (moments : List Moment) : Prop where
  /-- It has a result, and yields the items of the scan by characters. -/
  run_eq :
    ((ByteScanner.pulls count).run (.ofSource (String.ofList source) options)).run [] =
      some ((((Scanner.ofSource source options).take count).1, after), moments)
  /-- Between pulls its offsets are sound. -/
  sound : SoundOffsets (String.ofList source) after.start after.current
  /-- Its cursor stands where the scan by characters does. -/
  follows : after.Follows ((Scanner.ofSource source options).take count).2
  /-- Whatever is done during a pull is safe. -/
  safe : ∀ moment ∈ moments, moment.IsSafe (String.ofList source)

/--
Slice safety.  However often a scan by byte offsets is pulled, no slice of the source is out of
range or inside a character.  At each look, each step and each slice, and between the pulls, the
offsets are in order and lie between characters, and each step is as wide as the character that it
passes.
-/
theorem exists_runsSafely (source : List Char) (options : Options) (count : Nat) :
    ∃ after moments, RunsSafely source options count after moments := by
  have begins : (ByteScanner.ofSource (String.ofList source) options).Follows
      (.ofSource source options) :=
    { stands := ⟨[], [], rfl, rfl, rfl⟩, position_eq := rfl, options_eq := rfl, finished_eq := rfl }
  obtain ⟨after, does, follows⟩ := begins.pulls count
  obtain ⟨source_eq, runs⟩ := does
  obtain ⟨moments, run_eq, safe⟩ := runs []
  obtain ⟨before, taken, stands⟩ := follows.stands
  have sound := stands.sound
  rw [List.append_nil] at run_eq
  rw [source_eq] at sound
  exact ⟨after, moments, run_eq, sound, follows, safe⟩

end LoxTokens
