import LoxTokens.Proofs.Tiling

/-!
# Strings and comments

Three modes and a few characters are enough to find the strings of a source.  A quote enters a
string and leaves it, two slashes enter a comment, and a newline leaves it.  The scan agrees with
that, whatever else it reads: its strings are the stretches between a quote that enters a string and
the next one, and a string is unterminated exactly if the source ends in one.
-/

namespace LoxTokens

/-! ## Modes -/

/-- Where in a source a character stands. -/
inductive Mode where
  /-- Neither in a comment nor in a string. -/
  | code
  /-- In a comment. -/
  | comment
  /-- In a string. -/
  | string
  deriving DecidableEq

namespace Mode

/-- The mode after some more characters, read from left to right. -/
def after : Mode → List Char → Mode
  | mode, [] => mode
  | code, '/' :: '/' :: rest => comment.after rest
  | code, '"' :: rest => string.after rest
  | code, _ :: rest => code.after rest
  | comment, '\n' :: rest => code.after rest
  | comment, _ :: rest => comment.after rest
  | string, '"' :: rest => code.after rest
  | string, _ :: rest => string.after rest

section steps

variable (rest : List Char)

/-- Two slashes enter a comment. -/
theorem after_slashes : code.after ('/' :: '/' :: rest) = comment.after rest := rfl

/-- A newline leaves a comment. -/
theorem after_newline : comment.after ('\n' :: rest) = code.after rest := rfl

/-- A quote enters a string. -/
theorem after_opening : code.after ('"' :: rest) = string.after rest := rfl

/-- A quote leaves a string. -/
theorem after_closing : string.after ('"' :: rest) = code.after rest := rfl

end steps

/-- A character, in front of some text, enters or leaves a comment or a string. -/
def Turns : Mode → Char → List Char → Prop
  | code, character, rest => character = '"' ∨ startsComment character rest
  | comment, character, _ => character = '\n'
  | string, character, _ => character = '"'

/-- Any other character keeps the mode. -/
theorem after_cons {mode : Mode} {character : Char} {rest : List Char}
    (stays : ¬ mode.Turns character rest) : mode.after (character :: rest) = mode.after rest := by
  cases mode with
  | code =>
      obtain ⟨quote, lone⟩ := not_or.mp stays
      -- The last equation for code is left, as no comment and no string starts here.
      rw [after]
      · rintro later rfl rfl
        exact lone (startsComment_iff.mpr ⟨rfl, later, rfl⟩)
      · exact quote
  | comment =>
      rw [after]
      exact stays
  | string =>
      rw [after]
      exact stays

/-- A text keeps the mode if none of its characters does anything. -/
theorem after_append {mode : Mode} {text : List Char}
    (stays : ∀ character ∈ text, ∀ rest, ¬ mode.Turns character rest) (rest : List Char) :
    mode.after (text ++ rest) = mode.after rest := by
  induction text with
  | nil => rfl
  | cons character text ih =>
      obtain ⟨first, later⟩ := List.forall_mem_cons.mp stays
      rw [List.cons_append, after_cons (first _), ih later]

theorem after_code_append {text : List Char} (quote : '"' ∉ text) (slash : '/' ∉ text)
    (rest : List Char) : code.after (text ++ rest) = code.after rest := by
  apply after_append
  rintro character member later (rfl | comment)
  · exact quote member
  · obtain ⟨rfl, -⟩ := startsComment_iff.mp comment
    exact slash member

theorem after_comment_append {body : List Char} (closed : '\n' ∉ body) (rest : List Char) :
    comment.after (body ++ rest) = comment.after rest := by
  apply after_append
  rintro character member later rfl
  exact closed member

theorem after_string_append {body : List Char} (closed : '"' ∉ body) (rest : List Char) :
    string.after (body ++ rest) = string.after rest := by
  apply after_append
  rintro character member later rfl
  exact closed member

theorem after_comment_closed {body : List Char} (closed : '\n' ∉ body) :
    comment.after body = comment := by
  have appended := after_comment_append closed []
  rwa [List.append_nil] at appended

theorem after_string_closed {body : List Char} (closed : '"' ∉ body) :
    string.after body = string := by
  have appended := after_string_append closed []
  rwa [List.append_nil] at appended

end Mode

open Mode

/-! ## Modes in gaps -/

theorem after_blank {character : Char} (blank : character ∈ [' ', '\t', '\r', '\n'])
    (rest : List Char) : code.after (character :: rest) = code.after rest := by
  apply after_cons
  rintro (rfl | comment)
  · contradiction
  · obtain ⟨rfl, -⟩ := startsComment_iff.mp comment
    contradiction

/-- A closed gap leads back to code. -/
theorem ClosedGap.after {gap : List Char} (closed : ClosedGap gap) (rest : List Char) :
    code.after (gap ++ rest) = code.after rest := by
  induction closed with
  | nil => rfl
  | blank blank _ ih => rw [List.cons_append, after_blank blank, ih]
  | @comment body gap body_closed _ ih =>
      rw [List.cons_append, List.cons_append, List.append_assoc, after_slashes,
        after_comment_append body_closed, List.cons_append, after_newline, ih]

/-- No gap ends in a string. -/
theorem GapText.after_ne {gap : List Char} (accepted : GapText gap) : code.after gap ≠ string := by
  induction accepted with
  | nil => decide
  | blank blank _ ih => rwa [after_blank blank]
  | @comment body gap body_closed _ ih =>
      rw [after_blank (by decide)] at ih
      rwa [after_slashes, after_comment_append body_closed, after_newline]
  | @lastComment body body_closed =>
      rw [after_slashes, after_comment_closed body_closed]
      decide

private theorem behind_slashes {before more rest : List Char}
    (text_eq : before ++ '"' :: more = '/' :: '/' :: rest) :
    ∃ tail, before = '/' :: '/' :: tail ∧ tail ++ '"' :: more = rest := by
  match before with
  | [] => simp at text_eq
  | [first] => simp at text_eq
  | first :: second :: tail =>
      simp only [List.cons_append, List.cons.injEq] at text_eq
      obtain ⟨rfl, rfl, rest_eq⟩ := text_eq
      exact ⟨tail, rfl, rest_eq⟩

/-- A quote in a gap stands in a comment. -/
theorem GapText.after_quote {before more : List Char} (accepted : GapText (before ++ '"' :: more)) :
    code.after before = Mode.comment := by
  generalize gap_eq : before ++ '"' :: more = gap at accepted
  have in_body {body front : List Char} (body_closed : '\n' ∉ body) (stands : front <+: body) :
      code.after ('/' :: '/' :: front) = Mode.comment := by
    have front_closed : '\n' ∉ front := fun member => body_closed (stands.subset member)
    rw [after_slashes, after_comment_closed front_closed]
  induction accepted generalizing before with
  | nil => simp at gap_eq
  | blank blank _ ih =>
      cases before with
      | nil =>
          obtain ⟨rfl, -⟩ := List.cons.inj gap_eq
          contradiction
      | cons first before =>
          obtain ⟨rfl, later_eq⟩ := List.cons.inj gap_eq
          rw [after_blank blank, ih later_eq]
  | @comment body gap body_closed _ ih =>
      obtain ⟨before, rfl, text_eq⟩ := behind_slashes gap_eq
      rcases append_cons_eq_append text_eq with ⟨later, rfl, -⟩ | ⟨before_gap, rfl, later_eq⟩
      · exact in_body body_closed (List.prefix_append _ _)
      · -- The quote stands behind the newline, which leads back to code.
        have later := ih later_eq.symm
        cases before_gap with
        | nil => simp at later_eq
        | cons first before_gap =>
            obtain ⟨rfl, -⟩ := List.cons.inj later_eq
            rw [after_blank (by decide)] at later
            rwa [after_slashes, after_comment_append body_closed, after_newline]
  | @lastComment body body_closed =>
      obtain ⟨before, rfl, text_eq⟩ := behind_slashes gap_eq
      exact in_body body_closed ⟨_, text_eq⟩

/-! ## Modes in lexemes -/

private theorem symbols_plain :
    ∀ entry ∈ symbols, '"' ∉ entry.1 ∧ ('/' ∉ entry.1 ∨ entry.1 = ['/']) ∧ entry.2 ≠ .string := by
  decide

/-- What is taken from the front of a text is a string, an open string, or has no quote. -/
inductive TakesQuotes : List Char → Verdict → Prop where
  | closed {body : List Char} :
      '"' ∉ body →
        TakesQuotes ('"' :: (body ++ ['"'])) (.token .string (.string (String.ofList body)))
  | opened {body : List Char} :
      '"' ∉ body → TakesQuotes ('"' :: body) (.error .unterminatedString)
  | none {text : List Char} {verdict : Verdict} :
      '"' ∉ text → '/' ∉ text ∨ text = ['/'] → (∀ literal, verdict ≠ .token .string literal) →
        verdict ≠ .error .unterminatedString → TakesQuotes text verdict

theorem Lexeme.takesQuotes {options : Options} {text : List Char} {verdict : Verdict}
    (lexeme : Lexeme options text verdict) : TakesQuotes text verdict := by
  have absent {text : List Char} {stop : Char} {allowed : Char → Prop}
      (inside : ∀ character ∈ text, allowed character) (outside : ¬ allowed stop) :
      stop ∉ text := fun member => outside (inside stop member)
  cases lexeme with
  | symbol known =>
      obtain ⟨no_quote, slash, kind_ne⟩ := symbols_plain _ known
      exact .none no_quote slash (by simp [kind_ne]) (by simp)
  | string closed => exact .closed closed
  | number numeral | overflow numeral =>
      exact .none (absent numeral.digit_or_point (by decide))
        (.inl (absent numeral.digit_or_point (by decide))) (by simp) (by simp)
  | reserved _ isWord | identifier _ isWord =>
      exact .none (absent isWord.alphanum_or_underscore (by decide))
        (.inl (absent isWord.alphanum_or_underscore (by decide))) (by simp) (by simp)

theorem Munches.takesQuotes {options : Options} {text rest : List Char} {verdict : Verdict}
    (munches : Munches options text verdict rest) : TakesQuotes text verdict := by
  cases munches with
  | lexeme _ lexeme => exact lexeme.takesQuotes
  | openString closed => exact .opened closed
  | @unexpected first _ quote =>
      refine .none (by simpa using Ne.symm quote) ?_ (by simp) (by simp)
      by_cases slash : first = '/'
      · exact .inr (slash ▸ rfl)
      · exact .inl (by simpa using Ne.symm slash)

/-- Where a quote is taken in code, it is the first character that is taken. -/
theorem TakesQuotes.eq_nil {before more : List Char} {verdict : Verdict}
    (takes : TakesQuotes (before ++ '"' :: more) verdict) (inCode : code.after before = code) :
    before = [] := by
  generalize text_eq : before ++ '"' :: more = text at takes
  have inside {front body : List Char} (closed : '"' ∉ body) (stands : front <+: body) :
      code.after ('"' :: front) = string := by
    have front_closed : '"' ∉ front := fun member => closed (stands.subset member)
    rw [after_opening, after_string_closed front_closed]
  cases before with
  | nil => rfl
  | cons first before =>
      cases takes with
      | @closed body body_closed =>
          obtain ⟨rfl, tail_eq⟩ := List.cons.inj text_eq
          rcases append_cons_eq_append tail_eq with ⟨later, rfl, -⟩ | ⟨extra, rfl, last_eq⟩
          · simp at body_closed
          · cases extra with
            | nil =>
                rw [List.append_nil, inside body_closed List.prefix_rfl] at inCode
                contradiction
            | cons => simp at last_eq
      | @opened body body_closed =>
          obtain ⟨rfl, rfl⟩ := List.cons.inj text_eq
          simp at body_closed
      | none no_quote =>
          subst text_eq
          simp at no_quote

section tile

variable {options : Options} {gap text rest front : List Char} {verdict : Verdict}

/-- Behind the gap of a tile, the mode is code. -/
theorem after_gap (longest : IsLongestPrefix GapText (gap ++ (text ++ rest)) gap)
    (munches : Munches options text verdict rest) (front : List Char) :
    code.after (gap ++ front) = code.after front :=
  (longest.closedGap (List.append_ne_nil_of_left_ne_nil munches.ne_nil rest)).after front

/-- Behind the text of a tile that is not an open string, the mode is code. -/
theorem after_text (longest : IsLongestPrefix GapText (gap ++ (text ++ rest)) gap)
    (munches : Munches options text verdict rest) (closed : verdict ≠ .error .unterminatedString)
    (stands : front <+: rest) : code.after (text ++ front) = code.after front := by
  cases munches.takesQuotes with
  | closed body_closed =>
      rw [List.cons_append, List.append_assoc, after_opening, after_string_append body_closed,
        List.singleton_append, after_closing]
  | opened => contradiction
  | none no_quote slash =>
      rcases slash with no_slash | rfl
      · exact after_code_append no_quote no_slash front
      · refine after_cons (not_or.mpr ⟨by decide, fun comment => longest.not_gap.2 ?_⟩)
        obtain ⟨-, later, rfl⟩ := startsComment_iff.mp comment
        obtain ⟨more, rfl⟩ := stands
        exact startsComment_iff.mpr ⟨rfl, later ++ more, rfl⟩

end tile

/-! ## Strings -/

/-- A closed string stands behind `before`: a quote follows in code, and then another one. -/
structure IsStretch (source before body : List Char) : Prop where
  /-- The body stands between two quotes. -/
  stands : ∃ later, source = before ++ '"' :: (body ++ '"' :: later)
  /-- There is no other quote in it. -/
  closed : '"' ∉ body
  /-- The first quote stands in code. -/
  inCode : code.after before = code

/-- The token of a string with a given body. -/
def stringToken (body : List Char) (start : Position) : Token :=
  { kind := .string
    lexeme := String.ofList ('"' :: (body ++ ['"']))
    literal := .string (String.ofList body)
    line := start.line
    start := start.offset }

/-- A string that is closed is taken whole. -/
theorem Munches.of_quote {options : Options} {text rest body more : List Char} {verdict : Verdict}
    (munches : Munches options text verdict rest) (closed : '"' ∉ body)
    (text_eq : text ++ rest = '"' :: (body ++ '"' :: more)) :
    text = '"' :: (body ++ ['"']) ∧ verdict = .token .string (.string (String.ofList body)) := by
  have piece := munches.readPiece_eq text_eq
  rw [readPiece_quote, readString_closed closed] at piece
  obtain ⟨rfl, rfl, -⟩ := Piece.mk.inj piece
  exact ⟨rfl, rfl⟩

theorem Tile.verdict_of_diagnostic {tile : Tile} {position : Position} {line : UInt32}
    {error : LexError} (diagnostic_eq : tile.item position = .diagnostic { line, error }) :
    tile.verdict = .error error := by
  obtain ⟨_, verdict_eq, same⟩ := item_diagnostic diagnostic_eq
  obtain ⟨-, rfl⟩ := Diagnostic.mk.inj same
  exact verdict_eq

namespace Tiled

variable {options : Options} {source closing : List Char} {tiles : List Tile} {position : Position}

/-- Every string of a tiling is a stretch. -/
theorem exists_stretch (tiled : Tiled options source tiles closing) {token : Token}
    (member : .token token ∈ Tile.items position tiles closing) (isString : token.kind = .string) :
    ∃ before body, IsStretch source before body ∧
      token = stringToken body (position.advance before) := by
  induction tiled generalizing position with
  | closing =>
      obtain rfl := Item.token.inj (List.mem_singleton.mp member)
      contradiction
  | @tile gap text rest closing verdict tiles longest munches tiled ih =>
      rcases List.mem_cons.mp member with first | later
      · obtain ⟨kind, literal, verdict_eq, rfl⟩ := Tile.item_token first.symm
        obtain rfl : verdict = .token kind literal := verdict_eq
        obtain rfl : kind = .string := isString
        cases munches.takesQuotes with
        | @closed body body_closed =>
            have inCode := after_gap longest munches []
            rw [List.append_nil] at inCode
            exact ⟨gap, body, ⟨⟨rest, by simp⟩, body_closed, inCode⟩, rfl⟩
        | none _ _ other => exact (other literal rfl).elim
      · obtain ⟨before, body, ⟨⟨more, rest_eq⟩, body_closed, inCode⟩, rfl⟩ := ih later
        have closed := munches.closed (by simp [rest_eq])
        refine ⟨gap ++ (text ++ before), body, ⟨⟨more, ?_⟩, body_closed, ?_⟩, ?_⟩
        · simp [rest_eq]
        · rwa [after_gap longest munches, after_text longest munches closed ⟨_, rest_eq.symm⟩]
        · simp [Tile.source, Position.advance_append]

/-- Every stretch is a string of the tiling. -/
theorem mem_of_stretch (tiled : Tiled options source tiles closing) {before body : List Char}
    (stretch : IsStretch source before body) :
    .token (stringToken body (position.advance before)) ∈ Tile.items position tiles closing := by
  obtain ⟨⟨more, source_eq⟩, body_closed, inCode⟩ := stretch
  induction tiled generalizing position before with
  | closing gap =>
      subst source_eq
      rw [gap.after_quote] at inCode
      contradiction
  | @tile gap text rest closing verdict tiles longest munches tiled ih =>
      rcases append_cons_eq_append source_eq.symm with ⟨later, rfl, -⟩ | ⟨inner, rfl, rest_eq⟩
      · rw [longest.accepted.after_quote] at inCode
        contradiction
      · rw [after_gap longest munches] at inCode
        rcases append_cons_eq_append rest_eq.symm with ⟨tail, rfl, tail_eq⟩ | ⟨later, rfl, later_eq⟩
        · -- The quote is the first character of the text, which is the string.
          obtain rfl := munches.takesQuotes.eq_nil inCode
          obtain ⟨text_eq, rfl⟩ := munches.of_quote body_closed rest_eq
          rw [List.append_nil, text_eq]
          exact List.mem_cons_self
        · have closed := munches.closed (by simp [later_eq])
          rw [after_text longest munches closed ⟨_, later_eq.symm⟩] at inCode
          have member := @ih (position.advance (gap ++ text)) later inCode later_eq
          rw [← Position.advance_append, List.append_assoc] at member
          exact List.mem_cons_of_mem _ member

/-! ## Open strings -/

/-- Behind an open string there is no other tile. -/
theorem eq_nil_of_openString {text : List Char}
    (munches : Munches options text (.error .unterminatedString) source)
    (tiled : Tiled options source tiles closing) : source = [] ∧ tiles = [] ∧ closing = [] := by
  have source_eq := munches.rest_openString
  cases tiled with
  | closing => exact ⟨source_eq, rfl, source_eq⟩
  | tile _ taken => simp [taken.ne_nil] at source_eq

/-- A string is unterminated exactly if the source ends in one. -/
theorem exists_open_iff (tiled : Tiled options source tiles closing) :
    (∃ line, .diagnostic { line, error := .unterminatedString } ∈
        Tile.items position tiles closing) ↔
      code.after source = string := by
  induction tiled generalizing position with
  | closing gap => simp [Tile.items, gap.after_ne]
  | @tile gap text rest closing verdict tiles longest munches tiled ih =>
      rw [after_gap longest munches]
      by_cases opened : verdict = .error .unterminatedString
      · subst opened
        obtain rfl := munches.rest_openString
        refine iff_of_true ⟨_, List.mem_cons.mpr (.inl (Tile.item_error rfl).symm)⟩ ?_
        cases munches.takesQuotes with
        | opened body_closed => rw [List.append_nil, after_opening, after_string_closed body_closed]
        | none _ _ _ other => contradiction
      · rw [after_text longest munches opened List.prefix_rfl,
          ← @ih (position.advance (gap ++ text))]
        refine exists_congr fun line => List.mem_cons.trans (or_iff_right fun item_eq => ?_)
        exact opened (Tile.verdict_of_diagnostic item_eq.symm)

/-- An unterminated string is followed by the end of the source, and no other one is before it. -/
theorem open_last (tiled : Tiled options source tiles closing) {front back : List Item}
    {line : UInt32}
    (items_eq : Tile.items position tiles closing =
      front ++ .diagnostic { line, error := .unterminatedString } :: back) :
    (∀ other, .diagnostic { line := other, error := .unterminatedString } ∉ front) ∧
      ∃ last, back = [.token (Token.eof last (position.advance source).offset)] := by
  induction tiled generalizing position front with
  | closing gap =>
      cases front <;> simp [Tile.items] at items_eq
  | @tile gap text rest closing verdict tiles longest munches tiled ih =>
      cases front with
      | nil =>
          obtain ⟨item_eq, rfl⟩ := List.cons.inj items_eq
          obtain rfl : verdict = _ := Tile.verdict_of_diagnostic item_eq
          obtain ⟨rfl, rfl, rfl⟩ := tiled.eq_nil_of_openString munches
          refine ⟨by simp, (position.advance (gap ++ text)).line, ?_⟩
          rw [List.append_nil]
          rfl
      | cons first front =>
          obtain ⟨rfl, later_eq⟩ := List.cons.inj items_eq
          obtain ⟨only, last, rfl⟩ := ih later_eq
          refine ⟨fun other member => ?_, last, ?_⟩
          · rcases List.mem_cons.mp member with item_eq | member
            · obtain rfl : verdict = _ := Tile.verdict_of_diagnostic item_eq.symm
              obtain ⟨rfl, rfl, rfl⟩ := tiled.eq_nil_of_openString munches
              cases front <;> simp [Tile.items] at later_eq
            · exact only other member
          · rw [← List.append_assoc, Position.advance_append]
            rfl

end Tiled

/--
The strings of a scan are decided by the modes alone.  They are the stretches between a quote that
stands in code and the next one, and a string that is not terminated is the last thing reported.
-/
structure FollowsModes (source : List Char) (options : Options) : Prop where
  /-- The strings are the stretches that are closed, quotes included, each where it stands. -/
  strings : ∀ token,
    .token token ∈ (Scanner.ofSource source options).items ∧ token.kind = .string ↔
      ∃ before body, IsStretch source before body ∧
        token =
          { kind := .string
            lexeme := String.ofList ('"' :: (body ++ ['"']))
            literal := .string (String.ofList body)
            line := (Position.origin.advance before).line
            start := byteSize before }
  /-- No two tokens start at the same place, so that no stretch is a string twice. -/
  ordered : ((Scanner.ofSource source options).items.filterMap Item.token?).Pairwise
    fun left right => left.start < right.start
  /-- A string is unterminated exactly if the source ends in one. -/
  opened :
    (∃ line, .diagnostic { line, error := .unterminatedString } ∈
        (Scanner.ofSource source options).items) ↔
      code.after source = string
  /-- It is reported once, and nothing but the end of the source comes after it. -/
  last : ∀ front line back,
    (Scanner.ofSource source options).items =
        front ++ .diagnostic { line, error := .unterminatedString } :: back →
      (∀ other, .diagnostic { line := other, error := .unterminatedString } ∉ front) ∧
        ∃ lastLine, back = [.token (Token.eof lastLine (byteSize source))]

/-- Strings and comments are found by three modes, whatever else is in the source. -/
theorem followsModes (source : List Char) (options : Options) : FollowsModes source options := by
  obtain ⟨tiles, closing, tiled⟩ := exists_tiled options source
  have items_eq := Scanner.items_ofSource tiled
  constructor
  case strings =>
    intro token
    rw [items_eq]
    constructor
    · rintro ⟨member, isString⟩
      obtain ⟨before, body, stretch, rfl⟩ := tiled.exists_stretch member isString
      exact ⟨before, body, stretch, by rw [← offset_origin]; rfl⟩
    · rintro ⟨before, body, stretch, rfl⟩
      rw [← offset_origin]
      exact ⟨tiled.mem_of_stretch stretch, rfl⟩
  case ordered =>
    rw [items_eq]
    exact (Tile.pairwise_tokens tiled.texts_ne_nil).imp fun spans => spans.1.trans_le spans.2
  case opened =>
    rw [items_eq]
    exact tiled.exists_open_iff
  case last =>
    intro front line back split
    rw [items_eq] at split
    rw [← offset_origin]
    exact tiled.open_last split

end LoxTokens
