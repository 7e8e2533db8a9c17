import LoxTokens.Proofs.ByteScanning
import LoxTokens.Proofs.Gaps
import LoxTokens.Proofs.Tiling

/-!
# The cursor of a scan by byte offsets

Where the cursor stands between characters, the parts of a scan have results.  Loops move it over
the longest run of characters before which they go on, and nothing that is done on the way leaves
the source or cuts a character.
-/

namespace LoxTokens

/-! ## Offsets -/

/-- The start of the lexeme and the cursor are in order and lie between characters. -/
structure SoundOffsets (source : String) (start current : Nat) : Prop where
  /-- The cursor does not stand before the lexeme. -/
  start_le : start ≤ current
  /-- The cursor does not stand beyond the source. -/
  current_le : current ≤ source.utf8ByteSize
  /-- The lexeme starts between characters. -/
  start_boundary : IsBoundary source start
  /-- The cursor stands between characters. -/
  current_boundary : IsBoundary source current

/-- Whether what is done at a moment stays inside the source and leaves characters whole. -/
def Moment.IsSafe (source : String) (moment : Moment) : Prop :=
  SoundOffsets source moment.start moment.current ∧
    match moment.act with
    | .look | .takeLexeme => True
    | .takeInside =>
        moment.start + 1 ≤ moment.current - 1 ∧ IsBoundary source (moment.start + 1) ∧
          IsBoundary source (moment.current - 1)
    | .advance width =>
        ∃ before character after, source = String.ofList (before ++ character :: after) ∧
          moment.current = byteSize before ∧ width = character.utf8Size

section offsets

theorem byteSize_singleton (character : Char) : byteSize [character] = character.utf8Size := by
  rw [byteSize_cons]
  rfl

variable {source : String} {before middle after : List Char}

theorem isBoundary_of_eq (source_eq : source = String.ofList (before ++ after)) :
    IsBoundary source (byteSize before) := by
  rw [String.ofList_append] at source_eq
  exact String.Pos.Raw.isValid_iff_exists_append.mpr ⟨_, _, source_eq, rfl⟩

namespace ByteScanner

/-- The place at an offset that lies between two texts. -/
theorem exists_place? (source_eq : source = String.ofList (before ++ after)) :
    ∃ place, place? source (byteSize before) = some place ∧
      place.Splits (String.ofList before) (String.ofList after) := by
  refine ⟨_, dif_pos (isBoundary_of_eq source_eq), ?_, String.offset_pos⟩
  rw [source_eq, String.ofList_append]

theorem textFrom?_eq (source_eq : source = String.ofList (before ++ after)) :
    textFrom? source (byteSize before) = some after := by
  obtain ⟨place, place_eq, splits⟩ := exists_place? source_eq
  rw [textFrom?, place_eq]
  simp [splits.copy_sliceFrom_eq]

theorem textBetween?_eq (source_eq : source = String.ofList (before ++ middle ++ after)) :
    textBetween? source (byteSize before) (byteSize (before ++ middle)) = some middle := by
  obtain ⟨last, last_eq, last_splits⟩ := exists_place? source_eq
  rw [List.append_assoc] at source_eq
  obtain ⟨first, first_eq, first_splits⟩ := exists_place? source_eq
  rw [String.ofList_append] at first_splits last_splits
  obtain ⟨ordered, slice_eq⟩ :=
    String.copy_slice_eq_iff_splits.mpr ⟨_, _, first_splits, last_splits⟩
  rw [textBetween?, first_eq, last_eq]
  simp [String.slice?, ordered, slice_eq]

end ByteScanner

end offsets

namespace ByteScanner

/-! ## Parts of a scan -/

/-- A loop is its condition and, if that holds, its body and the loop again. -/
theorem whileDo_eq (condition : Reading Bool) (body : Reading Unit) :
    whileDo condition body =
      condition >>= fun holds =>
        if holds then body >>= fun _ => whileDo condition body else pure () := by
  unfold whileDo
  conv => lhs; rw [repeatM_eq_of_monadTail, repeatM.body, bind_assoc]
  apply bind_congr
  intro holds
  cases holds with
  | true => simp
  | false => simp

/-- A part of a scan has a result, keeps the source, and does nothing that is not safe. -/
def Does {α : Type} (part : Reading α) (scanner : ByteScanner) (value : α) (after : ByteScanner) :
    Prop :=
  after.source = scanner.source ∧
    ∀ earlier, ∃ moments,
      (part.run scanner).run earlier = some ((value, after), moments ++ earlier) ∧
        ∀ moment ∈ moments, moment.IsSafe scanner.source

namespace Does

variable {α β : Type} {scanner middle after : ByteScanner}

theorem pure (value : α) : Does (Pure.pure value) scanner value scanner :=
  ⟨rfl, fun _ => ⟨[], rfl, List.forall_mem_nil _⟩⟩

theorem get : Does (MonadState.get : Reading ByteScanner) scanner scanner scanner :=
  ⟨rfl, fun _ => ⟨[], rfl, List.forall_mem_nil _⟩⟩

theorem change {change : ByteScanner → ByteScanner}
    (keeps : (change scanner).source = scanner.source) :
    Does (modify change) scanner () (change scanner) :=
  ⟨keeps, fun _ => ⟨[], rfl, List.forall_mem_nil _⟩⟩

/-- A part that depends on the result of another is done after it. -/
theorem bind {part : Reading α} {next : α → Reading β} {value : α} {result : β}
    (first : Does part scanner value middle) (second : Does (next value) middle result after) :
    Does (part >>= next) scanner result after := by
  obtain ⟨source_eq, runs⟩ := first
  obtain ⟨later_source_eq, later_runs⟩ := second
  refine ⟨later_source_eq.trans source_eq, fun earlier => ?_⟩
  obtain ⟨moments, run_eq, safe⟩ := runs earlier
  obtain ⟨later, later_run_eq, later_safe⟩ := later_runs (moments ++ earlier)
  refine ⟨later ++ moments, ?_, ?_⟩
  · rw [StateT.run_bind, StateT.run_bind, run_eq, List.append_assoc]
    exact later_run_eq
  · rw [source_eq] at later_safe
    exact List.forall_mem_append.mpr ⟨later_safe, safe⟩

/-- A slice that exists is taken. -/
theorem lift {slice? : Option α} {value : α} (slice_eq : slice? = some value) :
    Does (liftM slice? : Reading α) scanner value scanner := by
  subst slice_eq
  exact ⟨rfl, fun _ => ⟨[], rfl, List.forall_mem_nil _⟩⟩

theorem record {act : Act} (safe : Moment.IsSafe scanner.source
    { start := scanner.start, current := scanner.current, act }) :
    Does (ByteScanner.record act) scanner () scanner :=
  ⟨rfl, fun _ => ⟨[_], rfl, List.forall_mem_singleton.mpr safe⟩⟩

/-- A loop ends when its condition does not hold. -/
theorem whileDo_stop {condition : Reading Bool} {body : Reading Unit}
    (test : Does condition scanner false after) :
    Does (whileDo condition body) scanner () after := by
  rw [whileDo_eq]
  exact test.bind (pure ())

/-- A loop whose condition holds does its body, and then goes on. -/
theorem whileDo_step {condition : Reading Bool} {body : Reading Unit}
    {tested : ByteScanner} (test : Does condition scanner true tested)
    (step : Does body tested () middle) (later : Does (whileDo condition body) middle () after) :
    Does (whileDo condition body) scanner () after := by
  rw [whileDo_eq]
  exact test.bind (step.bind later)

end Does

/-! ## The cursor -/

/-- The place of the cursor. -/
def position (scanner : ByteScanner) : Position where
  offset := scanner.current
  line := scanner.line

/-- The scanner with its cursor moved over a text. -/
def moveOver (scanner : ByteScanner) (text : List Char) : ByteScanner :=
  { scanner with
    current := (scanner.position.advance text).offset
    line := (scanner.position.advance text).line }

theorem position_moveOver (scanner : ByteScanner) (text : List Char) :
    (scanner.moveOver text).position = scanner.position.advance text := rfl

theorem moveOver_append (scanner : ByteScanner) (left right : List Char) :
    scanner.moveOver (left ++ right) = (scanner.moveOver left).moveOver right := by
  simp only [moveOver, Position.advance_append]
  rfl

/-- The cursor stands between the text taken and the rest of the source. -/
structure Stands (scanner : ByteScanner) (before taken rest : List Char) : Prop where
  /-- The source is made of all three texts. -/
  source_eq : scanner.source = String.ofList (before ++ taken ++ rest)
  /-- The lexeme starts before the text taken. -/
  start_eq : scanner.start = byteSize before
  /-- The cursor stands behind it. -/
  current_eq : scanner.current = byteSize (before ++ taken)

namespace Stands

variable {scanner : ByteScanner} {before taken rest : List Char}

theorem sound (stands : Stands scanner before taken rest) :
    SoundOffsets scanner.source scanner.start scanner.current := by
  obtain ⟨source_eq, start_eq, current_eq⟩ := stands
  rw [start_eq, current_eq]
  constructor
  case start_le =>
    rw [byteSize_append]
    exact Nat.le_add_right _ _
  case current_le =>
    rw [source_eq, ← byteSize, byteSize_append (before ++ taken)]
    exact Nat.le_add_right _ _
  case start_boundary =>
    rw [List.append_assoc] at source_eq
    exact isBoundary_of_eq source_eq
  case current_boundary => exact isBoundary_of_eq source_eq

theorem moveOver (text : List Char) (stands : Stands scanner before taken (text ++ rest)) :
    Stands (scanner.moveOver text) before (taken ++ text) rest where
  source_eq := by
    have source_eq := stands.source_eq
    rwa [← List.append_assoc, List.append_assoc before] at source_eq
  start_eq := stands.start_eq
  current_eq := by
    rw [ByteScanner.moveOver, offset_advance, position, stands.current_eq, ← List.append_assoc,
      byteSize_append (before ++ taken)]

/-- Looking shows the rest of the source. -/
theorem look (stands : Stands scanner before taken rest) :
    Does look scanner rest scanner := by
  have slice := textFrom?_eq stands.source_eq
  rw [← stands.current_eq] at slice
  exact (Does.record ⟨stands.sound, trivial⟩).bind (Does.get.bind (Does.lift slice))

theorem lexeme (stands : Stands scanner before taken rest) :
    Does lexeme scanner taken scanner := by
  have slice := textBetween?_eq stands.source_eq
  rw [← stands.start_eq, ← stands.current_eq] at slice
  exact (Does.record ⟨stands.sound, trivial⟩).bind (Does.get.bind (Does.lift slice))

/-- The text inside is what stands between two characters of one byte. -/
theorem inside {first last : Char} {body : List Char}
    (stands : Stands scanner before (first :: (body ++ [last])) rest)
    (first_size : first.utf8Size = 1) (last_size : last.utf8Size = 1) :
    Does inside scanner body scanner := by
  have source_eq : scanner.source =
      String.ofList ((before ++ [first]) ++ body ++ (last :: rest)) := by
    simpa using stands.source_eq
  have start_eq : scanner.start + 1 = byteSize (before ++ [first]) := by
    rw [stands.start_eq, byteSize_append, byteSize_singleton, first_size]
  have current_eq : scanner.current - 1 = byteSize (before ++ [first] ++ body) := by
    have split : before ++ first :: (body ++ [last]) = before ++ [first] ++ body ++ [last] := by
      simp
    rw [stands.current_eq, split, byteSize_append _ [last], byteSize_singleton, last_size,
      Nat.add_sub_cancel]
  have ordered : scanner.start + 1 ≤ scanner.current - 1 := by
    rw [start_eq, current_eq, byteSize_append _ body]
    exact Nat.le_add_right _ _
  have slice := textBetween?_eq source_eq
  rw [← start_eq, ← current_eq] at slice
  have current_boundary : IsBoundary scanner.source (scanner.current - 1) :=
    current_eq ▸ isBoundary_of_eq source_eq
  have start_boundary : IsBoundary scanner.source (scanner.start + 1) := by
    rw [List.append_assoc (before ++ [first])] at source_eq
    exact start_eq ▸ isBoundary_of_eq source_eq
  have safe : Moment.IsSafe scanner.source
      { start := scanner.start, current := scanner.current, act := .takeInside } :=
    ⟨stands.sound, ordered, start_boundary, current_boundary⟩
  exact (Does.record safe).bind (Does.get.bind (Does.lift slice))

theorem peek (stands : Stands scanner before taken rest) :
    Does peek scanner (rest.headD '\x00') scanner :=
  stands.look.bind (Does.pure _)

theorem peekNext (stands : Stands scanner before taken rest) :
    Does peekNext scanner (rest.tail.headD '\x00') scanner :=
  stands.look.bind (Does.pure _)

theorem isEnd (stands : Stands scanner before taken rest) :
    Does isEnd scanner rest.isEmpty scanner := by
  have size_eq : scanner.source.utf8ByteSize = scanner.current + byteSize rest := by
    rw [stands.source_eq, stands.current_eq, ← byteSize_append]
    rfl
  have ended : decide (scanner.source.utf8ByteSize ≤ scanner.current) = rest.isEmpty := by
    rw [size_eq]
    cases rest with
    | nil => simp [byteSize]
    | cons first rest =>
        have positive := byteSize_pos (List.cons_ne_nil first rest)
        simp only [List.isEmpty_cons, decide_eq_false_iff_not]
        omega
  rw [← ended]
  exact Does.get.bind (Does.pure _)

/-- The cursor moves by the width of the character that it stands before. -/
theorem advance {character : Char} (stands : Stands scanner before taken (character :: rest)) :
    Does (advance character.utf8Size) scanner () (scanner.moveBy character.utf8Size) := by
  have safe : Moment.IsSafe scanner.source
      { start := scanner.start
        current := scanner.current
        act := .advance character.utf8Size } :=
    ⟨stands.sound, before ++ taken, character, rest, stands.source_eq, stands.current_eq, rfl⟩
  exact (Does.record safe).bind (Does.change rfl)

theorem nextChar {character : Char} (stands : Stands scanner before taken (character :: rest)) :
    Does nextChar scanner character (scanner.moveBy character.utf8Size) :=
  stands.isEnd.bind (stands.peek.bind (stands.advance.bind (Does.pure _)))

theorem skipChar {character : Char} (stands : Stands scanner before taken (character :: rest)) :
    Does skipChar scanner () (scanner.moveBy character.utf8Size) :=
  stands.nextChar.bind (Does.pure _)

theorem matchNext_self {expected : Char} (stands : Stands scanner before taken (expected :: rest)) :
    Does (matchNext expected) scanner true (scanner.moveBy expected.utf8Size) := by
  refine stands.isEnd.bind (stands.peek.bind ?_)
  rw [List.headD_cons, if_neg (not_not_intro rfl)]
  exact stands.advance.bind (Does.pure _)

theorem matchNext_of_ne {expected : Char} (stands : Stands scanner before taken rest)
    (different : rest.head? ≠ some expected) : Does (matchNext expected) scanner false scanner := by
  refine stands.isEnd.bind ?_
  cases rest with
  | nil => exact Does.pure false
  | cons first rest =>
      refine stands.peek.bind ?_
      rw [List.headD_cons, if_pos (fun same => different (congrArg some same))]
      exact Does.pure false

theorem goesOn (stop : Char) (stands : Stands scanner before taken rest) :
    Does (goesOn stop) scanner (rest.head?.any (· != stop)) scanner := by
  refine stands.peek.bind ?_
  cases rest with
  | nil =>
      rw [List.headD_nil]
      split
      · exact Does.pure false
      · exact stands.isEnd.bind (Does.pure false)
  | cons first rest =>
      rw [List.headD_cons, List.head?_cons, Option.any_some]
      split
      · rename_i stops
        rw [bne_eq_false_iff_eq.mpr stops]
        exact Does.pure false
      · rename_i goes_on
        rw [bne_iff_ne.mpr goes_on]
        exact stands.isEnd.bind (Does.pure true)

end Stands

/-- A character that begins no line moves the cursor by its width. -/
theorem moveOver_singleton {character : Char} (same_line : character ≠ '\n')
    (scanner : ByteScanner) :
    scanner.moveOver [character] = scanner.moveBy character.utf8Size := by
  simp [moveOver, moveBy, position, Position.next, same_line]

namespace Stands

variable {scanner : ByteScanner} {before taken rest : List Char}

theorem skipChar_moveOver {character : Char}
    (stands : Stands scanner before taken (character :: rest)) (same_line : character ≠ '\n') :
    Does ByteScanner.skipChar scanner () (scanner.moveOver [character]) := by
  rw [moveOver_singleton same_line]
  exact stands.skipChar

/-! ## Loops -/

/-- A loop that goes on before some characters moves the cursor over all of them. -/
theorem whileDo {condition : Reading Bool} {body : Reading Unit} {p : Char → Bool}
    (stands : Stands scanner before taken rest)
    (tests : ∀ {scanner taken rest}, Stands scanner before taken rest →
      Does condition scanner (rest.head?.any p) scanner)
    (steps : ∀ {scanner taken character rest}, Stands scanner before taken (character :: rest) →
      p character → Does body scanner () (scanner.moveOver [character])) :
    Does (whileDo condition body) scanner () (scanner.moveOver (rest.takeWhile p)) := by
  induction rest generalizing scanner taken with
  | nil => exact Does.whileDo_stop (tests stands)
  | cons character rest ih =>
      have test := tests stands
      rw [List.head?_cons, Option.any_some] at test
      cases inside : p character with
      | true =>
          rw [inside] at test
          rw [List.takeWhile_cons_of_pos inside, ← List.singleton_append, moveOver_append]
          exact Does.whileDo_step test (steps stands inside) (ih (stands.moveOver [character]))
      | false =>
          rw [inside] at test
          rw [List.takeWhile_cons_of_neg (Bool.not_eq_true _ ▸ inside)]
          exact Does.whileDo_stop test

theorem skipDigits (stands : Stands scanner before taken rest) :
    Does skipDigits scanner () (scanner.moveOver (rest.takeWhile Char.isDigit)) := by
  apply stands.whileDo
  · intro scanner taken rest stands
    cases rest <;> exact stands.peek.bind (Does.pure _)
  · intro scanner taken character rest stands isDigit
    apply stands.skipChar_moveOver
    rintro rfl
    contradiction

/-! ## Gaps -/

theorem skipBlank_blank {character : Char}
    (stands : Stands scanner before taken (character :: rest)) (blank : isBlank character) :
    Does skipBlank scanner true (scanner.moveOver [character]) := by
  refine stands.peek.bind ?_
  rw [List.headD_cons]
  have known := isBlank_iff.mp blank
  simp only [List.mem_cons, List.not_mem_nil, or_false] at known
  rcases known with rfl | rfl | rfl | rfl
  case inr.inr.inr =>
    -- The line is counted before the cursor moves, which is the same as after it.
    have counted : Stands { scanner with line := scanner.line + 1 } before taken ('\n' :: rest) :=
      ⟨stands.source_eq, stands.start_eq, stands.current_eq⟩
    exact (Does.change rfl).bind (counted.skipChar.bind (Does.pure true))
  all_goals exact (stands.skipChar_moveOver (by decide)).bind (Does.pure true)

/-- A comment is skipped up to its newline. -/
theorem skipBlank_comment (stands : Stands scanner before taken ('/' :: '/' :: rest)) :
    Does skipBlank scanner true
      (scanner.moveOver ('/' :: '/' :: rest.takeWhile (· != '\n'))) := by
  have comment : Does (ByteScanner.whileDo (ByteScanner.goesOn '\n') ByteScanner.skipChar) scanner
      () (scanner.moveOver (('/' :: '/' :: rest).takeWhile (· != '\n'))) :=
    stands.whileDo (fun stands => stands.goesOn '\n')
      (fun stands inside => stands.skipChar_moveOver (bne_iff_ne.mp inside))
  exact stands.peek.bind (stands.peekNext.bind (comment.bind (Does.pure true)))

theorem skipBlank_lone {character : Char}
    (stands : Stands scanner before taken (character :: rest)) (visible : ¬ isBlank character)
    (lone : ¬ startsComment character rest) : Does skipBlank scanner false scanner := by
  refine stands.peek.bind ?_
  rw [isBlank_iff] at visible
  simp only [List.mem_cons, List.not_mem_nil, or_false, not_or] at visible
  obtain ⟨not_space, not_tab, not_return, not_newline⟩ := visible
  rw [List.headD_cons, if_neg (by simp [not_space, not_tab, not_return]), if_neg not_newline]
  split
  · refine stands.peekNext.bind ?_
    rw [if_neg]
    · exact Does.pure false
    · rename_i slash
      intro follows
      apply lone
      cases rest with
      | nil =>
          have follows : '\x00' = '/' := follows
          contradiction
      | cons next rest => exact startsComment_iff.mpr ⟨slash, rest, congrArg (· :: rest) follows⟩
  · exact Does.pure false

/-- One round skips a blank or a comment, as skipping a gap does, or there is none. -/
theorem skipBlank (stands : Stands scanner before taken rest) :
    (Does skipBlank scanner false scanner ∧ (∀ first ∈ rest.head?, ¬ isBlank first) ∧
        skipGap false scanner.position rest = (scanner.position, rest)) ∨
      ∃ text left, text ≠ [] ∧ rest = text ++ left ∧
        Does skipBlank scanner true (scanner.moveOver text) ∧
          skipGap false scanner.position rest =
            skipGap false (scanner.position.advance text) left := by
  cases rest with
  | nil => exact .inl ⟨stands.peek.bind (Does.pure false), by rintro _ ⟨⟩, rfl⟩
  | cons character rest =>
      by_cases blank : isBlank character
      · refine .inr ⟨[character], rest, List.cons_ne_nil _ _, rfl, stands.skipBlank_blank blank, ?_⟩
        rw [skipGap, if_pos blank]
        rfl
      by_cases comment : startsComment character rest
      · obtain ⟨rfl, rest, rfl⟩ := startsComment_iff.mp comment
        refine .inr ⟨'/' :: '/' :: rest.takeWhile (· != '\n'), rest.dropWhile (· != '\n'),
          List.cons_ne_nil _ _, ?_, stands.skipBlank_comment, ?_⟩
        · rw [List.cons_append, List.cons_append, List.takeWhile_append_dropWhile]
        · rw [skipGap, if_neg blank, if_pos comment, skipGap_inComment]
          rfl
      · refine .inl ⟨stands.skipBlank_lone blank comment, ?_, ?_⟩
        · rintro first ⟨⟩
          exact blank
        · rw [skipGap, if_neg blank, if_neg comment]

/-- Skipping blanks and comments moves the cursor over the gap in front. -/
theorem skipBlanks (stands : Stands scanner before taken rest) :
    ∃ gap left, rest = gap ++ left ∧ (∀ first ∈ left.head?, ¬ isBlank first) ∧
      skipGap false scanner.position rest = (scanner.position.advance gap, left) ∧
        Does skipBlanks scanner () (scanner.moveOver gap) := by
  generalize length_eq : rest.length = length
  induction length using Nat.strongRecOn generalizing scanner taken rest with
  | ind length ih =>
      rcases stands.skipBlank with
        ⟨stops, visible, skipped⟩ | ⟨text, left, nonempty, rfl, round, same⟩
      · exact ⟨[], rest, rfl, visible, skipped, Does.whileDo_stop stops⟩
      · have shorter := List.length_pos_iff.mpr nonempty
        rw [List.length_append] at length_eq
        obtain ⟨gap, left, rfl, visible, skipped, later⟩ :=
          ih _ (by omega) (stands.moveOver text) rfl
        rw [position_moveOver, ← Position.advance_append] at skipped
        rw [← moveOver_append] at later
        exact ⟨text ++ gap, left, (List.append_assoc text gap left).symm, visible,
          same.trans skipped, Does.whileDo_step round (Does.pure ()) later⟩

end Stands

end ByteScanner

end LoxTokens
