import LoxTokens.Proofs.Tiling
import LoxTokens.Transcript

/-!
# Pulling and draining

Every pull of a scan that has not ended yields an item.  The end of the source comes last and only
once, after no more items than the source has characters, and from then on nothing changes.  Items
that are pulled one by one and items that a drain sorts into tokens and diagnostics make up the same
scan, wherever the drain takes over and whatever its sink does.
-/

namespace LoxTokens

/-- Whether an item is the end of the source. -/
def Item.isEnd : Item → Bool
  | token value => decide (value.kind = .eof)
  | diagnostic _ => false

private theorem symbols_ne_eof : ∀ entry ∈ symbols, entry.2 ≠ .eof := by decide

/-- No lexeme is the end of the source. -/
theorem Lexeme.ne_eof {options : Options} {text : List Char} {kind : Kind} {literal : Literal}
    (lexeme : Lexeme options text (.token kind literal)) : kind ≠ .eof := by
  cases lexeme with
  | symbol known => exact symbols_ne_eof _ known
  | string | number | reserved | identifier => exact Kind.noConfusion

/-- What is taken from the front of a text is not the end of the source. -/
theorem Munches.isEnd_item {options : Options} {text rest : List Char} {verdict : Verdict}
    (munches : Munches options text verdict rest) (start : Position) :
    (verdict.item text start).isEnd = false := by
  cases verdict with
  | error => rfl
  | token kind literal =>
      cases munches with
      | lexeme _ lexeme => exact decide_eq_false lexeme.ne_eof

namespace Scanner

/-! ## Single pulls -/

/-- A pull of anything but the end moves the scanner over one character or more. -/
theorem moves_of_next? {scanner after : Scanner} {item : Item}
    (pulled : scanner.next? = some (item, after)) (goes_on : item.isEnd = false) :
    ∃ text, text ≠ [] ∧ scanner.rest = text ++ after.rest ∧
      after = scanner.moveOver text after.rest := by
  obtain ⟨rfl, -⟩ | ⟨gap, text, verdict, rest_eq, munches, -, after_eq⟩ := cases_next? pulled
  · contradiction
  · rw [← List.append_assoc] at rest_eq
    refine ⟨gap ++ text, ?_, rest_eq, after_eq⟩
    intro nothing
    exact munches.ne_nil (List.append_eq_nil_iff.mp nothing).2

/-- The pull that yields the end of the source is the last one. -/
theorem finished_of_next? {scanner after : Scanner} {item : Item}
    (pulled : scanner.next? = some (item, after)) (isEnd : item.isEnd) : after.finished := by
  obtain ⟨-, rfl⟩ | ⟨gap, text, verdict, -, munches, rfl, -⟩ := cases_next? pulled
  · rfl
  · rw [munches.isEnd_item] at isEnd
    contradiction

/-! ## Many pulls -/

theorem take_finished {scanner : Scanner} (finished : scanner.finished) (count : Nat) :
    scanner.take count = ([], scanner) := by
  cases count with
  | zero => rfl
  | succ count => simp [take, next?_eq_none_iff.mpr finished]

/-- Pulls can be made in two goes. -/
theorem take_add (scanner : Scanner) (first later : Nat) :
    scanner.take (first + later) =
      ((scanner.take first).1 ++ ((scanner.take first).2.take later).1,
        ((scanner.take first).2.take later).2) := by
  induction first generalizing scanner with
  | zero => simp [take]
  | succ first ih =>
      rw [Nat.succ_add]
      cases pulled : scanner.next? with
      | none =>
          have nothing := take_finished (next?_eq_none_iff.mp pulled)
          simp [take, pulled, nothing]
      | some pull => simp [take, pulled, ih]

theorem length_take_le (scanner : Scanner) (count : Nat) :
    (scanner.take count).1.length ≤ count := by
  induction count generalizing scanner with
  | zero => exact Nat.le_refl 0
  | succ count ih =>
      cases pulled : scanner.next? with
      | none => simp [take, pulled]
      | some pull => simpa [take, pulled] using ih pull.2

/-- A scan of which the end was pulled is finished. -/
theorem finished_of_mem_take {scanner : Scanner} {count : Nat} {item : Item}
    (member : item ∈ (scanner.take count).1) (isEnd : item.isEnd) :
    (scanner.take count).2.finished := by
  induction count generalizing scanner with
  | zero => simp [take] at member
  | succ count ih =>
      cases pulled : scanner.next? with
      | none => simp [take, pulled] at member
      | some pull =>
          simp only [take, pulled, List.mem_cons] at member ⊢
          rcases member with rfl | member
          · have finished := finished_of_next? pulled isEnd
            rw [take_finished finished]
            exact finished
          · exact ih member

/-- If the last of some pulls ends a scan and each of them yields an item, no earlier pull does. -/
theorem finished_take_iff {scanner : Scanner} {length : Nat}
    (yielded : (scanner.take (length + 1)).1.length = length + 1)
    (ended : (scanner.take (length + 1)).2.finished) (count : Nat) :
    (scanner.take count).2.finished ↔ length < count := by
  constructor
  · -- A scan that is finished too early would yield too few items.
    intro finished
    by_contra early
    obtain ⟨more, rfl⟩ := Nat.exists_eq_add_of_le (Nat.le_of_not_lt early)
    rw [Nat.add_assoc, take_add, take_finished finished] at yielded
    have fewer := length_take_le scanner count
    simp only [List.append_nil] at yielded
    omega
  · intro late
    obtain ⟨more, rfl⟩ := Nat.exists_eq_add_of_le late
    rw [Nat.succ_eq_add_one, take_add, take_finished ended]
    exact ended

/-- The items left are those that some pulls yield and those left after them. -/
theorem items_take (scanner : Scanner) (count : Nat) :
    scanner.items = (scanner.take count).1 ++ (scanner.take count).2.items := by
  induction count generalizing scanner with
  | zero => rfl
  | succ count ih =>
      rw [items_eq]
      cases pulled : scanner.next? with
      | none =>
          have nothing := items_finished (next?_eq_none_iff.mp pulled)
          simp [take, pulled, nothing]
      | some pull => simp [take, pulled, ← ih]

/-- Pulls that finish a scan yield all of its items. -/
theorem items_of_take {scanner : Scanner} (count : Nat)
    (finished : (scanner.take count).2.finished) : scanner.items = (scanner.take count).1 := by
  rw [items_take scanner count, items_finished finished, List.append_nil]

/-- Pulling goes on to the end of the source and takes no more pulls than characters before it. -/
theorem exists_take_end (scanner : Scanner) (unfinished : scanner.finished = false) :
    ∃ earlier, earlier.length ≤ scanner.rest.length ∧ (∀ item ∈ earlier, item.isEnd = false) ∧
      scanner.take (earlier.length + 1) =
        (earlier ++
          [.token (Token.eof (scanner.position.advance scanner.rest).line
            (scanner.position.advance scanner.rest).offset)],
          { scanner.moveOver scanner.rest [] with finished := true }) := by
  generalize length_eq : scanner.rest.length = length
  induction length using Nat.strongRecOn generalizing scanner with
  | ind length ih =>
      rcases gap_or_munches scanner.options scanner.rest with
        gap | ⟨gap, text, rest, verdict, rest_eq, longest, munches⟩
      · exact ⟨[], Nat.zero_le _, by simp, by simp [take, next?_gap unfinished gap]⟩
      · have pulled := next?_munches unfinished rest_eq longest munches
        have shorter : rest.length < length := by
          have taken := List.length_pos_iff.mpr munches.ne_nil
          rw [← length_eq, rest_eq, List.length_append, List.length_append]
          omega
        obtain ⟨earlier, fewer, goes_on, ended⟩ :=
          ih rest.length shorter (scanner.moveOver (gap ++ text) rest) unfinished rfl
        refine ⟨verdict.item text (scanner.position.advance gap) :: earlier, ?_, ?_, ?_⟩
        · rw [List.length_cons]
          omega
        · exact List.forall_mem_cons.mpr ⟨munches.isEnd_item _, goes_on⟩
        · rw [List.length_cons, take, pulled]
          simp only [ended]
          simp [moveOver, rest_eq]

/-! ## Reading on -/

/-- A scan that reads on from a place in its source. -/
def resume (options : Options) (position : Position) (rest : List Char) : Scanner :=
  { rest, position, options, finished := false }

variable {options : Options} {position : Position} {gap text rest : List Char}

theorem items_resume_end (closing : GapText text) :
    (resume options position text).items =
      [.token (Token.eof (position.advance text).line (position.advance text).offset)] := by
  rw [items_eq, next?_gap rfl closing]
  simp [items_finished, resume]

theorem items_resume_item {verdict : Verdict}
    (longest : IsLongestPrefix GapText (gap ++ (text ++ rest)) gap)
    (munches : Munches options text verdict rest) :
    (resume options position (gap ++ (text ++ rest))).items =
      verdict.item text (position.advance gap) ::
        (resume options (position.advance (gap ++ text)) rest).items := by
  rw [items_eq, next?_munches rfl rfl longest munches]
  rfl

theorem items_resume_munches {verdict : Verdict}
    (nothing : IsLongestPrefix GapText (text ++ rest) [])
    (munches : Munches options text verdict rest) :
    (resume options position (text ++ rest)).items =
      verdict.item text position :: (resume options (position.advance text) rest).items :=
  @items_resume_item options position [] text rest verdict nothing munches

/-- The longest gap in front of a text changes nothing but the place of its items. -/
theorem items_resume_skip (longest : IsLongestPrefix GapText (gap ++ rest) gap) :
    (resume options position (gap ++ rest)).items =
      (resume options (position.advance gap) rest).items := by
  cases rest with
  | nil =>
      rw [List.append_nil, items_resume_end longest.accepted, items_resume_end .nil]
      rfl
  | cons first tail =>
      obtain ⟨more, verdict, rest, rfl, munches⟩ := exists_munches options first tail
      have nothing := longest.behind_gap
      rw [← List.cons_append] at longest nothing ⊢
      rw [items_resume_item longest munches, items_resume_munches nothing munches,
        Position.advance_append]

end Scanner

/-! ## Draining -/

section draining

variable {σ : Type} [Sink σ]

namespace Transcript

theorem tokens_add (transcript : Transcript σ) (item : Item) :
    (transcript.add item).tokens.toList = transcript.tokens.toList ++ item.token?.toList := by
  cases item <;> simp [add, Item.token?]

theorem reported_add (transcript : Transcript σ) (item : Item) :
    (transcript.add item).collector.reported.toList =
      transcript.collector.reported.toList ++ item.diagnostic?.toList := by
  cases item <;> simp [add, Item.diagnostic?, Collector.report]

/-- Items that are taken into account add their tokens. -/
theorem tokens_foldl_add (transcript : Transcript σ) (items : List Item) :
    (items.foldl add transcript).tokens.toList =
      transcript.tokens.toList ++ items.filterMap Item.token? := by
  induction items generalizing transcript with
  | nil => simp
  | cons item items ih =>
      rw [List.foldl_cons, ih, tokens_add, tokens_cons, List.append_assoc]

/-- Items that are taken into account add their diagnostics, whatever the sink does. -/
theorem reported_foldl_add (transcript : Transcript σ) (items : List Item) :
    (items.foldl add transcript).collector.reported.toList =
      transcript.collector.reported.toList ++ items.filterMap Item.diagnostic? := by
  induction items generalizing transcript with
  | nil => simp
  | cons item items ih =>
      rw [List.foldl_cons, ih, reported_add, List.append_assoc]
      cases item <;> rfl

end Transcript

namespace Scanner

/-- A drain returns the tokens that are left. -/
theorem tokens_drain (scanner : Scanner) (collector : Collector σ) :
    (scanner.drain collector).tokens.toList = scanner.items.filterMap Item.token? :=
  Transcript.tokens_foldl_add (Transcript.start collector) scanner.items

/-- A drain reports the diagnostics that are left. -/
theorem reported_drain (scanner : Scanner) (collector : Collector σ) :
    (scanner.drain collector).collector.reported.toList =
      collector.reported.toList ++ scanner.items.filterMap Item.diagnostic? :=
  Transcript.reported_foldl_add (Transcript.start collector) scanner.items

end Scanner
end draining

/-! ## The end of a scan -/

namespace Scanner

/--
A scan yields some items and then the end of the source, which is the last item and the only one of
its kind.  Each item before it moves the scan over a character or more, so that there are at most as
many of them as there are characters.
-/
structure ReachesEnd (source : List Char) (options : Options) (earlier : List Item)
    (line : UInt32) : Prop where
  /-- A pull yields an item as long as the end was not yielded. -/
  yields : ∀ count,
    ((ofSource source options).take count).2.next?.isSome ↔ count ≤ earlier.length
  /-- Every item but the end moves the scan over one character or more. -/
  moves : ∀ count item after,
    ((ofSource source options).take count).2.next? = some (item, after) → item.isEnd = false →
      ∃ text, text ≠ [] ∧ ((ofSource source options).take count).2.rest = text ++ after.rest ∧
        after = ((ofSource source options).take count).2.moveOver text after.rest
  /-- Fewer pulls than there are characters come before the end, or as many. -/
  bounded : earlier.length ≤ source.length
  /-- The next pull yields the end, which has no text and no value, and stands behind all bytes. -/
  ends : (ofSource source options).take (earlier.length + 1) =
    (earlier ++
      [.token
        { kind := .eof, lexeme := "", literal := .null, line, start := byteSize source }],
      { rest := []
        position := Position.origin.advance source
        options
        finished := true })
  /-- No item before it is an end. -/
  once : ∀ item ∈ earlier, item.isEnd = false
  /-- Pulls after the end yield nothing and leave the scan as it is. -/
  settled : ∀ count,
    (ofSource source options).take (earlier.length + 1 + count) =
      (ofSource source options).take (earlier.length + 1)
  /-- Nothing else is ever yielded. -/
  items_eq : (ofSource source options).items =
    earlier ++
      [.token { kind := .eof, lexeme := "", literal := .null, line, start := byteSize source }]
  /-- The last token that a drain returns is the end, and no other one is. -/
  drains : ∀ (σ : Type) [Sink σ] (collector : Collector σ), ∃ tokens,
    ((ofSource source options).drain collector).tokens.toList =
        tokens ++
          [{ kind := .eof, lexeme := "", literal := .null, line, start := byteSize source }] ∧
      ∀ token ∈ tokens, token.kind ≠ .eof

/-- Progress and termination: every scan reaches the end of its source, once and for all. -/
theorem exists_reachesEnd (source : List Char) (options : Options) :
    ∃ earlier line, ReachesEnd source options earlier line := by
  obtain ⟨earlier, bounded, once, ended⟩ :=
    exists_take_end (ofSource source options) rfl
  have ends : (ofSource source options).take (earlier.length + 1) =
      (earlier ++
        [.token (Token.eof (Position.origin.advance source).line (byteSize source))],
        { rest := [], position := Position.origin.advance source, options, finished := true }) := by
    rw [← offset_origin]
    exact ended
  have settled : ∀ count, (ofSource source options).take (earlier.length + 1 + count) =
      (ofSource source options).take (earlier.length + 1) := by
    intro count
    rw [take_add, ends]
    simp [take_finished]
  have items_eq := items_of_take (earlier.length + 1) (congrArg (·.2.finished) ends)
  rw [ends] at items_eq
  refine ⟨earlier, _, ?_, ?_, bounded, ends, once, settled, items_eq, ?_⟩
  · intro count
    have finished := finished_take_iff (by simp [ends]) (congrArg (·.2.finished) ends) count
    rw [← Option.ne_none_iff_isSome, Ne, next?_eq_none_iff, finished, Nat.not_lt]
  · exact fun count item after pulled goes_on => moves_of_next? pulled goes_on
  · intro σ _ collector
    refine ⟨earlier.filterMap Item.token?, ?_, ?_⟩
    · rw [tokens_drain, items_eq, List.filterMap_append]
      rfl
    · intro token member
      exact of_decide_eq_false (once _ (mem_tokens.mp member))

end Scanner

/-! ## Draining in the middle of a scan -/

/--
Some items of a scan were pulled, and what is left is drained into a collector.  Together the items
pulled and the transcript of the drain are the whole scan, and they do not depend on the sink.
-/
structure CompletesScan {σ : Type} [Sink σ] (source : List Char) (options : Options)
    (pulled : List Item) (left : Scanner) (collector : Collector σ) : Prop where
  /-- The tokens pulled and those returned are the tokens of the whole scan. -/
  tokens : pulled.filterMap Item.token? ++ (left.drain collector).tokens.toList =
    (Scanner.ofSource source options).items.filterMap Item.token?
  /-- The diagnostics pulled and those newly reported are the diagnostics of the whole scan. -/
  diagnostics : ∃ reported,
    (left.drain collector).collector.reported.toList = collector.reported.toList ++ reported ∧
      pulled.filterMap Item.diagnostic? ++ reported =
        (Scanner.ofSource source options).items.filterMap Item.diagnostic?
  /-- A drain into another sink returns and reports the same. -/
  any_sink : ∀ (τ : Type) [Sink τ] (other : Collector τ), other.reported = collector.reported →
    (left.drain other).tokens = (left.drain collector).tokens ∧
      (left.drain other).collector.reported = (left.drain collector).collector.reported
  /-- After the end of the source, there is no token left to return. -/
  ended : (∃ item ∈ pulled, item.isEnd) → (left.drain collector).tokens = #[]

/-- Pulling first and draining then yields the whole scan, wherever the drain takes over. -/
theorem completesScan_take {σ : Type} [Sink σ] (source : List Char) (options : Options)
    (count : Nat) (collector : Collector σ) :
    CompletesScan source options ((Scanner.ofSource source options).take count).1
      ((Scanner.ofSource source options).take count).2 collector where
  tokens := by
    rw [Scanner.tokens_drain, ← List.filterMap_append, ← Scanner.items_take]
  diagnostics := by
    refine ⟨_, Scanner.reported_drain _ collector, ?_⟩
    rw [← List.filterMap_append, ← Scanner.items_take]
  any_sink := by
    intro τ _ other same
    constructor
    · rw [← Array.toList_inj, Scanner.tokens_drain, Scanner.tokens_drain]
    · rw [← Array.toList_inj, Scanner.reported_drain, Scanner.reported_drain, same]
  ended := by
    rintro ⟨item, member, isEnd⟩
    have finished := Scanner.finished_of_mem_take member isEnd
    rw [← Array.toList_inj, Scanner.tokens_drain, Scanner.items_finished finished]
    rfl

end LoxTokens
