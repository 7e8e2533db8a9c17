import LoxTokens.Proofs.Grammar
import Mathlib.Data.List.TakeWhile

/-!
# Skipping gaps

Skipping a gap moves over the longest gap in front, and what is left does not start with a gap.
-/

namespace LoxTokens

/-! ## Runs of characters -/

theorem takeWhile_append_stop {p : Char → Bool} {front more : List Char} {stop : Char}
    (inside : ∀ character ∈ front, p character) (outside : p stop = false) :
    (front ++ stop :: more).takeWhile p = front := by
  rw [List.takeWhile_append_of_pos inside]
  simp [outside]

theorem dropWhile_append_stop {p : Char → Bool} {front more : List Char} {stop : Char}
    (inside : ∀ character ∈ front, p character) (outside : p stop = false) :
    (front ++ stop :: more).dropWhile p = stop :: more := by
  rw [List.dropWhile_append_of_pos inside]
  simp [outside]

/-- Taking characters while they satisfy a condition takes every run of them that is in front. -/
theorem length_le_takeWhile {p : Char → Bool} {front text : List Char}
    (stands : front <+: text) (inside : ∀ character ∈ front, p character) :
    front.length ≤ (text.takeWhile p).length := by
  obtain ⟨more, rfl⟩ := stands
  rw [List.takeWhile_append_of_pos inside, List.length_append]
  omega

theorem bne_of_notMem {stop : Char} {body : List Char} (closed : stop ∉ body) :
    ∀ character ∈ body, (character != stop) = true := by
  intro character member
  rw [bne_iff_ne]
  rintro rfl
  exact closed member

theorem notMem_takeWhile_bne (stop : Char) (text : List Char) :
    stop ∉ text.takeWhile (· != stop) := by
  intro member
  have inside := List.all_eq_true.mp List.all_takeWhile stop member
  simp at inside

/-- A character of a text that is cut in two stands before the cut or behind it. -/
theorem append_cons_eq_append {front back left right : List Char} {middle : Char}
    (text_eq : front ++ middle :: back = left ++ right) :
    (∃ more, left = front ++ middle :: more ∧ back = more ++ right) ∨
      ∃ more, front = left ++ more ∧ right = more ++ middle :: back := by
  rcases List.append_eq_append_iff.mp text_eq with ⟨more, rfl, back_eq⟩ | ⟨more, rfl, right_eq⟩
  · cases more with
    | nil => exact .inr ⟨[], by simp, by simpa using back_eq.symm⟩
    | cons first more =>
        obtain ⟨rfl, rfl⟩ := List.cons.inj back_eq
        exact .inl ⟨more, rfl, rfl⟩
  · exact .inr ⟨more, rfl, right_eq⟩

/-! ## Gaps -/

/-- A comment is skipped up to its newline, which then counts as a blank. -/
theorem skipGap_inComment (position : Position) (text : List Char) :
    skipGap true position text =
      skipGap false (position.advance (text.takeWhile (· != '\n')))
        (text.dropWhile (· != '\n')) := by
  induction text generalizing position with
  | nil => rfl
  | cons character rest ih =>
      by_cases newline : character = '\n'
      · subst newline
        simp [skipGap, isBlank]
      · have remains : (character != '\n') = true := by simpa using newline
        simp [skipGap, remains, ih]

theorem isBlank_iff {character : Char} :
    isBlank character ↔ character ∈ [' ', '\t', '\r', '\n'] := by
  simp [isBlank, or_assoc]

theorem startsComment_iff {character : Char} {rest : List Char} :
    startsComment character rest ↔ character = '/' ∧ ∃ later, rest = '/' :: later := by
  cases rest <;> simp [startsComment]

/-- A blank in front belongs to the longest gap. -/
theorem longest_blank {character : Char} {rest gap : List Char}
    (blank : isBlank character) (longest : IsLongestPrefix GapText rest gap) :
    IsLongestPrefix GapText (character :: rest) (character :: gap) where
  stands := (List.prefix_cons_inj character).mpr longest.stands
  accepted := .blank (isBlank_iff.mp blank) longest.accepted
  longest := by
    intro other stands accepted
    cases accepted with
    | nil => simp
    | blank _ accepted =>
        have shorter := longest.longest _ (List.cons_prefix_cons.mp stands).2 accepted
        simpa using shorter
    | comment | lastComment =>
        obtain ⟨rfl, -⟩ := List.cons_prefix_cons.mp stands
        contradiction

private theorem comment_accepted {rest gap : List Char}
    (stands : gap <+: rest.dropWhile (· != '\n')) (accepted : GapText gap) :
    GapText ('/' :: '/' :: (rest.takeWhile (· != '\n') ++ gap)) := by
  have closed := notMem_takeWhile_bne '\n' rest
  cases gap with
  | nil => simpa using GapText.lastComment closed
  | cons first gap =>
      have ending := List.head?_dropWhile_not (· != '\n') rest
      obtain ⟨more, later_eq⟩ := stands
      rw [← later_eq] at ending
      obtain rfl : first = '\n' := by simpa using ending
      exact .comment closed accepted

private theorem comment_longest {rest gap other : List Char}
    (longest : IsLongestPrefix GapText (rest.dropWhile (· != '\n')) gap)
    (stands : other <+: '/' :: '/' :: rest) (accepted : GapText other) :
    other.length ≤ ('/' :: '/' :: (rest.takeWhile (· != '\n') ++ gap)).length := by
  cases accepted with
  | nil => simp
  | blank blank =>
      obtain ⟨rfl, -⟩ := List.cons_prefix_cons.mp stands
      contradiction
  | @comment body after closed accepted =>
      obtain ⟨more, rest_eq⟩ := stands
      obtain rfl : rest = body ++ '\n' :: (after ++ more) := by simpa using rest_eq.symm
      rw [dropWhile_append_stop (bne_of_notMem closed) (by rfl)] at longest
      rw [takeWhile_append_stop (bne_of_notMem closed) (by rfl)]
      have shorter := longest.longest ('\n' :: after) (List.prefix_append _ more) accepted
      simpa using shorter
  | @lastComment body closed =>
      have body_le := length_le_takeWhile (by simpa using stands) (bne_of_notMem closed)
      simp only [List.length_cons, List.length_append]
      omega

private theorem longest_comment {rest gap : List Char}
    (longest : IsLongestPrefix GapText (rest.dropWhile (· != '\n')) gap) :
    IsLongestPrefix GapText ('/' :: '/' :: rest)
      ('/' :: '/' :: (rest.takeWhile (· != '\n') ++ gap)) where
  stands := by
    have split := List.takeWhile_append_dropWhile (p := (· != '\n')) (l := rest)
    have stands := (List.prefix_append_right_inj (rest.takeWhile (· != '\n'))).mpr longest.stands
    rw [split] at stands
    simpa using stands
  accepted := comment_accepted longest.stands longest.accepted
  longest := fun _ => comment_longest longest

/-- The longest gap is empty in front of a character that neither is blank nor starts a comment. -/
theorem longest_nil {character : Char} {rest : List Char}
    (visible : ¬ isBlank character) (lone : ¬ startsComment character rest) :
    IsLongestPrefix GapText (character :: rest) [] where
  stands := List.nil_prefix
  accepted := .nil
  longest := by
    intro other stands accepted
    cases accepted with
    | nil => simp
    | blank blank =>
        obtain ⟨rfl, -⟩ := List.cons_prefix_cons.mp stands
        exact (visible (isBlank_iff.mpr blank)).elim
    | comment | lastComment =>
        obtain ⟨later, rest_eq⟩ := stands
        obtain ⟨rfl, rfl⟩ := List.cons.inj rest_eq
        exact (lone (startsComment_iff.mpr ⟨rfl, _, rfl⟩)).elim

/-- Skipping a gap moves over the longest gap in front. -/
theorem exists_skipGap (position : Position) (text : List Char) :
    ∃ gap rest, text = gap ++ rest ∧ IsLongestPrefix GapText text gap ∧
      skipGap false position text = (position.advance gap, rest) := by
  generalize length_eq : text.length = length
  induction length using Nat.strongRecOn generalizing position text with
  | ind length ih =>
      cases text with
      | nil =>
          refine ⟨[], [], rfl, ⟨List.nil_prefix, .nil, ?_⟩, rfl⟩
          intro other stands _
          simp [List.prefix_nil.mp stands]
      | cons character rest =>
          rw [List.length_cons] at length_eq
          by_cases blank : isBlank character
          · obtain ⟨gap, left, rfl, longest, skipped⟩ :=
              ih rest.length (by omega) (position.next character) rest rfl
            refine ⟨character :: gap, left, rfl, longest_blank blank longest, ?_⟩
            simp [skipGap, blank, skipped]
          · by_cases comment : startsComment character rest
            · obtain ⟨rfl, later, rfl⟩ := startsComment_iff.mp comment
              have shorter := (later.dropWhile_suffix (· != '\n')).length_le
              have split := List.takeWhile_append_dropWhile (p := (· != '\n')) (l := later)
              rw [List.length_cons] at length_eq
              obtain ⟨gap, left, later_eq, longest, skipped⟩ :=
                ih (later.dropWhile (· != '\n')).length (by omega)
                  (position.advance ('/' :: '/' :: later.takeWhile (· != '\n'))) _ rfl
              refine ⟨_, left, ?_, longest_comment longest, ?_⟩
              · rw [later_eq] at split
                simp [split]
              · simpa [skipGap, blank, comment, skipGap_inComment] using skipped
            · refine ⟨[], character :: rest, rfl, longest_nil blank comment, ?_⟩
              simp [skipGap, blank, comment]

/-- The longest gap in front decides where skipping it ends. -/
theorem skipGap_eq {gap rest : List Char} (longest : IsLongestPrefix GapText (gap ++ rest) gap)
    (position : Position) :
    skipGap false position (gap ++ rest) = (position.advance gap, rest) := by
  obtain ⟨other, left, text_eq, isOther, skipped⟩ := exists_skipGap position (gap ++ rest)
  obtain rfl := longest.unique isOther
  rw [skipped, List.append_cancel_left text_eq]

theorem GapText.longest {gap : List Char} (accepted : GapText gap) :
    IsLongestPrefix GapText gap gap :=
  ⟨List.prefix_rfl, accepted, fun _ stands _ => stands.length_le⟩

/-- What is left after a gap does not start with a gap. -/
theorem skipGap_rest {inComment : Bool} {position : Position} {text rest : List Char}
    {first : Char} (rest_eq : (skipGap inComment position text).2 = first :: rest) :
    ¬ isBlank first ∧ ¬ startsComment first rest := by
  induction text generalizing inComment position with
  | nil => cases inComment <;> simp [skipGap] at rest_eq
  | cons character text ih =>
      cases inComment with
      | true => exact ih rest_eq
      | false =>
          rw [skipGap] at rest_eq
          split at rest_eq
          · exact ih rest_eq
          · split at rest_eq
            · exact ih rest_eq
            · rename_i visible lone
              obtain ⟨rfl, rfl⟩ := List.cons.inj rest_eq
              exact ⟨visible, lone⟩

theorem IsLongestPrefix.not_gap {gap rest : List Char} {first : Char}
    (longest : IsLongestPrefix GapText (gap ++ first :: rest) gap) :
    ¬ isBlank first ∧ ¬ startsComment first rest :=
  skipGap_rest (congrArg Prod.snd (skipGap_eq longest .origin))

/-- Behind the longest gap there is no other one. -/
theorem IsLongestPrefix.behind_gap {gap rest : List Char}
    (longest : IsLongestPrefix GapText (gap ++ rest) gap) : IsLongestPrefix GapText rest [] := by
  cases rest with
  | nil => exact GapText.nil.longest
  | cons first rest => exact longest_nil longest.not_gap.1 longest.not_gap.2

theorem skipGap_gap {gap : List Char} (accepted : GapText gap) (position : Position) :
    skipGap false position gap = (position.advance gap, []) := by
  obtain ⟨front, rest, gap_eq, longest, skipped⟩ := exists_skipGap position gap
  obtain rfl := accepted.longest.unique longest
  rw [skipped, List.self_eq_append_right.mp gap_eq]

/--
To show something of every text, skip the longest gap in front, and show it of a text that starts
with no gap from what holds of the texts that are left behind its first character.
-/
@[elab_as_elim]
theorem gap_induction {motive : List Char → Prop} (nil : motive [])
    (skip : ∀ gap rest, IsLongestPrefix GapText (gap ++ rest) gap → motive rest →
      motive (gap ++ rest))
    (cons : ∀ first tail, IsLongestPrefix GapText (first :: tail) [] →
      (∀ rest, rest.length ≤ tail.length → motive rest) → motive (first :: tail))
    (text : List Char) : motive text := by
  generalize length_eq : text.length = length
  induction length using Nat.strongRecOn generalizing text with
  | ind length ih =>
      obtain ⟨gap, rest, rfl, longest, -⟩ := exists_skipGap .origin text
      refine skip gap rest longest ?_
      cases rest with
      | nil => exact nil
      | cons first tail =>
          refine cons first tail longest.behind_gap fun rest shorter => ih rest.length ?_ rest rfl
          simp only [← length_eq, List.length_append, List.length_cons]
          omega

/-! ## Closed gaps -/

/-- A gap is closed, or its last comment goes on with whatever follows. -/
theorem GapText.closed_or_goes_on {gap : List Char} (accepted : GapText gap) :
    ClosedGap gap ∨ ∀ character, GapText (gap ++ [character]) := by
  induction accepted with
  | nil => exact .inl .nil
  | blank blank _ ih =>
      rcases ih with closed | goes_on
      · exact .inl (.blank blank closed)
      · exact .inr fun character => .blank blank (goes_on character)
  | comment body_closed _ ih =>
      rcases ih with closed | goes_on
      · cases closed with
        | blank _ closed => exact .inl (.comment body_closed closed)
      · refine .inr fun character => ?_
        simpa using GapText.comment body_closed (goes_on character)
  | @lastComment body body_closed =>
      refine .inr fun character => ?_
      by_cases newline : character = '\n'
      · subst newline
        exact .comment body_closed (.blank (by simp) .nil)
      · apply GapText.lastComment
        simpa [body_closed, eq_comm] using newline

/-- The longest gap in front of other text is closed. -/
theorem IsLongestPrefix.closedGap {gap rest : List Char} (nonempty : rest ≠ [])
    (longest : IsLongestPrefix GapText (gap ++ rest) gap) : ClosedGap gap := by
  rcases longest.accepted.closed_or_goes_on with closed | goes_on
  · exact closed
  · obtain ⟨first, rest, rfl⟩ := List.exists_cons_of_ne_nil nonempty
    have shorter := longest.longest (gap ++ [first]) ⟨rest, by simp⟩ (goes_on first)
    rw [List.length_append] at shorter
    exact (Nat.not_succ_le_self gap.length shorter).elim

/-- A closed gap in front belongs to the longest gap. -/
theorem ClosedGap.longest_append {front rest gap : List Char} (closed : ClosedGap front)
    (longest : IsLongestPrefix GapText rest gap) :
    IsLongestPrefix GapText (front ++ rest) (front ++ gap) := by
  induction closed with
  | nil => exact longest
  | blank blank _ ih => exact longest_blank (isBlank_iff.mpr blank) ih
  | @comment body front body_closed _ ih =>
      have inside := bne_of_notMem body_closed
      have taken : (body ++ '\n' :: (front ++ rest)).takeWhile (· != '\n') = body :=
        takeWhile_append_stop inside (by rfl)
      have dropped : (body ++ '\n' :: (front ++ rest)).dropWhile (· != '\n') =
          '\n' :: (front ++ rest) :=
        dropWhile_append_stop inside (by rfl)
      have newline : isBlank '\n' := rfl
      have longest_line := longest_comment (dropped ▸ longest_blank newline ih)
      rw [taken] at longest_line
      simpa using longest_line

theorem ClosedGap.gapText {gap : List Char} (closed : ClosedGap gap) : GapText gap := by
  simpa using (closed.longest_append GapText.nil.longest).accepted

theorem closedGap_blanks {blanks : List Char} (blank : ∀ character ∈ blanks, isBlank character) :
    ClosedGap blanks := by
  induction blanks with
  | nil => exact .nil
  | cons character blanks ih =>
      obtain ⟨first, later⟩ := List.forall_mem_cons.mp blank
      exact .blank (isBlank_iff.mp first) (ih later)

theorem endsLine_of_append (front : List Char) {back : List Char}
    (ends : EndsLine (front ++ back)) : EndsLine back := by
  rcases ends with nothing | newline
  · exact .inl (List.append_eq_nil_iff.mp nothing).2
  · cases back with
    | nil => exact .inl rfl
    | cons first back =>
        exact .inr (List.suffix_of_suffix_length_le newline (List.suffix_append _ _) (by simp))

/-- A gap that ends where a line ends is closed. -/
theorem GapText.closedGap {gap : List Char} (accepted : GapText gap) (ends : EndsLine gap) :
    ClosedGap gap := by
  induction accepted with
  | nil => exact .nil
  | blank blank _ ih => exact .blank blank (ih (endsLine_of_append [_] ends))
  | @comment body rest body_closed _ ih =>
      have closed := ih (endsLine_of_append ('/' :: '/' :: body) ends)
      cases closed with
      | blank _ closed => exact .comment body_closed closed
  | @lastComment body body_closed =>
      rcases endsLine_of_append ['/', '/'] ends with rfl | newline
      · simp [EndsLine, List.suffix_cons_iff] at ends
      · exact (body_closed (newline.subset List.mem_cons_self)).elim

/-! ## Up to the first blank -/

/-- What is visible in front of a text, up to its first blank, is visible in front of another. -/
def ShowsNoMore (rest other : List Char) : Prop :=
  ∀ front, (∀ character ∈ front, ¬ isBlank character) → front <+: other → front <+: rest

/-- What follows a newline is out of sight. -/
theorem showsNoMore_append {rest : List Char} (newline : ['\n'] <:+ rest) (text : List Char) :
    ShowsNoMore rest (rest ++ text) := by
  intro front visible stands
  rcases Nat.le_total front.length rest.length with shorter | longer
  · exact List.prefix_of_prefix_length_le stands (List.prefix_append rest text) shorter
  · have whole := List.prefix_of_prefix_length_le (List.prefix_append rest text) stands longer
    have member := whole.subset (newline.subset List.mem_cons_self)
    exact (visible '\n' member rfl).elim

/-- Behind text that stays, a character can start a comment only if it could before. -/
theorem ShowsNoMore.startsComment {rest other text : List Char} {first : Char}
    (shows : ShowsNoMore rest other) (comment : startsComment first (text ++ other)) :
    startsComment first (text ++ rest) := by
  obtain ⟨rfl, later, later_eq⟩ := startsComment_iff.mp comment
  cases text with
  | nil =>
      have slash : ∀ character ∈ ['/'], ¬ isBlank character :=
        List.forall_mem_singleton.mpr (by decide)
      obtain ⟨more, rest_eq⟩ := shows ['/'] slash ⟨later, later_eq.symm⟩
      exact startsComment_iff.mpr ⟨rfl, more, rest_eq.symm⟩
  | cons head text =>
      obtain ⟨rfl, -⟩ := List.cons.inj later_eq
      exact startsComment_iff.mpr ⟨rfl, text ++ rest, rfl⟩

/-- A closed gap is the longest one in front of text that stood behind a longest gap. -/
theorem ClosedGap.longest_of_shows {front gap text rest other : List Char}
    (closed : ClosedGap front) (shows : ShowsNoMore rest other) (nonempty : text ≠ [])
    (longest : IsLongestPrefix GapText (gap ++ (text ++ rest)) gap) :
    IsLongestPrefix GapText (front ++ (text ++ other)) front := by
  cases text with
  | nil => contradiction
  | cons first text =>
      obtain ⟨visible, lone⟩ := longest.not_gap
      have still_lone : ¬ LoxTokens.startsComment first (text ++ other) :=
        fun comment => lone (shows.startsComment comment)
      simpa using closed.longest_append (longest_nil visible still_lone)

end LoxTokens
