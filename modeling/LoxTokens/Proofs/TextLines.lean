import LoxTokens.Fields
import LoxTokens.Lines
import LoxTokens.Proofs.Gaps

/-!
# Lines joined and cut

Lines without newlines that are joined, each with its newline, are cut back into the same lines.
A text has exactly the lines that its line endings set apart.  What does not hold the separator of a
text cannot stand across it.
-/

namespace LoxTokens

/-- Lines joined to a text, each with its newline. -/
def unlines (lines : List (List Char)) : List Char := lines.flatMap (· ++ ['\n'])

theorem unlines_cons (line : List Char) (lines : List (List Char)) :
    unlines (line :: lines) = line ++ '\n' :: unlines lines := by
  simp [unlines]

theorem unlines_append (front back : List (List Char)) :
    unlines (front ++ back) = unlines front ++ unlines back :=
  List.flatMap_append

/-! ## Cutting at newlines -/

/-- Cutting at newlines gives closed lines and what is left behind the last newline. -/
theorem cutAt_newline (text : List Char) :
    ∃ lines last, Fields.cutAt '\n' text = lines ++ [last] ∧ text = unlines lines ++ last ∧
      (∀ line ∈ lines, '\n' ∉ line) ∧ '\n' ∉ last := by
  induction text with
  | nil => exact ⟨[], [], rfl, rfl, by simp, by simp⟩
  | cons character text ih =>
      obtain ⟨lines, last, cut_eq, text_eq, closed, last_closed⟩ := ih
      by_cases newline : character = '\n'
      · subst newline
        refine ⟨[] :: lines, last, ?_, ?_, ?_, last_closed⟩
        · rw [Fields.cutAt, if_pos rfl, cut_eq]
          rfl
        · rw [unlines_cons, text_eq]
          rfl
        · exact List.forall_mem_cons.mpr ⟨List.not_mem_nil, closed⟩
      · have open_line {line : List Char} (line_closed : '\n' ∉ line) :
            '\n' ∉ character :: line :=
          List.not_mem_cons_of_ne_of_not_mem (Ne.symm newline) line_closed
        cases lines with
        | nil =>
            refine ⟨[], character :: last, ?_, ?_, by simp, open_line last_closed⟩
            · rw [Fields.cutAt, if_neg newline, cut_eq]
              rfl
            · rw [text_eq]
              rfl
        | cons first lines =>
            obtain ⟨first_closed, closed⟩ := List.forall_mem_cons.mp closed
            refine ⟨(character :: first) :: lines, last, ?_, ?_, ?_, last_closed⟩
            · rw [Fields.cutAt, if_neg newline, cut_eq]
              rfl
            · rw [text_eq, unlines_cons, unlines_cons]
              rfl
            · exact List.forall_mem_cons.mpr ⟨open_line first_closed, closed⟩

/-- The newline-separated lines of a text that ends where a line ends. -/
def closedLines (text : List Char) : List (List Char) := (Fields.cutAt '\n' text).dropLast

theorem newline_notMem_closedLines (text : List Char) :
    ∀ line ∈ closedLines text, '\n' ∉ line := by
  obtain ⟨lines, last, cut_eq, -, closed, -⟩ := cutAt_newline text
  rw [closedLines, cut_eq, List.dropLast_concat]
  exact closed

/-- A text that ends where a line ends is its lines joined again. -/
theorem unlines_closedLines {text : List Char} (ends : EndsLine text) :
    unlines (closedLines text) = text := by
  obtain ⟨lines, last, cut_eq, text_eq, -, last_closed⟩ := cutAt_newline text
  rw [closedLines, cut_eq, List.dropLast_concat]
  rw [text_eq] at ends ⊢
  rcases endsLine_of_append (unlines lines) ends with rfl | newline
  · exact (List.append_nil _).symm
  · exact (last_closed (newline.subset List.mem_cons_self)).elim

/-! ## Cutting into lines -/

namespace Lines

theorem dropReturn_of_notMem {reversed : List Char} (absent : '\r' ∉ reversed) :
    dropReturn reversed = reversed := by
  cases reversed with
  | nil => rfl
  | cons last reversed =>
      have other : last ≠ '\r' := by
        rintro rfl
        exact absent List.mem_cons_self
      simp [dropReturn, other]

theorem cutFrom_append {line : List Char} (closed : '\n' ∉ line) (reversed rest : List Char) :
    cutFrom reversed (line ++ '\n' :: rest) =
      (dropReturn (line.reverse ++ reversed)).reverse :: cutFrom [] rest := by
  induction line generalizing reversed with
  | nil => simp [cutFrom]
  | cons first line ih =>
      obtain ⟨other, closed⟩ := List.ne_and_not_mem_of_not_mem_cons closed
      rw [List.cons_append, cutFrom, if_neg (Ne.symm other), ih closed]
      simp

/-- A line in front of a newline is cut off, but for a carriage return at its end. -/
theorem cut_append {line : List Char} (closed : '\n' ∉ line) (rest : List Char) :
    cut (line ++ '\n' :: rest) = (dropReturn line.reverse).reverse :: cut rest := by
  rw [cut, cutFrom_append closed, List.append_nil, cut]

/-- Lines that were joined are cut back, whatever follows them. -/
theorem cut_unlines_append {lines : List (List Char)} (closed : ∀ line ∈ lines, '\n' ∉ line)
    (plain : ∀ line ∈ lines, '\r' ∉ line) (rest : List Char) :
    cut (unlines lines ++ rest) = lines ++ cut rest := by
  induction lines with
  | nil => rfl
  | cons line lines ih =>
      obtain ⟨line_closed, closed⟩ := List.forall_mem_cons.mp closed
      obtain ⟨line_plain, plain⟩ := List.forall_mem_cons.mp plain
      have kept := dropReturn_of_notMem (mt List.mem_reverse.mp line_plain)
      rw [unlines_cons, List.append_assoc, List.cons_append, cut_append line_closed, kept,
        List.reverse_reverse, ih closed plain]
      rfl

theorem cut_unlines {lines : List (List Char)} (closed : ∀ line ∈ lines, '\n' ∉ line)
    (plain : ∀ line ∈ lines, '\r' ∉ line) : cut (unlines lines) = lines := by
  simpa [cut, cutFrom] using cut_unlines_append closed plain []

private theorem dropReturn_suffix (reversed : List Char) : dropReturn reversed <:+ reversed := by
  unfold dropReturn
  split
  · exact List.suffix_cons _ _
  · exact List.suffix_rfl

private theorem isInfix_of_mem_cutFrom {reversed text line : List Char}
    (member : line ∈ cutFrom reversed text) : line <:+: reversed.reverse ++ text := by
  induction text generalizing reversed with
  | nil =>
      cases reversed with
      | nil => contradiction
      | cons last reversed =>
          rw [cutFrom, List.mem_singleton] at member
          subst member
          exact (List.prefix_append _ []).isInfix
  | cons character text ih =>
      rw [cutFrom] at member
      split at member
      · rcases List.mem_cons.mp member with rfl | member
        · have kept := List.reverse_prefix.mpr (dropReturn_suffix reversed)
          exact (kept.trans (List.prefix_append _ _)).isInfix
        · have later : text <:+ reversed.reverse ++ character :: text :=
            (List.suffix_cons character text).trans (List.suffix_append reversed.reverse _)
          exact (ih member).trans later.isInfix
      · simpa using ih member

/-- Every line stands in the text. -/
theorem isInfix_of_mem_cut {text line : List Char} (member : line ∈ cut text) : line <:+: text :=
  isInfix_of_mem_cutFrom member

/-! ## Lines and their endings -/

/--
A text is cut at its newlines.  A carriage return just before a newline belongs to the line ending;
what is left behind the last newline is a line of its own unless it is empty.
-/
inductive CutsInto : List Char → List (List Char) → Prop
  /-- Nothing is left. -/
  | nil : CutsInto [] []
  /-- The last line has no newline. -/
  | last {line : List Char} (nonempty : line ≠ []) (closed : '\n' ∉ line) : CutsInto line [line]
  /-- A newline ends a line. -/
  | newline {line rest : List Char} {lines : List (List Char)} (closed : '\n' ∉ line)
      (unreturned : ∀ front, line ≠ front ++ ['\r']) (later : CutsInto rest lines) :
      CutsInto (line ++ '\n' :: rest) (line :: lines)
  /-- A carriage return and a newline end a line. -/
  | returned {line rest : List Char} {lines : List (List Char)} (closed : '\n' ∉ line)
      (later : CutsInto rest lines) : CutsInto (line ++ '\r' :: '\n' :: rest) (line :: lines)

private theorem cutFrom_of_notMem {reversed line : List Char} (closed : '\n' ∉ line)
    (nonempty : reversed.reverse ++ line ≠ []) :
    cutFrom reversed line = [reversed.reverse ++ line] := by
  induction line generalizing reversed with
  | nil =>
      cases reversed with
      | nil => contradiction
      | cons last reversed => rw [cutFrom, List.append_nil]
  | cons first line ih =>
      obtain ⟨other, closed⟩ := List.ne_and_not_mem_of_not_mem_cons closed
      rw [cutFrom, if_neg (Ne.symm other), ih closed (by simp)]
      simp

theorem dropReturn_reverse_append (line : List Char) :
    dropReturn (line ++ ['\r']).reverse = line.reverse := by
  rw [List.reverse_append]
  rfl

theorem dropReturn_reverse {line : List Char} (unreturned : ∀ front, line ≠ front ++ ['\r']) :
    dropReturn line.reverse = line.reverse := by
  cases reversed_eq : line.reverse with
  | nil => rfl
  | cons last front =>
      have other : last ≠ '\r' := by
        rintro rfl
        exact unreturned front.reverse (List.reverse_eq_cons_iff.mp reversed_eq)
      simp [dropReturn, other]

/-- Cutting follows the endings of the lines. -/
theorem cut_of_cutsInto {text : List Char} {lines : List (List Char)}
    (cuts : CutsInto text lines) : cut text = lines := by
  induction cuts with
  | nil => rfl
  | last nonempty closed => exact cutFrom_of_notMem closed nonempty
  | newline closed unreturned later ih =>
      rw [cut_append closed, dropReturn_reverse unreturned, List.reverse_reverse, ih]
  | @returned line rest lines closed later ih =>
      have returned_closed : '\n' ∉ line ++ ['\r'] := by simpa using closed
      rw [List.append_cons, cut_append returned_closed, dropReturn_reverse_append,
        List.reverse_reverse, ih]

/-- Every text is cut into lines. -/
theorem exists_cutsInto (text : List Char) : ∃ lines, CutsInto text lines := by
  induction length_eq : text.length using Nat.strongRecOn generalizing text with
  | ind length ih =>
      by_cases newline : '\n' ∈ text
      · obtain ⟨line, rest, rfl, closed⟩ := List.eq_append_cons_of_mem newline
        have shorter : rest.length < length := by
          rw [← length_eq, List.length_append, List.length_cons]
          omega
        obtain ⟨lines, later⟩ := ih rest.length shorter rest rfl
        by_cases returned : ∃ front, line = front ++ ['\r']
        · obtain ⟨front, rfl⟩ := returned
          have front_closed : '\n' ∉ front := by simpa using closed
          rw [List.append_assoc]
          exact ⟨front :: lines, .returned front_closed later⟩
        · exact ⟨line :: lines, .newline closed (not_exists.mp returned) later⟩
      · by_cases empty : text = []
        · exact ⟨[], empty ▸ .nil⟩
        · exact ⟨[text], .last empty newline⟩

/-- A text has exactly the lines into which it is cut. -/
theorem cut_eq_iff {text : List Char} {lines : List (List Char)} :
    cut text = lines ↔ CutsInto text lines := by
  refine ⟨?_, cut_of_cutsInto⟩
  rintro rfl
  obtain ⟨lines, cuts⟩ := exists_cutsInto text
  rwa [cut_of_cutsInto cuts]

end Lines

/-! ## What stands across a separator -/

/-- What stands in a text with a separator stands on one side of it, or across it. -/
theorem infix_append_cons {marker left right : List Char} {separator : Char}
    (stands : marker <:+: left ++ separator :: right) :
    marker <:+: left ∨ marker <:+: right ∨
      ∃ front back, marker = front ++ separator :: back ∧ front <:+ left ∧ back <+: right := by
  rcases List.infix_append_iff_ne_nil.mp stands with
    inside | inside | ⟨front, back, -, nonempty, rfl, front_ends, back_stands⟩
  · exact .inl inside
  · rcases List.infix_cons_iff.mp inside with stands | inside
    · cases marker with
      | nil => exact .inl List.nil_infix
      | cons first back =>
          obtain ⟨rfl, behind⟩ := List.cons_prefix_cons.mp stands
          exact .inr (.inr ⟨[], back, rfl, List.nil_suffix, behind⟩)
    · exact .inr (.inl inside)
  · cases back with
    | nil => contradiction
    | cons first back =>
        obtain ⟨rfl, behind⟩ := List.cons_prefix_cons.mp back_stands
        exact .inr (.inr ⟨front, back, rfl, front_ends, behind⟩)

/-- What holds no newline stands in one of the lines, or behind them. -/
theorem infix_unlines_append {marker rest : List Char} {lines : List (List Char)}
    (closed : '\n' ∉ marker) (stands : marker <:+: unlines lines ++ rest) :
    (∃ line ∈ lines, marker <:+: line) ∨ marker <:+: rest := by
  induction lines with
  | nil => exact .inr stands
  | cons line lines ih =>
      rw [unlines_cons, List.append_assoc, List.cons_append] at stands
      rcases infix_append_cons stands with inside | later | ⟨front, back, rfl, -, -⟩
      · exact .inl ⟨line, List.mem_cons_self, inside⟩
      · rcases ih later with ⟨other, member, inside⟩ | inside
        · exact .inl ⟨other, List.mem_cons_of_mem line member, inside⟩
        · exact .inr inside
      · exact (closed (List.mem_append_right front List.mem_cons_self)).elim

/-- What holds no character of a line ending stands in a text exactly if it stands in a line. -/
theorem Lines.infix_iff_of_cutsInto {marker text : List Char} {lines : List (List Char)}
    (nonempty : marker ≠ []) (closed : '\n' ∉ marker) (unreturned : '\r' ∉ marker)
    (cuts : CutsInto text lines) : marker <:+: text ↔ ∃ line ∈ lines, marker <:+: line := by
  have beside {separator : Char} {left right : List Char} (absent : separator ∉ marker)
      (stands : marker <:+: left ++ separator :: right) :
      marker <:+: left ∨ marker <:+: right := by
    rcases infix_append_cons stands with inside | later | ⟨front, back, rfl, -, -⟩
    · exact .inl inside
    · exact .inr later
    · exact (absent (List.mem_append_right front List.mem_cons_self)).elim
  constructor
  · intro stands
    induction cuts with
    | nil => exact (nonempty (List.eq_nil_of_infix_nil stands)).elim
    | @last line _ _ => exact ⟨line, List.mem_singleton_self line, stands⟩
    | @newline line rest lines _ _ _ ih =>
        rcases beside closed stands with inside | later
        · exact ⟨line, List.mem_cons_self, inside⟩
        · obtain ⟨other, member, inside⟩ := ih later
          exact ⟨other, List.mem_cons_of_mem line member, inside⟩
    | @returned line rest lines _ _ ih =>
        rcases beside unreturned stands with inside | ending
        · exact ⟨line, List.mem_cons_self, inside⟩
        · rcases @beside '\n' [] rest closed ending with nothing | later
          · exact (nonempty (List.eq_nil_of_infix_nil nothing)).elim
          · obtain ⟨other, member, inside⟩ := ih later
            exact ⟨other, List.mem_cons_of_mem line member, inside⟩
  · rintro ⟨line, member, inside⟩
    rw [← cut_of_cutsInto cuts] at member
    exact inside.trans (isInfix_of_mem_cut member)

/-- What starts with a character that is not in front stands behind. -/
theorem infix_of_notMem {first : Char} {marker front rest : List Char} (absent : first ∉ front)
    (stands : (first :: marker) <:+: front ++ rest) : (first :: marker) <:+: rest := by
  induction front with
  | nil => exact stands
  | cons character front ih =>
      obtain ⟨other, absent⟩ := List.ne_and_not_mem_of_not_mem_cons absent
      rcases List.infix_cons_iff.mp stands with stands | inside
      · exact (other (List.cons_prefix_cons.mp stands).1).elim
      · exact ih absent inside

end LoxTokens
