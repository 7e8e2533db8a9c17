import LoxTokens.Proofs.Concatenation
import LoxTokens.Proofs.PrintedTexts
import LoxTokens.Proofs.Verdicts

/-!
# Generated fixtures

A source with a header that states what printing its tokens shows is a fixture that passes.  The
header is made of comments, which shift the source by their number and change nothing else, and its
lines are read back into what the program prints.
-/

namespace LoxTokens

/-! ## Sources behind comments -/

/-- A line that is a comment. -/
def IsComment (line : List Char) : Prop := ∃ body, '\n' ∉ body ∧ line = '/' :: '/' :: body

theorem closedGap_unlines {lines : List (List Char)} (comments : ∀ line ∈ lines, IsComment line) :
    ClosedGap (unlines lines) := by
  induction lines with
  | nil => exact .nil
  | cons line lines ih =>
      obtain ⟨⟨body, closed, line_eq⟩, later⟩ := List.forall_mem_cons.mp comments
      rw [unlines_cons, line_eq]
      exact .comment closed (ih later)

theorem IsComment.closed {line : List Char} (comment : IsComment line) : '\n' ∉ line := by
  obtain ⟨body, closed, rfl⟩ := comment
  simpa using closed

theorem count_unlines {lines : List (List Char)} (closed : ∀ line ∈ lines, '\n' ∉ line) :
    (unlines lines).count '\n' = lines.length := by
  induction lines with
  | nil => rfl
  | cons line lines ih =>
      obtain ⟨line_closed, closed⟩ := List.forall_mem_cons.mp closed
      rw [unlines_cons, List.count_append, List.count_eq_zero.mpr line_closed,
        List.count_cons_self, ih closed, List.length_cons, Nat.zero_add]

theorem endsLine_unlines (lines : List (List Char)) : EndsLine (unlines lines) := by
  rcases List.eq_nil_or_concat lines with rfl | ⟨front, last, rfl⟩
  · exact .inl rfl
  · refine .inr ⟨unlines front ++ last, ?_⟩
    simp [unlines]

namespace Scanner

variable {front : List Char}

/-- The tokens behind a closed gap have the same kinds, lexemes and values. -/
theorem content_closedGap_append (closed : ClosedGap front) (source : List Char)
    (options : Options) :
    (tokens (front ++ source) options).map Token.content =
      (tokens source options).map Token.content := by
  rw [tokens, items_closedGap_append options closed, List.filterMap_map, List.map_filterMap,
    tokens, List.map_filterMap]
  apply List.filterMap_congr
  intro item _
  cases item <;> rfl

/-- The diagnostics behind a closed gap are those of the source, on later lines. -/
theorem text_closedGap_append (closed : ClosedGap front) {source : List Char}
    (bounded : (front ++ source).count '\n' ≤ UInt32.size - 2) (options : Options) :
    (diagnostics (front ++ source) options).map Diagnostic.text =
      (diagnostics source options).map fun diagnostic =>
        errorText (diagnostic.line.toNat + front.count '\n') diagnostic.error := by
  rw [diagnostics, items_closedGap_append options closed, List.filterMap_map, List.map_filterMap,
    diagnostics, List.map_filterMap]
  apply List.filterMap_congr
  intro item member
  cases item with
  | token => rfl
  | diagnostic value =>
      have line_eq : (value.line + UInt32.ofNat (front.count '\n')).toNat =
          value.line.toNat + front.count '\n' := line_shift_toNat bounded member
      simp only [Function.comp_apply, Item.shift, Item.diagnostic?, Option.map_some,
        Diagnostic.text_eq, line_eq]

end Scanner

/-! ## Printed lines -/

theorem tokenLines_eq_unlines (tokens : List Token) :
    (CommandLine.tokenLines tokens).toList =
      unlines (tokens.map fun token => token.text.toList) := by
  rw [toList_tokenLines, unlines, List.flatMap_map]
  rfl

theorem diagnosticLines_eq_unlines (diagnostics : List Diagnostic) :
    (diagnosticLines diagnostics).toList =
      unlines ((diagnostics.map Diagnostic.text).map String.toList) := by
  rw [toList_diagnosticLines, unlines, List.flatMap_map, List.flatMap_map]
  rfl

namespace Fixture

variable {source : List Char} {options : Options}

/-! ## The header -/

/-- The line that asks for identifiers, if they are recognised. -/
def flagLines (options : Options) : List (List Char) :=
  if options.identifiers then ["// flags: --identifiers".toList] else []

/-- The lines of the tokens of a source. -/
def outputLines (source : List Char) (options : Options) : List (List Char) :=
  closedLines (CommandLine.tokenLines (Scanner.tokens source options)).toList

/-- The number of lines that a header has. -/
def headerSize (source : List Char) (options : Options) : Nat :=
  (flagLines options).length + (outputLines source options).length +
    (Scanner.diagnostics source options).length

/-- The texts of the diagnostics of a source that stands behind its header. -/
def errorLines (source : List Char) (options : Options) : List (List Char) :=
  (Scanner.diagnostics source options).map fun diagnostic =>
    (errorText (diagnostic.line.toNat + headerSize source options) diagnostic.error).toList

/-- A header that states what printing the tokens of a source behind it shows. -/
def header (source : List Char) (options : Options) : List (List Char) :=
  flagLines options ++ (outputLines source options).map ("// expect: ".toList ++ ·) ++
    (errorLines source options).map ("// expect error: ".toList ++ ·)

/-- The text of the fixture that is generated for a source. -/
def generated (source : List Char) (options : Options) : List Char :=
  unlines (header source options) ++ source

theorem length_header (source : List Char) (options : Options) :
    (header source options).length = headerSize source options := by
  simp [header, headerSize, errorLines, Nat.add_assoc]

theorem newline_notMem_outputLines (source : List Char) (options : Options) :
    ∀ line ∈ outputLines source options, '\n' ∉ line :=
  newline_notMem_closedLines _

theorem unlines_outputLines (source : List Char) (options : Options) :
    unlines (outputLines source options) =
      (CommandLine.tokenLines (Scanner.tokens source options)).toList := by
  apply unlines_closedLines
  rw [tokenLines_eq_unlines]
  exact endsLine_unlines _

theorem isInfix_of_mem_outputLines {line : List Char} (member : line ∈ outputLines source options) :
    line <:+: (CommandLine.tokenLines (Scanner.tokens source options)).toList := by
  rw [← unlines_outputLines]
  obtain ⟨front, back, lines_eq⟩ := List.append_of_mem member
  rw [lines_eq, unlines_append, unlines_cons]
  exact (List.prefix_append line _).isInfix.trans (List.suffix_append _ _).isInfix

theorem return_notMem_outputLines (absent : '\r' ∉ source) :
    ∀ line ∈ outputLines source options, '\r' ∉ line := by
  intro line member inside
  exact Scanner.return_notMem_tokenLines absent ((isInfix_of_mem_outputLines member).subset inside)

/-- No line of a diagnostic holds a slash, a newline or a carriage return. -/
theorem notMem_errorLines {character : Char} (active : isInert character = false) :
    ∀ line ∈ errorLines source options, character ∉ line := by
  intro line member inside
  obtain ⟨diagnostic, reported, rfl⟩ := List.mem_map.mp member
  have inert := Scanner.isInert_errorText (mem_diagnostics.mp reported) _ character inside
  exact Bool.false_ne_true (active.symm.trans inert)

/-- A header has lines of three forms. -/
theorem forall_mem_header {property : List Char → Prop}
    (flag : property "// flags: --identifiers".toList)
    (output : ∀ line ∈ outputLines source options, property (Expectations.outputMarker ++ line))
    (error : ∀ line ∈ errorLines source options, property (Expectations.errorMarker ++ line)) :
    ∀ line ∈ header source options, property line := by
  rw [header, List.forall_mem_append, List.forall_mem_append, List.forall_mem_map,
    List.forall_mem_map]
  refine ⟨⟨?_, output⟩, error⟩
  obtain ⟨identifiers⟩ := options
  cases identifiers with
  | false => exact List.forall_mem_nil _
  | true => exact List.forall_mem_singleton.mpr flag

theorem isComment_of_mem_header : ∀ line ∈ header source options, IsComment line := by
  apply forall_mem_header
  · exact ⟨" flags: --identifiers".toList, by decide, rfl⟩
  · intro line member
    have closed := newline_notMem_outputLines source options line member
    exact ⟨" expect: ".toList ++ line, List.not_mem_append (by decide) closed, rfl⟩
  · intro line member
    have closed : '\n' ∉ line := notMem_errorLines rfl line member
    exact ⟨" expect error: ".toList ++ line, List.not_mem_append (by decide) closed, rfl⟩

theorem return_notMem_header (absent : '\r' ∉ source) :
    ∀ line ∈ header source options, '\r' ∉ line := by
  apply forall_mem_header
  · decide
  · intro line member
    exact List.not_mem_append (by decide) (return_notMem_outputLines absent line member)
  · intro line member
    exact List.not_mem_append (by decide) (notMem_errorLines rfl line member)

section unmarked

open Expectations

theorem markerStem_not_infix_outputLines (unmarked : ¬ markerStem <:+: source) :
    ∀ line ∈ outputLines source options, ¬ markerStem <:+: line := by
  intro line member inside
  exact Scanner.markerStem_not_infix_tokenLines unmarked
    (inside.trans (isInfix_of_mem_outputLines member))

theorem markerStem_not_infix_flag : ¬ markerStem <:+: "// flags: --identifiers".toList :=
  not_infix_comment " expect".toList " flags: --identifiers".toList [] (by decide) (by decide) rfl
    (not_infix_plain List.not_mem_nil)

/-- Nothing in a generated text says anything about the exit code. -/
theorem exitMarker_not_infix_generated (unmarked : ¬ markerStem <:+: source) :
    ¬ exitMarker <:+: generated source options := by
  have begins : markerStem <+: exitMarker := by decide
  have absent {text : List Char} (plain : ¬ markerStem <:+: text) : ¬ exitMarker <:+: text :=
    fun inside => plain (begins.isInfix.trans inside)
  have silent : ∀ line ∈ header source options, ¬ exitMarker <:+: line := by
    apply forall_mem_header
    · exact absent markerStem_not_infix_flag
    · intro line member
      exact exitMarker_not_infix_output (markerStem_not_infix_outputLines unmarked line member)
    · intro line member
      exact exitMarker_not_infix_error (notMem_errorLines rfl line member)
  have closed : '\n' ∉ exitMarker := by decide
  intro stands
  rcases infix_unlines_append closed stands with ⟨line, member, inside⟩ | inside
  · exact silent line member inside
  · exact absent unmarked inside

/-- The lines of a header are read back into what they state. -/
theorem remarks_header :
    (header source options).filterMap remark? =
      (outputLines source options).map .output ++ (errorLines source options).map .error := by
  have flags : (flagLines options).filterMap remark? = [] := by
    have silent := remark?_eq_none markerStem_not_infix_flag
    obtain ⟨identifiers⟩ := options
    cases identifiers with
    | false => rfl
    | true => exact List.filterMap_cons_none silent
  have output : ((outputLines source options).map (outputMarker ++ ·)).filterMap remark? =
      (outputLines source options).map .output := by
    rw [List.filterMap_map, ← List.filterMap_eq_map]
    exact List.filterMap_congr fun line _ => remark?_output line
  have errors : ((errorLines source options).map (errorMarker ++ ·)).filterMap remark? =
      (errorLines source options).map .error := by
    rw [List.filterMap_map, ← List.filterMap_eq_map]
    exact List.filterMap_congr fun line member =>
      remark?_error (notMem_errorLines rfl line member)
  rw [header, List.filterMap_append, List.filterMap_append, flags]
  exact congrArg₂ (· ++ ·) output errors

/-- What a generated text expects is what its header states. -/
theorem read_generated (plain : '\r' ∉ source) (unmarked : ¬ markerStem <:+: source) :
    read (generated source options) =
      .ok
        { output := ((outputLines source options).map String.ofList).toArray
          errors := ((errorLines source options).map String.ofList).toArray
          exitCode :=
            if (errorLines source options).map String.ofList = [] then 0
            else defaultErrorCode } := by
  have silent : (Lines.cut source).filterMap remark? = [] := by
    rw [List.filterMap_eq_nil_iff]
    intro line member
    exact remark?_eq_none fun inside => unmarked (inside.trans (Lines.isInfix_of_mem_cut member))
  have remarks : (Lines.cut (generated source options)).filterMap remark? =
      (outputLines source options).map .output ++ (errorLines source options).map .error := by
    rw [generated, Lines.cut_unlines_append
      (fun line member => (isComment_of_mem_header line member).closed)
      (return_notMem_header plain), List.filterMap_append, silent, List.append_nil, remarks_header]
  apply read_of_no_exit
  · intro digits
    simp [remarks]
  · exact exitMarker_not_infix_generated unmarked
  · simp [remarks, List.filterMap_map, Function.comp_def, Remark.output?]
  · simp [remarks, List.filterMap_map, Function.comp_def, Remark.error?]

end unmarked

/-! ## Runs on generated fixtures -/

theorem closedGap_header : ClosedGap (unlines (header source options)) :=
  closedGap_unlines isComment_of_mem_header

theorem count_header :
    (unlines (header source options)).count '\n' = headerSize source options := by
  rw [count_unlines fun line member => (isComment_of_mem_header line member).closed,
    length_header]

/-- The tokens of a generated text print the lines that its header states. -/
theorem tokenLines_generated :
    (CommandLine.tokenLines (Scanner.tokens (generated source options) options)).toList =
      unlines (outputLines source options) := by
  rw [unlines_outputLines, toList_tokenLines, toList_tokenLines, Token.flatMap_printed,
    Token.flatMap_printed, generated, Scanner.content_closedGap_append closedGap_header]

/-- The diagnostics of a generated text print the lines that its header states. -/
theorem diagnosticLines_generated
    (bounded : (generated source options).count '\n' ≤ UInt32.size - 2) :
    (diagnosticLines (Scanner.diagnostics (generated source options) options)).toList =
      unlines (errorLines source options) := by
  rw [diagnosticLines_eq_unlines, generated,
    Scanner.text_closedGap_append closedGap_header bounded, count_header, List.map_map]
  rfl

theorem diagnostics_generated_eq_nil
    (bounded : (generated source options).count '\n' ≤ UInt32.size - 2) :
    Scanner.diagnostics (generated source options) options = [] ↔
      Scanner.diagnostics source options = [] := by
  have texts := Scanner.text_closedGap_append closedGap_header bounded options
  rw [← generated] at texts
  rw [← List.map_eq_nil_iff (f := Diagnostic.text), texts, List.map_eq_nil_iff]

theorem outputLines_ne_nil (source : List Char) (options : Options) :
    outputLines source options ≠ [] := by
  intro nothing
  have printed := unlines_outputLines source options
  rw [nothing, toList_tokenLines] at printed
  obtain ⟨tiles, closing, tiled⟩ := exists_tiled options source
  obtain ⟨earlier, items_eq⟩ := Tile.items_end .origin tiles closing
  rw [← Scanner.items_ofSource tiled] at items_eq
  have ended : Token.eof _ _ ∈ Scanner.tokens source options :=
    mem_tokens.mpr (items_eq ▸ List.mem_append_right earlier List.mem_cons_self)
  have line_eq := List.flatMap_eq_nil_iff.mp printed.symm _ ended
  exact Token.selfDelimiting_printed.nonempty _ line_eq

/-- The header tells whether identifiers are to be recognised. -/
theorem identifiersFlag_generated (source : List Char) (options : Options) :
    Step.identifiersFlag.isPrefixOf (generated source options) = options.identifiers := by
  obtain ⟨identifiers⟩ := options
  cases identifiers with
  | true =>
      apply List.isPrefixOf_iff_prefix.mpr
      rw [generated, header, flagLines, if_pos rfl, List.append_assoc, List.singleton_append,
        unlines_cons, List.append_assoc]
      exact List.prefix_append _ _
  | false =>
      cases lines_eq : outputLines source { identifiers := false } with
      | nil => exact (outputLines_ne_nil _ _ lines_eq).elim
      | cons first later =>
          rw [generated, header, lines_eq]
          rfl

theorem fixtureWords_generated (name : String) (source : List Char) (options : Options) :
    Step.fixtureWords name (generated source options) =
      CommandLine.printingWords ("./test/" ++ name) options := by
  rw [Step.fixtureWords, identifiersFlag_generated, CommandLine.printingWords]

theorem linesOf_encode_unlines {lines : List (List Char)} (closed : ∀ line ∈ lines, '\n' ∉ line)
    (plain : ∀ line ∈ lines, '\r' ∉ line) :
    Comparison.linesOf (Utf8.encode (unlines lines)) = lines.map String.ofList := by
  rw [Comparison.linesOf, Utf8.decodeLossy_encode, Lines.ofText, Lines.cut_unlines closed plain]

theorem linesOf_outputLines (absent : '\r' ∉ source) (options : Options) :
    Comparison.linesOf (Utf8.encode (unlines (outputLines source options))) =
      (outputLines source options).map String.ofList :=
  linesOf_encode_unlines (newline_notMem_outputLines source options)
    (return_notMem_outputLines absent)

theorem linesOf_errorLines (source : List Char) (options : Options) :
    Comparison.linesOf (Utf8.encode (unlines (errorLines source options))) =
      (errorLines source options).map String.ofList :=
  linesOf_encode_unlines (notMem_errorLines rfl) (notMem_errorLines rfl)

/-- What the program leaves behind on a generated fixture. -/
theorem printer_generated {environment : Environment} (plain : environment.IsPlain) (time : String)
    (name : String)
    (bounded : (generated source options).count '\n' ≤ UInt32.size - 2)
    (reads : environment.read ("./test/" ++ name) =
      .ok (Utf8.encode (generated source options))) :
    Program.printer time environment (Step.fixtureWords name (generated source options)) =
      .ok
        { output := Utf8.encode (unlines (outputLines source options))
          errors := Utf8.encode (unlines (errorLines source options))
          exitCode := some (if Scanner.diagnostics source options = [] then 0 else 65) } := by
  have nonempty : "./test/" ++ name ≠ "" := by simp
  have noOption : ("./test/" ++ name).toList.head? ≠ some '-' := by simp
  have prints := CommandLine.printsScan_run time plain reads nonempty noOption options
  rw [Program.printer, fixtureWords_generated]
  simp only [prints.output, prints.errors, prints.exitCode, tokenLines_generated,
    diagnosticLines_generated bounded, diagnostics_generated_eq_nil bounded,
    Outcome.lexicalErrorCode]

/--
Generated fixtures pass.  A source that holds no carriage return and no beginning of a marker is put
behind a header that states the lines of its tokens and of its diagnostics.  Run on that fixture,
the program prints what the header states, and its exit code tells whether there are diagnostics.
-/
theorem perform_generated {environment : Environment} (plain : environment.IsPlain) (time : String)
    (name : String) (options : Options) {source : List Char} (noReturn : '\r' ∉ source)
    (unmarked : ¬ "// expect".toList <:+: source)
    (bounded : (generated source options).count '\n' ≤ UInt32.size - 2)
    (reads : environment.read ("./test/" ++ name) =
      .ok (Utf8.encode (generated source options))) :
    ∃ result,
      Program.printer time environment (Step.fixtureWords name (generated source options)) =
          .ok result ∧
        result.exitCode = some (if Scanner.diagnostics source options = [] then 0 else 65) ∧
        Step.perform (Program.printer time environment)
            (.fixture { name, node := .file (Utf8.encode (generated source options)) }) =
          .ok [] := by
  have printed := printer_generated plain time name bounded reads
  refine ⟨_, printed, rfl, ?_⟩
  apply Step.Passes.perform_eq
  refine .fixture (read_generated noReturn unmarked) printed ⟨?_, ?_, ?_⟩
  · simpa using linesOf_outputLines noReturn options
  · simpa using linesOf_errorLines source options
  · simp [ProgramResult.status, errorLines, Expectations.defaultErrorCode]

/-- A plain environment in which only one path names a file. -/
def aloneWith (path : String) (bytes : List UInt8) : Environment :=
  { read := fun other => if other = path then .ok bytes else .error .notFound
    logFilter := none
    outputFull := false
    errorsFull := false }

theorem perform_generated_brokenLines :
    ∃ result,
      Program.printer "now"
          (aloneWith "./test/a.lox"
            (Utf8.encode (generated "print \"a\n\nb\"; @".toList { identifiers := true })))
          (Step.fixtureWords "a.lox"
            (generated "print \"a\n\nb\"; @".toList { identifiers := true })) =
          .ok result ∧
        result.exitCode =
          some
            (if Scanner.diagnostics "print \"a\n\nb\"; @".toList { identifiers := true } = [] then 0
            else 65) ∧
        Step.perform
            (Program.printer "now"
              (aloneWith "./test/a.lox"
                (Utf8.encode (generated "print \"a\n\nb\"; @".toList { identifiers := true }))))
            (.fixture
              { name := "a.lox"
                node := .file
                  (Utf8.encode
                    (generated "print \"a\n\nb\"; @".toList { identifiers := true })) }) =
          .ok [] := by
  have items_eq :
      (Scanner.ofSource "print \"a\n\nb\"; @".toList { identifiers := true }).items = _ :=
    Scanner.items_of_take 5 (by decide +kernel)
  have bounded : (generated "print \"a\n\nb\"; @".toList { identifiers := true }).count '\n' ≤
      UInt32.size - 2 := by
    rw [generated, List.count_append, count_header, headerSize, outputLines, Scanner.tokens,
      Scanner.diagnostics, items_eq]
    decide +kernel
  have reads (bytes : List UInt8) :
      (aloneWith "./test/a.lox" bytes).read ("./test/" ++ "a.lox") = .ok bytes := by
    simp [aloneWith]
  exact perform_generated ⟨rfl, rfl, rfl⟩ "now" "a.lox" { identifiers := true } (by decide)
    (Expectations.not_infix_plain (by decide)) bounded (reads _)

end Fixture

end LoxTokens
