import LoxTokens.Proofs.Comparing
import LoxTokens.Proofs.Decoding
import LoxTokens.Proofs.WorkingTrees

/-!
# Verdicts of a suite

A step passes exactly when the program shows what is expected of it.  A run reports the steps before
the first one that cannot be carried out, each on its own, and succeeds exactly when all steps pass.
-/

namespace LoxTokens

/-! ## Steps -/

namespace Step

/-- A result shows what a fixture expects. -/
structure Meets (expectations : Expectations) (result : ProgramResult) : Prop where
  /-- The lines of the standard output are the expected ones. -/
  output : Comparison.linesOf result.output = expectations.output.toList
  /-- So are the lines of the error stream. -/
  errors : Comparison.linesOf result.errors = expectations.errors.toList
  /-- So is the exit code. -/
  exitCode : result.status = expectations.exitCode

/-- A result shows that a command line was refused. -/
structure Refuses (result : ProgramResult) : Prop where
  /-- The exit code tells so. -/
  exitCode : result.status = 2
  /-- Nothing is left on the standard output. -/
  output : result.output = []

/-- A step finds nothing wrong with a program. -/
inductive Passes (program : Program) : Step → Prop
  /-- The program shows what the fixture expects. -/
  | fixture {name : String} {contents : List Char} {expectations : Expectations}
      {result : ProgramResult} (expects : Expectations.read contents = .ok expectations)
      (runs : program (fixtureWords name contents) = .ok result)
      (meets : Meets expectations result) :
      Passes program (.fixture { name, node := .file (Utf8.encode contents) })
  /-- The program refuses the command line. -/
  | usage {words : List String} {result : ProgramResult} (runs : program words = .ok result)
      (refuses : Refuses result) : Passes program (.usage words)

/-- A step is carried out and finds failures. -/
inductive Finds (program : Program) : Step → List String → Prop
  /-- The failures of a fixture are those of both streams and of the exit code. -/
  | fixture {name : String} {contents : List Char} {expectations : Expectations}
      {result : ProgramResult} (expects : Expectations.read contents = .ok expectations)
      (runs : program (fixtureWords name contents) = .ok result) :
      Finds program (.fixture { name, node := .file (Utf8.encode contents) })
        ((mismatches expectations.output.toList (Comparison.linesOf result.output)).map
            (Mismatch.describe "stdout") ++
          (mismatches expectations.errors.toList (Comparison.linesOf result.errors)).map
            (Mismatch.describe "stderr") ++
          exitFailures expectations.exitCode result.status)
  /-- The failures of a command line are those of the exit code and of the standard output. -/
  | usage {words : List String} {result : ProgramResult} (runs : program words = .ok result) :
      Finds program (.usage words) (usageFailures result)

/-- A step cannot be carried out. -/
inductive Aborts (program : Program) : Step → StepError → Prop
  /-- A directory cannot be read. -/
  | directory (name : String) :
      Aborts program (.fixture { name, node := .directory }) (.system .isADirectory)
  /-- A fixture is not a text. -/
  | notText (name : String) {bytes : List UInt8}
      (notText : ∀ contents, Utf8.encode contents ≠ bytes) :
      Aborts program (.fixture { name, node := .file bytes }) .notText
  /-- The expected exit code of a fixture cannot be read. -/
  | exitCode (name : String) {contents : List Char} {fault : NumeralFault}
      (faulty : Expectations.read contents = .error fault) :
      Aborts program (.fixture { name, node := .file (Utf8.encode contents) }) (.exitCode fault)
  /-- The program cannot be started on a fixture. -/
  | unstarted {name : String} {contents : List Char} {expectations : Expectations}
      {error : OsError} (expects : Expectations.read contents = .ok expectations)
      (missing : program (fixtureWords name contents) = .error error) :
      Aborts program (.fixture { name, node := .file (Utf8.encode contents) }) (.system error)
  /-- The program cannot be started on a command line. -/
  | usage {words : List String} {error : OsError} (missing : program words = .error error) :
      Aborts program (.usage words) (.system error)

theorem exitFailures_eq_nil_iff {expected : Nat} {actual : Int} :
    exitFailures expected actual = [] ↔ actual = expected := by
  rw [exitFailures]
  split <;> simp_all

theorem fixtureFailures_eq (expectations : Expectations) (result : ProgramResult) :
    fixtureFailures expectations result =
      (mismatches expectations.output.toList (Comparison.linesOf result.output)).map
          (Mismatch.describe "stdout") ++
        (mismatches expectations.errors.toList (Comparison.linesOf result.errors)).map
          (Mismatch.describe "stderr") ++
        exitFailures expectations.exitCode result.status := by
  simp [fixtureFailures, Comparison.addStream_eq]

/-- A comparison has no failures exactly if the result shows what is expected. -/
theorem fixtureFailures_eq_nil_iff {expectations : Expectations} {result : ProgramResult} :
    fixtureFailures expectations result = [] ↔ Meets expectations result := by
  rw [fixtureFailures_eq, List.append_eq_nil_iff, List.append_eq_nil_iff, List.map_eq_nil_iff,
    List.map_eq_nil_iff, mismatches_eq_nil_iff, mismatches_eq_nil_iff, exitFailures_eq_nil_iff]
  constructor
  · rintro ⟨⟨output, errors⟩, exitCode⟩
    exact ⟨output.symm, errors.symm, exitCode⟩
  · rintro ⟨output, errors, exitCode⟩
    exact ⟨⟨output.symm, errors.symm⟩, exitCode⟩

theorem usageFailures_eq_nil_iff {result : ProgramResult} :
    usageFailures result = [] ↔ Refuses result := by
  rw [usageFailures, List.append_eq_nil_iff, exitFailures_eq_nil_iff]
  constructor
  · rintro ⟨exitCode, silent⟩
    refine ⟨exitCode, ?_⟩
    cases output_eq : result.output with
    | nil => rfl
    | cons byte bytes => simp [output_eq] at silent
  · rintro ⟨exitCode, output⟩
    exact ⟨exitCode, by rw [output]; rfl⟩

section perform

variable {program : Program} {name : String} {contents : List Char} {expectations : Expectations}
  {result : ProgramResult} {step : Step} {error : StepError}

/-- A fixture that is a text is run if it can be told what to expect. -/
theorem perform_text (program : Program) (name : String) (contents : List Char) :
    perform program (.fixture { name, node := .file (Utf8.encode contents) }) =
      ((Expectations.read contents).mapError .exitCode).bind fun expectations =>
        ((program (fixtureWords name contents)).mapError .system).bind fun result =>
          .ok (fixtureFailures expectations result) := by
  simp only [perform, readFixture, Utf8.decode_encode]
  rfl

theorem Finds.perform_eq {failures : List String} (finds : step.Finds program failures) :
    step.perform program = .ok failures := by
  cases finds with
  | fixture expects runs =>
      rw [perform_text, expects, runs, ← fixtureFailures_eq]
      rfl
  | usage runs =>
      simp only [perform, runs]
      rfl

theorem Aborts.perform_eq (aborts : step.Aborts program error) :
    step.perform program = .error error := by
  cases aborts with
  | directory => rfl
  | notText name notText =>
      obtain ⟨fault, decoded⟩ := Utf8.exists_decode_error_iff.mpr notText
      simp only [perform, readFixture, decoded]
      rfl
  | exitCode name faulty =>
      rw [perform_text, faulty]
      rfl
  | unstarted expects missing =>
      rw [perform_text, expects, missing]
      rfl
  | usage missing =>
      simp only [perform, missing]
      rfl

/-- A step cannot be carried out, or it finds failures. -/
theorem aborts_or_finds (program : Program) (step : Step) :
    (∃ error, step.Aborts program error) ∨ ∃ failures, step.Finds program failures := by
  cases step with
  | usage words =>
      cases runs : program words with
      | error error => exact .inl ⟨_, .usage runs⟩
      | ok result => exact .inr ⟨_, .usage runs⟩
  | fixture subject =>
      obtain ⟨name, node⟩ := subject
      cases node with
      | directory => exact .inl ⟨_, .directory name⟩
      | file bytes =>
          cases decoded : Utf8.decode bytes with
          | error fault =>
              exact .inl ⟨_, .notText name (Utf8.exists_decode_error_iff.mp ⟨fault, decoded⟩)⟩
          | ok contents =>
              obtain rfl := Utf8.decode_eq_ok_iff.mp decoded
              cases expects : Expectations.read contents with
              | error fault => exact .inl ⟨_, .exitCode name expects⟩
              | ok expectations =>
                  cases runs : program (fixtureWords name contents) with
                  | error error => exact .inl ⟨_, .unstarted expects runs⟩
                  | ok result => exact .inr ⟨_, .fixture expects runs⟩

theorem perform_eq_ok_iff {failures : List String} :
    step.perform program = .ok failures ↔ step.Finds program failures := by
  constructor
  · intro carried
    rcases aborts_or_finds program step with ⟨error, aborts⟩ | ⟨others, finds⟩
    · rw [aborts.perform_eq] at carried
      contradiction
    · obtain rfl := Except.ok.inj (finds.perform_eq.symm.trans carried)
      exact finds
  · exact Finds.perform_eq

theorem Passes.perform_eq (passes : step.Passes program) : step.perform program = .ok [] := by
  cases passes with
  | fixture expects runs meets =>
      rw [(Finds.fixture expects runs).perform_eq, ← fixtureFailures_eq,
        fixtureFailures_eq_nil_iff.mpr meets]
  | usage runs refuses =>
      rw [(Finds.usage runs).perform_eq, usageFailures_eq_nil_iff.mpr refuses]

/-- A step that is carried out passes exactly when it finds no failures. -/
theorem Finds.eq_nil_iff {failures : List String} (finds : step.Finds program failures) :
    failures = [] ↔ step.Passes program := by
  constructor
  · intro sound
    cases finds with
    | fixture expects runs =>
        rw [← fixtureFailures_eq, fixtureFailures_eq_nil_iff] at sound
        exact .fixture expects runs sound
    | usage runs => exact .usage runs (usageFailures_eq_nil_iff.mp sound)
  · intro passes
    exact Except.ok.inj (finds.perform_eq.symm.trans passes.perform_eq)

theorem perform_eq_nil_iff : step.perform program = .ok [] ↔ step.Passes program :=
  ⟨fun sound => (perform_eq_ok_iff.mp sound).eq_nil_iff.mp rfl, Passes.perform_eq⟩

end perform

/-! ## Reports -/

/-- What is printed about a step. -/
def block (program : Program) (step : Step) : String :=
  match step.perform program with
  | .ok failures => reportText step.name failures
  | .error _ => ""

/-- What is printed about a step that passes. -/
def passText (name : String) : String := "Running test: " ++ name ++ " ... " ++ "pass!\n"

/-- What is printed about a step with failures. -/
def failText (name : String) (failures : List String) : String :=
  "Running test: " ++ name ++ " ... " ++
    ("\x1b[0;31mfail!\x1b[0m\n" ++ String.join (failures.map (· ++ "\n")))

theorem reportText_nil (name : String) : reportText name [] = passText name := rfl

theorem reportText_cons (name failure : String) (failures : List String) :
    reportText name (failure :: failures) = failText name (failure :: failures) := rfl

theorem failText_ne_passText (name : String) (failures : List String) :
    failText name failures ≠ passText name := by
  intro same
  have endings := congrArg String.toList ((String.append_right_inj _).mp same)
  rw [String.toList_append] at endings
  exact absurd (List.cons.inj endings).1 (by decide)

theorem passText_ne_empty (name : String) : passText name ≠ "" :=
  fun empty => absurd (String.append_eq_empty_iff.mp empty).2 (by decide)

theorem block_of_passes {program : Program} {step : Step} (passes : step.Passes program) :
    step.block program = passText step.name := by
  simp only [block, passes.perform_eq, reportText_nil]

theorem block_of_finds {program : Program} {step : Step} {failures : List String}
    (finds : step.Finds program failures) (failing : failures ≠ []) :
    step.block program = failText step.name failures := by
  cases failures with
  | nil => contradiction
  | cons failure failures => simp only [block, finds.perform_eq, reportText_cons]

theorem block_of_aborts {program : Program} {step : Step} {error : StepError}
    (aborts : step.Aborts program error) : step.block program = "" := by
  simp only [block, aborts.perform_eq]

/-- A report tells that a step passes exactly if it does. -/
theorem block_eq_passText_iff (program : Program) (step : Step) :
    step.block program = passText step.name ↔ step.Passes program := by
  refine ⟨fun report => Classical.byContradiction fun fails => ?_, block_of_passes⟩
  rcases aborts_or_finds program step with ⟨error, aborts⟩ | ⟨failures, finds⟩
  · exact passText_ne_empty step.name (report.symm.trans (block_of_aborts aborts))
  · have block_eq := block_of_finds finds (mt finds.eq_nil_iff.mp fails)
    exact failText_ne_passText step.name failures (block_eq.symm.trans report)

/-- The command line on which a step runs the program, if it comes so far. -/
def Asks : Step → List String → Prop
  | fixture subject, words =>
      ∃ contents, subject.node = .file (Utf8.encode contents) ∧
        words = fixtureWords subject.name contents
  | usage given, words => words = given

/-- A report depends on what the program does for that step alone. -/
theorem block_congr {left right : Program} {step : Step}
    (same : ∀ words, step.Asks words → left words = right words) :
    step.block left = step.block right := by
  suffices performs : step.perform left = step.perform right by rw [block, block, performs]
  cases step with
  | usage words => simp only [perform, same words rfl]
  | fixture subject =>
      obtain ⟨name, node⟩ := subject
      cases node with
      | directory => rfl
      | file bytes =>
          cases decoded : Utf8.decode bytes with
          | error fault =>
              simp only [perform, readFixture, decoded]
              rfl
          | ok contents =>
              obtain rfl := Utf8.decode_eq_ok_iff.mp decoded
              rw [perform_text, perform_text, same _ ⟨contents, rfl, rfl⟩]

end Step

/-! ## Runs -/

namespace Suite

/-- What is printed about steps. -/
def blocks (program : Program) (steps : List Step) : String :=
  String.join (steps.map (Step.block program))

theorem blocks_cons (program : Program) (step : Step) (steps : List Step) :
    blocks program (step :: steps) = step.block program ++ blocks program steps := by
  rw [blocks, List.map_cons, String.join_cons, blocks]

variable {program : Program}

/-- Steps that can be carried out are reported before those that follow. -/
theorem runSteps_append {earlier : List Step}
    (carried : ∀ step ∈ earlier, ∀ error, ¬ step.Aborts program error) (later : List Step) :
    (runSteps program (earlier ++ later)).output =
        blocks program earlier ++ (runSteps program later).output ∧
      (runSteps program (earlier ++ later)).error = (runSteps program later).error := by
  induction earlier with
  | nil => exact ⟨String.empty_append.symm, rfl⟩
  | cons step earlier ih =>
      obtain ⟨step_carried, carried⟩ := List.forall_mem_cons.mp carried
      obtain ⟨output, error⟩ := ih carried
      rcases Step.aborts_or_finds program step with ⟨fault, aborts⟩ | ⟨failures, finds⟩
      · exact (step_carried fault aborts).elim
      · have block_eq : step.block program = Step.reportText step.name failures := by
          simp only [Step.block, finds.perform_eq]
        rw [List.cons_append, runSteps, finds.perform_eq]
        refine ⟨?_, error⟩
        dsimp only
        rw [output, blocks_cons, block_eq, String.append_assoc]

theorem runSteps_of_aborts {step : Step} {error : StepError} (aborts : step.Aborts program error)
    (later : List Step) :
    runSteps program (step :: later) = { output := "", failed := false, error := some error } := by
  rw [runSteps, aborts.perform_eq]

theorem exitCode_eq_zero_iff {outcome : SuiteOutcome} :
    outcome.exitCode = 0 ↔ outcome.failed = false ∧ outcome.error = none := by
  rw [SuiteOutcome.exitCode]
  cases outcome.failed <;> cases outcome.error <;> simp

theorem exitCode_cases (outcome : SuiteOutcome) : outcome.exitCode = 0 ∨ outcome.exitCode = 1 := by
  rw [SuiteOutcome.exitCode]
  split <;> simp

/-- A run succeeds exactly when all steps pass. -/
theorem exitCode_runSteps (program : Program) (steps : List Step) :
    (runSteps program steps).exitCode = 0 ↔ ∀ step ∈ steps, step.Passes program := by
  rw [exitCode_eq_zero_iff]
  induction steps with
  | nil => simp [runSteps]
  | cons step steps ih =>
      rw [List.forall_mem_cons, ← ih, ← Step.perform_eq_nil_iff, runSteps]
      cases step.perform program with
      | error error => simp
      | ok failures => cases failures <;> simp

/-- The steps over some fixtures: those fixtures in the byte order of their names, then refusals. -/
def InOrder (fixtures : List Fixture) (steps : List Step) : Prop :=
  ∃ visited : List Fixture, visited.Perm fixtures ∧
    visited.Pairwise (fun left right =>
      Utf8.encode left.name.toList ≤ Utf8.encode right.name.toList) ∧
    steps = visited.map .fixture ++ refusals.map .usage

theorem inOrder_steps (fixtures : List Fixture) : InOrder fixtures (steps fixtures) := by
  refine ⟨fixtures.mergeSort nameLe, List.mergeSort_perm fixtures nameLe, ?_, rfl⟩
  have transitive (first second third : Fixture) (early : nameLe first second = true)
      (late : nameLe second third = true) : nameLe first third = true :=
    decide_eq_true (List.le_trans (of_decide_eq_true early) (of_decide_eq_true late))
  have total (left right : Fixture) : (nameLe left right || nameLe right left) = true := by
    rw [Bool.or_eq_true, nameLe, nameLe, decide_eq_true_iff, decide_eq_true_iff]
    exact List.le_total _ _
  exact (List.pairwise_mergeSort transitive total fixtures).imp of_decide_eq_true

/-- What a run shows of its steps. -/
structure Judges (program : Program) (steps : List Step) (outcome : SuiteOutcome) : Prop where
  /-- All steps are reported if all can be carried out. -/
  completed : (∀ step ∈ steps, ∀ error, ¬ step.Aborts program error) →
    outcome.output = blocks program steps ∧ outcome.errorText = ""
  /-- Otherwise those before the first that cannot be, which is accounted for. -/
  aborted : ∀ earlier step later error, steps = earlier ++ step :: later →
    (∀ before ∈ earlier, ∀ fault, ¬ before.Aborts program fault) →
      step.Aborts program error →
        outcome.output = blocks program earlier ∧
          outcome.errorText = "Error: " ++ error.account ++ "\n"
  /-- The exit code is zero exactly if all steps pass. -/
  succeeded : outcome.exitCode = 0 ↔ ∀ step ∈ steps, step.Passes program
  /-- Else it is one. -/
  failed : outcome.exitCode ≠ 0 → outcome.exitCode = 1

theorem judges_runSteps (program : Program) (steps : List Step) :
    Judges program steps (runSteps program steps) := by
  constructor
  case completed =>
    intro carried
    obtain ⟨output, error⟩ := runSteps_append carried []
    rw [List.append_nil] at output error
    refine ⟨output.trans String.append_empty, ?_⟩
    rw [SuiteOutcome.errorText, error]
    rfl
  case aborted =>
    rintro earlier step later error rfl carried aborts
    obtain ⟨output, error_eq⟩ := runSteps_append carried (step :: later)
    rw [runSteps_of_aborts aborts] at output error_eq
    refine ⟨output.trans String.append_empty, ?_⟩
    rw [SuiteOutcome.errorText, error_eq]
  case succeeded => exact exitCode_runSteps program steps
  case failed => exact (exitCode_cases (runSteps program steps)).resolve_left

/-- What a run of a suite over the fixtures of a directory, if there is one, tells of a program. -/
structure Verdict (listing : Option (List Fixture)) (program : Program) (outcome : SuiteOutcome) :
    Prop where
  /-- Without a directory nothing is reported. -/
  missing : listing = none →
    outcome.output = "" ∧ outcome.exitCode = 1 ∧
      outcome.errorText = "Error: " ++ OsError.notFound.account ++ "\n"
  /-- The steps are reported in order. -/
  judged : ∀ fixtures, listing = some fixtures →
    ∃ steps, InOrder fixtures steps ∧ Judges program steps outcome
  /-- A report tells that a step passes exactly if it does. -/
  passed : ∀ step : Step, step.block program = Step.passText step.name ↔ step.Passes program
  /-- Otherwise it tells all failures. -/
  faulted : ∀ (step : Step) failures, step.Finds program failures → failures ≠ [] →
    step.block program = Step.failText step.name failures
  /-- A report depends on what the program does for that step alone. -/
  own : ∀ (step : Step) (other : Program),
    (∀ words, step.Asks words → program words = other words) →
      step.block program = step.block other
  /-- The report on the program that prints tokens is the same without the other fixtures. -/
  apart : ∀ time logFilter fixtures, listing = some fixtures → IsListing fixtures →
    program = installed time logFilter fixtures →
      (∀ fixture ∈ fixtures, (Step.fixture fixture).block program =
        (Step.fixture fixture).block (installed time logFilter [fixture])) ∧
      ∀ words ∈ refusals, (Step.usage words).block program =
        (Step.usage words).block (installed time logFilter [])

/--
The verdict of a suite on any program.  Fixtures are visited in the byte order of their names, and
then the command lines that must be refused; what is reported is decided step by step.
-/
theorem verdict_run (listing : Option (List Fixture)) (program : Program) :
    Verdict listing program (run listing program) := by
  constructor
  case missing =>
    rintro rfl
    exact ⟨rfl, rfl, rfl⟩
  case judged =>
    rintro fixtures rfl
    exact ⟨steps fixtures, inOrder_steps fixtures, judges_runSteps program (steps fixtures)⟩
  case passed => exact Step.block_eq_passText_iff program
  case faulted => exact fun step failures => Step.block_of_finds
  case own => exact fun step other => Step.block_congr
  case apart =>
    rintro time logFilter fixtures - distinct rfl
    constructor
    · intro fixture member
      apply Step.block_congr
      rintro words ⟨contents, -, rfl⟩
      exact installed_fixture time logFilter distinct member contents
    · intro words member
      have refused : ∀ words ∈ refusals, Invocation.ofWords? words = none := by decide
      apply Step.block_congr
      rintro asked rfl
      exact installed_refusal time logFilter fixtures (refused asked member)

end Suite

end LoxTokens
