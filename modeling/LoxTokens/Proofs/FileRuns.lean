import LoxTokens.Proofs.Decoding
import LoxTokens.Proofs.PrintedRuns

/-!
# Runs on a file

Without a log filter, the contents of the file and the state of the streams tell what a run leaves
behind.  A failure comes before lexical errors, and an error stream that takes nothing changes
neither the standard output nor the exit code.
-/

namespace LoxTokens
namespace CommandLine

/-- The line in which a run accounts for a failure. -/
def failureLine (failure : Failure) : String := "Error: " ++ failure.account ++ "\n"

/-- What a run leaves behind; nothing is seen of an error stream that takes nothing. -/
structure Leaves (time : String) (environment : Environment) (words : List String)
    (exitCode : Nat) (output errors : String) : Prop where
  /-- Its exit code. -/
  exitCode : (run environment words).exitCode = exitCode
  /-- What it leaves on the standard output. -/
  output : (run environment words).output = output
  /-- What it leaves on the error stream. -/
  errors : environment.errorsFull = false → errorText time environment words = errors

/-- What a run on a file leaves behind, whatever the file holds and the streams take. -/
structure AnswersFor (time : String) (environment : Environment) (words : List String)
    (filename : String) (options : Options) : Prop where
  /-- A file that cannot be read makes a failure. -/
  unread : ∀ error, environment.read filename = .error error →
    Leaves time environment words 1 "" (failureLine (.system error))
  /-- So does a file that is not a text, and its bytes are given with the fault in them. -/
  notText : ∀ bytes, environment.read filename = .ok bytes →
    (∀ source, Utf8.encode source ≠ bytes) →
      ∃ fault : Utf8.Fault, fault.Locates bytes ∧
        Leaves time environment words 1 "" (failureLine (.notText bytes fault))
  /-- The scan of a text is printed, and lexical errors have an exit code of their own. -/
  printed : ∀ source, environment.read filename = .ok (Utf8.encode source) →
    environment.outputFull = false →
      Leaves time environment words (if Scanner.diagnostics source options = [] then 0 else 65)
        (tokenLines (Scanner.tokens source options))
        (diagnosticLines (Scanner.diagnostics source options))
  /-- A standard output that takes nothing makes a failure, told after all diagnostics. -/
  outputFull : ∀ source, environment.read filename = .ok (Utf8.encode source) →
    environment.outputFull = true →
      Leaves time environment words 1 ""
        (diagnosticLines (Scanner.diagnostics source options) ++
          failureLine (.system .storageFull))
  /-- Whether the error stream takes anything changes nothing else. -/
  errorsFull : ∀ errorsFull,
    (run { environment with errorsFull } words).exitCode = (run environment words).exitCode ∧
      (run { environment with errorsFull } words).output = (run environment words).output

section unset

variable {environment : Environment} {words : List String} {filename : String}
  {identifiers : Bool} {failure : Failure}

/-- Without a log filter, a run leaves behind its effect. -/
theorem leaves_effect (time : String) (unset : environment.logFilter = none)
    (asks : Invocation.ofWords? words = some (.tokenize filename identifiers false))
    {effect : Outcome.Effect}
    (effect_eq : Outcome.Effect.ofContents environment.outputFull { identifiers }
      (environment.read filename) = effect) :
    Leaves time environment words effect.exitCode effect.output (joinLines effect.lines) := by
  subst effect_eq
  have run_eq := effect_run (starts_of_unset unset) asks
  constructor
  · rw [← run_eq, Outcome.effect]
  · rw [← run_eq, Outcome.effect]
  · intro listening
    rw [errorText_of_unset time unset listening asks, run_eq]

/-- A run that fails leaves the line of the failure behind those of the diagnostics. -/
theorem leaves_failed (time : String) (unset : environment.logFilter = none)
    (asks : Invocation.ofWords? words = some (.tokenize filename identifiers false))
    {diagnostics : List Diagnostic}
    (effect_eq : Outcome.Effect.ofContents environment.outputFull { identifiers }
      (environment.read filename) = .failed (diagnostics.map Diagnostic.text) failure) :
    Leaves time environment words 1 "" (diagnosticLines diagnostics ++ failureLine failure) := by
  have lines_eq : joinLines (diagnostics.map Diagnostic.text ++ ["Error: " ++ failure.account]) =
      diagnosticLines diagnostics ++ failureLine failure := by
    rw [joinLines_append, joinLines_text, joinLines_cons]
    exact congrArg _ String.append_empty
  rw [← lines_eq]
  exact leaves_effect time unset asks effect_eq

/-- A run that fails before it scans anything leaves nothing but the line of the failure. -/
theorem leaves_failed_nil (time : String) (unset : environment.logFilter = none)
    (asks : Invocation.ofWords? words = some (.tokenize filename identifiers false))
    (effect_eq : Outcome.Effect.ofContents environment.outputFull { identifiers }
      (environment.read filename) = .failed [] failure) :
    Leaves time environment words 1 "" (failureLine failure) := by
  have nothing : diagnosticLines [] = "" := rfl
  rw [← String.empty_append (s := failureLine failure), ← nothing]
  exact leaves_failed time unset asks effect_eq

/--
What runs on a file leave behind.  Without a log filter and without debugging output, the exit code,
the standard output and the error stream are told by what the file holds and by the streams.
-/
theorem answersFor_run (time : String) (unset : environment.logFilter = none)
    (asks : Invocation.ofWords? words = some (.tokenize filename identifiers false)) :
    AnswersFor time environment words filename { identifiers } := by
  constructor
  case unread =>
    intro error reads
    apply leaves_failed_nil time unset asks
    rw [reads, Outcome.Effect.ofContents]
  case notText =>
    intro bytes reads notText
    obtain ⟨fault, decoded⟩ := Utf8.exists_decode_error_iff.mpr notText
    refine ⟨fault, Utf8.decode_eq_error_iff.mp decoded, ?_⟩
    apply leaves_failed_nil time unset asks
    simp only [reads, Outcome.Effect.ofContents, decoded]
  case printed =>
    intro source reads room
    have effect_eq := leaves_effect time unset asks rfl
    rw [reads, room, Outcome.Effect.ofContents_encode, Outcome.Effect.ofScan] at effect_eq
    rw [← joinLines_text]
    exact effect_eq
  case outputFull =>
    intro source reads full
    apply leaves_failed time unset asks
    rw [reads, full, Outcome.Effect.ofContents_encode, Outcome.Effect.ofScan, if_pos rfl]
  case errorsFull =>
    intro errorsFull
    have changed_starts : { environment with errorsFull }.Starts := starts_of_unset unset
    have same : (run { environment with errorsFull } words).effect =
        (run environment words).effect :=
      (effect_run changed_starts asks).trans (effect_run (starts_of_unset unset) asks).symm
    exact ⟨congrArg Outcome.Effect.exitCode same, congrArg Outcome.Effect.output same⟩

end unset

/-- An environment in which every name is that of one file, and nothing can be printed. -/
def fullOutputWith (bytes : List UInt8) : Environment :=
  { read := fun _ => .ok bytes, logFilter := none, outputFull := true, errorsFull := false }

theorem answersFor_run_fullOutput :
    Invocation.ofWords? ["tokenize", "a.lox"] = some (.tokenize "a.lox" false false) ∧
      Leaves "now" (fullOutputWith (Utf8.encode "(\"".toList)) ["tokenize", "a.lox"] 1 ""
        ("[line 1] Error: Unterminated string.\n" ++
          "Error: Os \x7b code: 28, kind: StorageFull, message: \"No space left on device\" \x7d\n")
    := by
  have asks : Invocation.ofWords? ["tokenize", "a.lox"] = some (.tokenize "a.lox" false false) := by
    decide
  refine ⟨asks, ?_⟩
  have unset : (fullOutputWith (Utf8.encode "(\"".toList)).logFilter = none := rfl
  have leaves := (answersFor_run "now" unset asks).outputFull "(\"".toList rfl rfl
  rw [Scanner.diagnostics, Scanner.items_of_take 3 (by decide +kernel)] at leaves
  exact leaves

end CommandLine
end LoxTokens
