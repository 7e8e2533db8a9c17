import LoxTokens.Proofs.Encoding
import LoxTokens.Proofs.Printing
import LoxTokens.Proofs.ScanEvents

/-!
# Runs that print tokens

What printing the tokens of a file does besides logging is decided by the contents of the file and
by whether the standard output takes them.  Without a log filter, and with streams that take
everything, it leaves the lines of the tokens on the standard output, the lines of the diagnostics
on the error stream, and an exit code that tells whether there are diagnostics.  No record of a run
is severe enough to be shown.
-/

namespace LoxTokens

/-- An environment as it is by default: no log filter is set, and streams take everything. -/
structure Environment.IsPlain (environment : Environment) : Prop where
  /-- No log filter is set. -/
  logFilter : environment.logFilter = none
  /-- Writes to the standard output do not fail. -/
  outputFull : environment.outputFull = false
  /-- Writes to the error stream do not fail. -/
  errorsFull : environment.errorsFull = false

/-- The error stream takes the complaints about the log filter, if there are any. -/
def Environment.Starts (environment : Environment) : Prop :=
  environment.errorsFull = true → CommandLine.warnings environment = []

/-! ## Collectors over channels that never fail -/

/-- A collector over a channel without limits, none of whose writes failed so far. -/
structure Collector.Unfailing (collector : Collector Channel) : Prop where
  /-- The channel has no capacity and no errors. -/
  settings : collector.sink.settings = {}
  /-- No error is held. -/
  writeError : collector.writeError = none

theorem Channel.write_unlimited {channel : Channel} (settings : channel.settings = {})
    (bytes : List UInt8) :
    (channel.write bytes).1 = none ∧ (channel.write bytes).2.settings = {} := by
  unfold write
  split
  · exact ⟨rfl, settings⟩
  · simp [settings]

theorem Channel.writeAll_unlimited {channel : Channel} (settings : channel.settings = {})
    (pieces : List (List UInt8)) :
    (Sink.writeAll channel pieces).1 = none ∧
      (Sink.writeAll channel pieces).2.settings = {} := by
  induction pieces generalizing channel with
  | nil => exact ⟨rfl, settings⟩
  | cons piece pieces ih =>
      obtain ⟨succeeds, kept⟩ := write_unlimited settings piece
      cases written : channel.write piece with
      | mk failure after =>
          rw [written] at succeeds kept
          obtain rfl : failure = none := succeeds
          have step : Sink.writeAll channel (piece :: pieces) = Sink.writeAll after pieces := by
            rw [Sink.writeAll, show Sink.write channel piece = (none, after) from written]
          rw [step]
          exact ih kept

namespace Collector.Unfailing

variable {collector : Collector Channel}

theorem report (unfailing : collector.Unfailing) (diagnostic : Diagnostic) :
    (collector.report diagnostic).1.Unfailing := by
  obtain ⟨succeeds, kept⟩ :=
    Channel.writeAll_unlimited unfailing.settings (linePieces diagnostic)
  exact ⟨kept, by simp [Collector.report, succeeds, unfailing.writeError]⟩

theorem reportAll (unfailing : collector.Unfailing) (diagnostics : List Diagnostic) :
    (collector.reportAll diagnostics).Unfailing := by
  induction diagnostics generalizing collector with
  | nil => exact unfailing
  | cons diagnostic later ih => exact ih (unfailing.report diagnostic)

theorem finish (unfailing : collector.Unfailing) : collector.finish = .ok collector.sink := by
  have settled : collector.settle = (none, collector.sink) := by
    rw [settle_of_unfailing unfailing.writeError]
    simp [Sink.flush, unfailing.settings]
  rw [finish_eq_ok (congrArg Prod.fst settled), settled]

end Collector.Unfailing

/-- Something was reported exactly when the scan has diagnostics. -/
theorem Scanner.hadError_drain {σ : Type} [Sink σ] [LawfulSink σ] (scanner : Scanner) (sink : σ) :
    (scanner.drain (.ofSink sink)).collector.hadError = true ↔
      scanner.items.filterMap Item.diagnostic? ≠ [] := by
  have follows := (Collector.Follows.ofSink sink).reportAll
    (scanner.items.filterMap Item.diagnostic?)
  rw [Collector.collector_drain, follows.hadError, List.nil_append, Ne, Ne, ← List.map_eq_nil_iff,
    Collector.diagnostics_echoAll]

/-! ## What the error stream shows -/

namespace CommandLine

/-- The filter in force when none is set. -/
def errorsOnly : Filter :=
  { directives := [{ target := none, limit := some .error }], pattern := none }

theorem shows_errorsOnly {record : Record} (mild : record.level ≠ .error) :
    errorsOnly.shows record = false := by
  obtain ⟨level, target, message⟩ := record
  cases level with
  | error => contradiction
  | _ => cases target <;> rfl

/-- What events show on an error stream without a log filter. -/
def shown (time : String) (events : List Event) : String :=
  String.join (events.map (Outcome.eventText time errorsOnly))

theorem shown_cons (time : String) (event : Event) (events : List Event) :
    shown time (event :: events) =
      Outcome.eventText time errorsOnly event ++ shown time events := by
  rw [shown, List.map_cons, String.join_cons, shown]

/-- Lines with their newlines, one after another. -/
def joinLines (lines : List String) : String := String.join (lines.map (· ++ "\n"))

theorem joinLines_cons (line : String) (lines : List String) :
    joinLines (line :: lines) = line ++ "\n" ++ joinLines lines := by
  rw [joinLines, List.map_cons, String.join_cons, joinLines]

theorem joinLines_append (front back : List String) :
    joinLines (front ++ back) = joinLines front ++ joinLines back := by
  rw [joinLines, List.map_append, String.join_append, joinLines, joinLines]

theorem joinLines_text (diagnostics : List Diagnostic) :
    joinLines (diagnostics.map Diagnostic.text) = diagnosticLines diagnostics :=
  congrArg String.join List.map_map

/-- Of quiet events only the lines are shown. -/
theorem shown_of_quiet {events : List Event} (quiet : ∀ event ∈ events, event.IsQuiet)
    (time : String) : shown time events = joinLines (events.filterMap Event.line?) := by
  induction events with
  | nil => rfl
  | cons event events ih =>
      obtain ⟨first, later⟩ := List.forall_mem_cons.mp quiet
      rw [shown_cons, ih later]
      cases event with
      | record record =>
          rw [Outcome.eventText, shows_errorsOnly first, if_neg Bool.false_ne_true,
            String.empty_append]
          rfl
      | line text =>
          rw [Outcome.eventText, ← joinLines_cons]
          rfl
      | warning text => exact first.elim

end CommandLine

/-! ## What a run does besides logging -/

namespace Outcome

/-- What a run does besides logging. -/
structure Effect where
  /-- Exit code. -/
  exitCode : Nat
  /-- Text on the standard output. -/
  output : String
  /-- Lines sent to the error stream, in order. -/
  lines : List String

namespace Effect

/-- The effect of a run that fails after some lines. -/
def failed (lines : List String) (failure : Failure) : Effect :=
  { exitCode := failureCode, output := "", lines := lines ++ ["Error: " ++ failure.account] }

/-- The effect of printing the tokens of a text. -/
def ofScan (outputFull : Bool) (source : List Char) (options : Options) : Effect :=
  let lines := (Scanner.diagnostics source options).map Diagnostic.text
  if outputFull then failed lines (.system .storageFull)
  else
    { exitCode := if Scanner.diagnostics source options = [] then 0 else lexicalErrorCode
      output := CommandLine.tokenLines (Scanner.tokens source options)
      lines }

/-- The effect of printing the tokens of what was read. -/
def ofContents (outputFull : Bool) (options : Options) : Except OsError (List UInt8) → Effect
  | .error error => failed [] (.system error)
  | .ok bytes =>
      match Utf8.decode bytes with
      | .error fault => failed [] (.notText bytes fault)
      | .ok source => ofScan outputFull source options

theorem ofContents_encode (outputFull : Bool) (options : Options) (source : List Char) :
    ofContents outputFull options (.ok (Utf8.encode source)) =
      ofScan outputFull source options := by
  rw [ofContents, Utf8.decode_encode]

end Effect

/-- The effect of an outcome, without regard to what its log says. -/
def effect (outcome : Outcome) : Effect :=
  { exitCode := outcome.exitCode
    output := outcome.output
    lines := outcome.events.filterMap Event.line? }

theorem effect_failed (events : List Event) (failure : Failure) :
    (Outcome.failed events failure).effect =
      .failed (events.filterMap Event.line?) failure := by
  rw [effect, Outcome.failed, List.filterMap_append]
  rfl

theorem isQuiet_failed {events : List Event} (quiet : ∀ event ∈ events, event.IsQuiet)
    (failure : Failure) : ∀ event ∈ (Outcome.failed events failure).events, event.IsQuiet := by
  rw [Outcome.failed, List.forall_mem_append, List.forall_mem_singleton]
  exact ⟨quiet, trivial⟩

end Outcome

namespace CommandLine

variable {environment : Environment} {earlier : List Event} {source : List Char}

theorem exitCode_drain {σ : Type} [Sink σ] [LawfulSink σ] (sink : σ) (options : Options) :
    (if ((Scanner.ofSource source options).drain (.ofSink sink)).collector.hadError then
        Outcome.lexicalErrorCode
      else 0) =
      if Scanner.diagnostics source options = [] then 0 else Outcome.lexicalErrorCode := by
  have flag := Scanner.hadError_drain (Scanner.ofSource source options) sink
  rw [← Scanner.diagnostics] at flag
  by_cases clean : Scanner.diagnostics source options = []
  · rw [if_pos clean, if_neg]
    exact fun set => flag.mp set clean
  · rw [if_neg clean, if_pos (flag.mpr clean)]

/-- What is logged when not all diagnostics could be written. -/
def lossEvents (collector : Collector Channel) : List Event :=
  match collector.finish with
  | .error error => [.record (lossRecord error)]
  | .ok _ => []

/-- The events of printing the tokens of a text, up to the tokens. -/
def printingEvents (environment : Environment) (earlier : List Event) (source : List Char)
    (options : Options) : List Event :=
  let transcript :=
    (Scanner.ofSource source options).drain (.ofSink (errorStream environment.errorsFull))
  earlier ++ transcript.events.toList ++ lossEvents transcript.collector

theorem printTokens_eq (environment : Environment) (earlier : List Event) (source : List Char)
    (options : Options) :
    printTokens environment earlier source options =
      if environment.outputFull then
        .failed (printingEvents environment earlier source options) (.system .storageFull)
      else
        { exitCode :=
            if Scanner.diagnostics source options = [] then 0 else Outcome.lexicalErrorCode
          output := tokenLines (Scanner.tokens source options)
          events := printingEvents environment earlier source options } := by
  rw [printTokens]
  simp only [Scanner.tokens_drain, exitCode_drain]
  rfl

theorem lines_printingEvents (silent : earlier.filterMap Event.line? = []) (options : Options) :
    (printingEvents environment earlier source options).filterMap Event.line? =
      (Scanner.diagnostics source options).map Diagnostic.text := by
  have loss_silent (collector : Collector Channel) :
      (lossEvents collector).filterMap Event.line? = [] := by
    rw [lossEvents]
    cases collector.finish <;> rfl
  rw [printingEvents, List.filterMap_append, List.filterMap_append, silent, loss_silent,
    Scanner.lines_drain, List.nil_append, List.append_nil, Scanner.diagnostics]

/-- As long as the error stream takes everything, no diagnostic is lost. -/
theorem isQuiet_printingEvents (listening : environment.errorsFull = false)
    (quiet : ∀ event ∈ earlier, event.IsQuiet) (options : Options) :
    ∀ event ∈ printingEvents environment earlier source options, event.IsQuiet := by
  have unfailing : (Collector.ofSink (errorStream false)).Unfailing := ⟨rfl, rfl⟩
  have finished := (unfailing.reportAll (Scanner.diagnostics source options)).finish
  rw [Scanner.diagnostics, ← Collector.collector_drain] at finished
  simp only [printingEvents, listening, lossEvents, finished, List.append_nil]
  exact List.forall_mem_append.mpr ⟨quiet, Scanner.isQuiet_drain _ _⟩

theorem effect_printTokens (environment : Environment) (silent : earlier.filterMap Event.line? = [])
    (source : List Char) (options : Options) :
    (printTokens environment earlier source options).effect =
      .ofScan environment.outputFull source options := by
  have lines := @lines_printingEvents environment earlier source silent options
  rw [printTokens_eq, Outcome.Effect.ofScan]
  split
  · rw [Outcome.effect_failed, lines]
  · rw [Outcome.effect, lines]

theorem isQuiet_printTokens (listening : environment.errorsFull = false)
    (quiet : ∀ event ∈ earlier, event.IsQuiet) (source : List Char) (options : Options) :
    ∀ event ∈ (printTokens environment earlier source options).events, event.IsQuiet := by
  have quiet_printing := @isQuiet_printingEvents environment earlier source listening quiet options
  rw [printTokens_eq]
  split
  · exact Outcome.isQuiet_failed quiet_printing _
  · exact quiet_printing

/-- The effect of a run on a file depends on its contents and on the standard output alone. -/
theorem effect_printFile (environment : Environment) (silent : earlier.filterMap Event.line? = [])
    (filename : String) (options : Options) :
    (printFile environment earlier filename options).effect =
      .ofContents environment.outputFull options (environment.read filename) := by
  have opening :
      (earlier ++ [Event.record (openingRecord filename)]).filterMap Event.line? = [] := by
    rw [List.filterMap_append, silent]
    rfl
  unfold printFile Outcome.Effect.ofContents
  cases environment.read filename with
  | error error => simp only [Outcome.effect_failed, opening]
  | ok bytes =>
      dsimp only
      cases Utf8.decode bytes with
      | error fault => simp only [Outcome.effect_failed, opening]
      | ok source => exact effect_printTokens environment opening source options

theorem isQuiet_printFile (listening : environment.errorsFull = false)
    (quiet : ∀ event ∈ earlier, event.IsQuiet) (filename : String) (options : Options) :
    ∀ event ∈ (printFile environment earlier filename options).events, event.IsQuiet := by
  have opening : ∀ event ∈ earlier ++ [Event.record (openingRecord filename)],
      event.IsQuiet := by
    rw [List.forall_mem_append, List.forall_mem_singleton]
    exact ⟨quiet, by simp [Event.IsQuiet, openingRecord]⟩
  rw [printFile]
  split
  · exact Outcome.isQuiet_failed opening _
  · split
    · exact Outcome.isQuiet_failed opening _
    · exact isQuiet_printTokens listening opening _ options

/-! ## Runs that start -/

section start

variable {words : List String} {filename : String} {identifiers debug : Bool}

theorem run_of_starts (starts : environment.Starts)
    (asks : Invocation.ofWords? words = some (.tokenize filename identifiers debug)) :
    run environment words =
      printFile environment (warnings environment) filename { identifiers } := by
  have heard : (environment.errorsFull && !(warnings environment).isEmpty) = false := by
    cases full : environment.errorsFull with
    | false => rfl
    | true => rw [starts full]; rfl
  rw [run, asks]
  simp only [perform, tokenize, heard, if_neg Bool.false_ne_true]

/-- The effect of a run that starts does not depend on its log settings. -/
theorem effect_run (starts : environment.Starts)
    (asks : Invocation.ofWords? words = some (.tokenize filename identifiers debug)) :
    (run environment words).effect =
      .ofContents environment.outputFull { identifiers } (environment.read filename) := by
  have silent : (warnings environment).filterMap Event.line? = [] := by
    rw [warnings, List.filterMap_map]
    exact List.filterMap_eq_nil_iff.mpr fun _ _ => rfl
  rw [run_of_starts starts asks, effect_printFile environment silent]

end start

/-! ## Runs without a log filter -/

section unset

variable {words : List String} {filename : String} {identifiers : Bool}

theorem readFilter_of_unset (unset : environment.logFilter = none) :
    readFilter environment = ({ directives := [], pattern := none }, []) := by
  rw [readFilter, unset]
  decide

theorem warnings_of_unset (unset : environment.logFilter = none) : warnings environment = [] := by
  rw [warnings, readFilter_of_unset unset]
  rfl

theorem starts_of_unset (unset : environment.logFilter = none) : environment.Starts :=
  fun _ => warnings_of_unset unset

/-- Without a log filter, the error stream has the lines of a run and nothing else. -/
theorem errorText_of_unset (time : String) (unset : environment.logFilter = none)
    (listening : environment.errorsFull = false)
    (asks : Invocation.ofWords? words = some (.tokenize filename identifiers false)) :
    errorText time environment words = joinLines (run environment words).effect.lines := by
  have filter_eq : filterOf environment words = errorsOnly := by
    rw [filterOf, asks, readFilter_of_unset unset]
    rfl
  rw [errorText, listening, if_neg Bool.false_ne_true, filter_eq]
  change shown time _ = _
  rw [run_of_starts (starts_of_unset unset) asks, warnings_of_unset unset]
  exact shown_of_quiet (isQuiet_printFile listening (List.forall_mem_nil _) _ _) time

end unset

/-! ## Runs -/

/-- The command line that asks for the tokens of a file. -/
def printingWords (filename : String) (options : Options) : List String :=
  ["tokenize", filename] ++ if options.identifiers then ["--identifiers"] else []

/-- A file name that does not look like an option is one. -/
theorem ofWords?_printingWords {filename : String} (nonempty : filename ≠ "")
    (noOption : filename.toList.head? ≠ some '-') (options : Options) :
    Invocation.ofWords? (printingWords filename options) =
      some (.tokenize filename options.identifiers false) := by
  have different (word : String) (isOption : word.toList.head? = some '-') : filename ≠ word := by
    rintro rfl
    exact noOption isOption
  have taken : Invocation.Request.withWord? {} filename = some { filename := some filename } := by
    simp [Invocation.Request.withWord?, Invocation.Request.withFilename?, nonempty, noOption,
      different "--identifiers" rfl, different "--debug" rfl,
      different "-d" rfl]
  have dashes : filename ≠ "--" := different "--" rfl
  have requested : Invocation.Request.withWords? {} false
      ([filename] ++ if options.identifiers then ["--identifiers"] else []) =
        some { filename := some filename, identifiers := options.identifiers } := by
    rw [List.singleton_append, Invocation.Request.withWords?, if_neg dashes, taken]
    cases options.identifiers <;> rfl
  rw [printingWords, List.cons_append, Invocation.ofWords?, Invocation.readWords?, if_pos rfl]
  exact congrArg (Option.bind · _) requested

variable {filename : String}

/-- What printing the tokens of a source leaves behind. -/
structure PrintsScan (time : String) (environment : Environment) (words : List String)
    (source : List Char) (options : Options) : Prop where
  /-- The standard output has the lines of the tokens. -/
  output : (run environment words).output = tokenLines (Scanner.tokens source options)
  /-- The error stream has the lines of the diagnostics. -/
  errors : errorText time environment words = diagnosticLines (Scanner.diagnostics source options)
  /-- The exit code tells whether there are diagnostics. -/
  exitCode : (run environment words).exitCode =
    if Scanner.diagnostics source options = [] then 0 else Outcome.lexicalErrorCode

/-- Without a log filter and failing streams, a run prints the scan of the file. -/
theorem printsScan_run (time : String) (plain : environment.IsPlain)
    (reads : environment.read filename = .ok (Utf8.encode source)) (nonempty : filename ≠ "")
    (noOption : filename.toList.head? ≠ some '-') (options : Options) :
    PrintsScan time environment (printingWords filename options) source options := by
  have asks := ofWords?_printingWords nonempty noOption options
  have effect_eq := effect_run (starts_of_unset plain.logFilter) asks
  rw [reads, plain.outputFull, Outcome.Effect.ofContents_encode] at effect_eq
  refine ⟨congrArg Outcome.Effect.output effect_eq, ?_, congrArg Outcome.Effect.exitCode effect_eq⟩
  rw [errorText_of_unset time plain.logFilter plain.errorsFull asks, effect_eq]
  exact joinLines_text _

end CommandLine

end LoxTokens
