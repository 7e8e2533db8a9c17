import LoxTokens.Fixture.Suite
import LoxTokens.Proofs.PrintedRuns

/-!
# Working trees

The path of a fixture leads to that fixture, whatever else is in the working directory.  A run of
the program depends on nothing but the file that its command line names, so that what it does for a
fixture does not depend on the others.
-/

namespace LoxTokens

/-! ## Listings of a directory -/

/-- A text that can be the name of something in a directory. -/
structure IsFileName (name : String) : Prop where
  /-- It does not lead further down. -/
  closed : '/' ∉ name.toList
  /-- It is not empty. -/
  nonempty : name ≠ ""
  /-- It does not name the directory itself. -/
  not_here : name ≠ "."
  /-- It does not name the directory above. -/
  not_above : name ≠ ".."

/-- What a directory can hold: things with names of their own. -/
structure IsListing (fixtures : List Fixture) : Prop where
  /-- All names are names of files. -/
  named : ∀ fixture ∈ fixtures, IsFileName fixture.name
  /-- No name is given twice. -/
  distinct : ∀ left ∈ fixtures, ∀ right ∈ fixtures, left.name = right.name → left = right

/-- What is alone in a directory. -/
theorem IsListing.alone {fixtures : List Fixture} (listing : IsListing fixtures) {fixture : Fixture}
    (member : fixture ∈ fixtures) : IsListing [fixture] := by
  have only {other : Fixture} (other_member : other ∈ [fixture]) : other ∈ fixtures :=
    List.mem_singleton.mp other_member ▸ member
  exact ⟨fun other other_member => listing.named other (only other_member),
    fun left left_member right right_member =>
      listing.distinct left (only left_member) right (only right_member)⟩

namespace Suite

variable {fixtures : List Fixture} {fixture : Fixture}

/-- The names that lead to a fixture. -/
def place (fixture : Fixture) : List (List Char) := ["test".toList, fixture.name.toList]

theorem entries_workingTree (listing : IsListing fixtures) :
    (workingTree fixtures).entries = fixtures.map fun fixture => (place fixture, fixture.node) := by
  rw [workingTree, FileTree.ofPaths, List.map_map]
  apply List.map_congr_left
  intro fixture member
  have names : Fields.cutAt '/' ("test/" ++ fixture.name).toList = place fixture := by
    rw [String.toList_append, show "test/".toList = "test".toList ++ '/' :: [] from rfl,
      List.append_assoc, List.cons_append, List.nil_append, Fields.cutAt_append (by decide),
      Fields.cutAt_of_notMem (listing.named fixture member).closed]
    rfl
  simp only [Function.comp_apply, names]

theorem place_injective {left right : Fixture} (places : place left = place right) :
    left.name = right.name := by
  obtain ⟨-, names⟩ := List.cons.inj places
  exact String.toList_injective (List.cons.inj names).1

/-- The place of a fixture leads to it. -/
theorem find?_place (listing : IsListing fixtures) (member : fixture ∈ fixtures) :
    (workingTree fixtures).find? (place fixture) = some fixture.node := by
  have found : (workingTree fixtures).entries.find? (fun entry => entry.1 == place fixture) =
      some (place fixture, fixture.node) := by
    rw [entries_workingTree listing]
    cases found : (fixtures.map fun other => (place other, other.node)).find?
        (fun entry => entry.1 == place fixture) with
    | none =>
        have absent := List.find?_eq_none.mp found _ (List.mem_map_of_mem member)
        exact (absent (beq_self_eq_true _)).elim
    | some entry =>
        obtain ⟨other, other_member, rfl⟩ := List.mem_map.mp (List.mem_of_find?_eq_some found)
        have places := List.find?_some found
        rw [listing.distinct other other_member fixture member
          (place_injective (eq_of_beq places))]
  rw [FileTree.find?, found]

/-- The directory of the fixtures is one. -/
theorem find?_directory (listing : IsListing fixtures) (member : fixture ∈ fixtures) :
    (workingTree fixtures).find? ["test".toList] = some .directory := by
  have absent : (workingTree fixtures).entries.find? (fun entry => entry.1 == ["test".toList]) =
      none := by
    rw [entries_workingTree listing, List.find?_eq_none, List.forall_mem_map]
    intro other _
    simp [place]
  have above : (workingTree fixtures).entries.any
      (fun entry => ["test".toList].isPrefixOf entry.1) = true := by
    rw [entries_workingTree listing, List.any_eq_true]
    exact ⟨_, List.mem_map_of_mem member, by simp [place]⟩
  rw [FileTree.find?, absent]
  simp only [above, Bool.or_true, if_true]

/-- Followed from the working directory, the path of a fixture leads to it. -/
theorem walk_place (listing : IsListing fixtures) (member : fixture ∈ fixtures) :
    (workingTree fixtures).walk (some []) (['.'] :: place fixture) =
      if FileTree.nameLimit < fixture.name.utf8ByteSize then .error .nameTooLong
      else .ok fixture.node := by
  have directory := find?_directory listing member
  have found := find?_place listing member
  obtain ⟨-, nonempty, not_here, not_above⟩ := listing.named fixture member
  have goes_down : ¬ (fixture.name.toList = [] ∨ fixture.name.toList = ['.']) := by
    rintro (empty | here)
    · exact nonempty (String.toList_injective empty)
    · exact not_here (String.toList_injective here)
  have stays_below : ¬ fixture.name.toList = ['.', '.'] :=
    fun above => not_above (String.toList_injective above)
  rw [place] at found ⊢
  -- The dot stays in the working directory, and the two names behind it go down one step each.
  rw [FileTree.walk, if_pos (.inr rfl), FileTree.walk, if_neg (by decide), if_neg (by decide),
    if_neg (by decide)]
  simp only [List.nil_append, directory]
  rw [FileTree.walk, if_neg goes_down, if_neg stays_below, String.ofList_toList]
  simp only [List.singleton_append, found]
  cases fixture.node <;> rfl

theorem cutAt_path {name : String} (closed : '/' ∉ name.toList) :
    Fields.cutAt '/' ("./test/" ++ name).toList = [['.'], "test".toList, name.toList] := by
  have path_eq : ("./test/" ++ name).toList =
      ['.'] ++ '/' :: ("test".toList ++ '/' :: name.toList) :=
    String.toList_append
  rw [path_eq, Fields.cutAt_append (by decide), Fields.cutAt_append (by decide),
    Fields.cutAt_of_notMem closed]

/-- What the path of a fixture gives does not depend on what else is in the directory. -/
theorem read_workingTree (listing : IsListing fixtures) (member : fixture ∈ fixtures) :
    (workingTree fixtures).read ("./test/" ++ fixture.name) =
      (workingTree [fixture]).read ("./test/" ++ fixture.name) := by
  have walks : (workingTree fixtures).walk (some []) (['.'] :: place fixture) =
      (workingTree [fixture]).walk (some []) (['.'] :: place fixture) := by
    rw [walk_place listing member,
      walk_place (listing.alone member) (List.mem_singleton_self fixture)]
  rw [FileTree.read, FileTree.read, cutAt_path (listing.named fixture member).closed]
  rw [place] at walks
  simp only [List.head?_cons, Option.some.injEq, List.cons_ne_nil, if_false, walks]

end Suite

/-! ## What a run reads -/

section reading

variable {environment : Environment} {words : List String}
  {read : String → Except OsError (List UInt8)}

/-- A run reads no file but the one that its command line names. -/
theorem CommandLine.run_read (same : ∀ filename identifiers debug,
    Invocation.ofWords? words = some (.tokenize filename identifiers debug) →
      environment.read filename = read filename) :
    run environment words = run { environment with read } words := by
  rw [run, run]
  cases asks : Invocation.ofWords? words with
  | none => rfl
  | some invocation =>
      cases invocation with
      | version => rfl
      | tokenize filename identifiers debug =>
          have read_eq := same filename identifiers debug asks
          simp only [perform, tokenize, printFile, read_eq]
          rfl

theorem Program.printer_read (time : String) (same : ∀ filename identifiers debug,
    Invocation.ofWords? words = some (.tokenize filename identifiers debug) →
      environment.read filename = read filename) :
    printer time environment words = printer time { environment with read } words := by
  have run_eq := CommandLine.run_read same
  have errors_eq : CommandLine.errorText time environment words =
      CommandLine.errorText time { environment with read } words := by
    rw [CommandLine.errorText, CommandLine.errorText, run_eq]
    rfl
  rw [printer, printer, run_eq, errors_eq]

end reading

namespace Suite

variable {fixtures : List Fixture} {fixture : Fixture}

/-- The program that prints tokens, run in the working directory with the fixtures. -/
def installed (time : String) (logFilter : Option String) (fixtures : List Fixture) : Program :=
  .printer time
    { read := (workingTree fixtures).read, logFilter, outputFull := false, errorsFull := false }

/-- What the program does with a fixture does not depend on the other fixtures. -/
theorem installed_fixture (time : String) (logFilter : Option String)
    (listing : IsListing fixtures) (member : fixture ∈ fixtures) (contents : List Char) :
    installed time logFilter fixtures (Step.fixtureWords fixture.name contents) =
      installed time logFilter [fixture] (Step.fixtureWords fixture.name contents) := by
  have nonempty : "./test/" ++ fixture.name ≠ "" := by simp
  have noOption : ("./test/" ++ fixture.name).toList.head? ≠ some '-' := by simp
  have asks := CommandLine.ofWords?_printingWords nonempty noOption
    { identifiers := Step.identifiersFlag.isPrefixOf contents }
  apply Program.printer_read
  intro filename identifiers debug asks_also
  obtain ⟨rfl, -, -⟩ := Invocation.tokenize.inj (Option.some.inj (asks.symm.trans asks_also))
  exact read_workingTree listing member

/-- What the program does with a command line that it refuses does not depend on any fixture. -/
theorem installed_refusal (time : String) (logFilter : Option String) (fixtures : List Fixture)
    {words : List String} (refused : Invocation.ofWords? words = none) :
    installed time logFilter fixtures words = installed time logFilter [] words := by
  apply Program.printer_read
  intro filename identifiers debug asks
  rw [refused] at asks
  contradiction

end Suite

end LoxTokens
