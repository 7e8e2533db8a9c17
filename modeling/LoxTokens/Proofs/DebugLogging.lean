import LoxTokens.CommandLine
import LoxTokens.Proofs.FilterTexts
import LoxTokens.Proofs.Tiling
import Mathlib.Data.List.Induction
import Mathlib.Data.List.Pairwise

/-!
# Requests for debugging output

A request for debugging output adds an entry for the whole program to the log filter.  Entries for
parts of the program are longer and decide as before.  Where there is none, the request decides.
-/

namespace LoxTokens
namespace Directive

variable {directives entries before after : List Directive} {entry other : Directive}
  {path : String}

/-! ## Gathered entries -/

/-- The targets of directives differ from one another. -/
def HaveOwnTargets (directives : List Directive) : Prop :=
  directives.Pairwise fun left right => left.target ≠ right.target

/-- A directive that is added takes the place of the one with its target. -/
theorem mem_insert (own : HaveOwnTargets directives) :
    other ∈ entry.insert directives ↔
      other = entry ∨ other ∈ directives ∧ other.target ≠ entry.target := by
  induction directives with
  | nil => simp [insert]
  | cons first directives ih =>
      obtain ⟨apart, own⟩ := List.pairwise_cons.mp own
      rw [insert]
      split
      · rename_i same
        have others : other ∈ directives → other.target ≠ entry.target :=
          fun member => same ▸ (apart other member).symm
        rw [List.mem_cons, List.mem_cons]
        constructor
        · rintro (rfl | member)
          · exact .inl rfl
          · exact .inr ⟨.inr member, others member⟩
        · rintro (rfl | ⟨rfl | member, different⟩)
          · exact .inl rfl
          · exact (different same).elim
          · exact .inr member
      · rename_i different
        rw [List.mem_cons, ih own, List.mem_cons]
        constructor
        · rintro (rfl | rfl | ⟨member, apart⟩)
          · exact .inr ⟨.inl rfl, different⟩
          · exact .inl rfl
          · exact .inr ⟨.inr member, apart⟩
        · rintro (rfl | ⟨rfl | member, apart⟩)
          · exact .inr (.inl rfl)
          · exact .inl rfl
          · exact .inr (.inr ⟨member, apart⟩)

theorem HaveOwnTargets.insert (own : HaveOwnTargets directives) (entry : Directive) :
    HaveOwnTargets (entry.insert directives) := by
  induction directives with
  | nil => exact List.pairwise_singleton _ _
  | cons first directives ih =>
      obtain ⟨apart, own⟩ := List.pairwise_cons.mp own
      rw [Directive.insert]
      split
      · rename_i same
        exact List.pairwise_cons.mpr ⟨fun other member => same ▸ apart other member, own⟩
      · rename_i different
        refine List.pairwise_cons.mpr ⟨fun other member => ?_, ih own⟩
        rcases (mem_insert own).mp member with rfl | ⟨member, -⟩
        · exact different
        · exact apart other member

theorem gather_concat (entries : List Directive) (entry : Directive) :
    gather (entries ++ [entry]) = entry.insert (gather entries) := by
  rw [gather, List.foldl_append]
  rfl

theorem haveOwnTargets_gather (entries : List Directive) : HaveOwnTargets (gather entries) := by
  induction entries using List.reverseRecOn with
  | nil => exact List.Pairwise.nil
  | append_singleton entries entry ih =>
      rw [gather_concat]
      exact ih.insert entry

/-- What is left is one of the entries. -/
theorem mem_of_mem_gather (member : entry ∈ gather entries) : entry ∈ entries := by
  induction entries using List.reverseRecOn with
  | nil => contradiction
  | append_singleton entries last ih =>
      rw [gather_concat, mem_insert (haveOwnTargets_gather entries)] at member
      rcases member with rfl | ⟨member, -⟩
      · exact List.mem_append_right entries List.mem_cons_self
      · exact List.mem_append_left _ (ih member)

/-- An entry is left if no later one has its target. -/
theorem mem_gather (apart : ∀ other ∈ after, other.target ≠ entry.target) :
    entry ∈ gather (before ++ entry :: after) := by
  induction after using List.reverseRecOn with
  | nil =>
      rw [gather_concat, mem_insert (haveOwnTargets_gather before)]
      exact .inl rfl
  | append_singleton after last ih =>
      obtain ⟨apart, last_apart⟩ := List.forall_mem_append.mp apart
      rw [← List.cons_append, ← List.append_assoc, gather_concat,
        mem_insert (haveOwnTargets_gather _)]
      exact .inr ⟨ih apart, (last_apart last List.mem_cons_self).symm⟩

/-- Directives that are left and have the same target are the same. -/
theorem eq_of_mem_gather (member : entry ∈ gather entries) (other_member : other ∈ gather entries)
    (same : other.target = entry.target) : other = entry := by
  have symmetric : Std.Symm fun left right : Directive => left.target ≠ right.target :=
    ⟨fun _ _ apart => apart.symm⟩
  by_contra different
  exact (haveOwnTargets_gather entries).forall other_member member different same

/-! ## The longest target -/

theorem concerns_iff : entry.concerns path ↔ (entry.target.getD "").toList <+: path.toList :=
  List.isPrefixOf_iff_prefix

/-- Two beginnings of a text that have the same size are the same. -/
theorem eq_of_prefix {left right text : List Char} (left_begins : left <+: text)
    (right_begins : right <+: text) (same_size : byteSize left = byteSize right) :
    left = right := by
  have eq_of_shorter : ∀ {shorter longer : List Char}, byteSize shorter = byteSize longer →
      shorter <+: longer → shorter = longer := by
    rintro shorter _ same_size ⟨rest, rfl⟩
    rw [byteSize_append] at same_size
    have empty : rest = [] := by
      by_contra nonempty
      have positive := byteSize_pos nonempty
      omega
    rw [empty, List.append_nil]
  rcases List.prefix_or_prefix_of_prefix left_begins right_begins with shorter | shorter
  · exact eq_of_shorter same_size shorter
  · exact (eq_of_shorter same_size.symm shorter).symm

/-- A directive without a target has nothing to compare by length. -/
theorem target_eq_some (nonempty : 0 < entry.targetSize) :
    entry.target = some (entry.target.getD "") := by
  cases target : entry.target with
  | none => simp [targetSize, target] at nonempty
  | some target => rfl

/-- Targets of one length that begin the same path are the same, unless they are empty. -/
theorem target_eq (concerns : entry.concerns path) (other_concerns : other.concerns path)
    (same_size : other.targetSize = entry.targetSize) (nonempty : 0 < entry.targetSize) :
    other.target = entry.target := by
  have same_text : other.target.getD "" = entry.target.getD "" := by
    rw [← String.toList_inj]
    apply eq_of_prefix (concerns_iff.mp other_concerns) (concerns_iff.mp concerns)
    rwa [byteSize, byteSize, String.ofList_toList, String.ofList_toList]
  rw [target_eq_some nonempty, target_eq_some (same_size ▸ nonempty), same_text]

/-- Whether a directive is the other one or has a shorter target. -/
def YieldsTo (entry other : Directive) : Prop :=
  entry = other ∨ entry.targetSize < other.targetSize

/-- The better of the best directive so far and the next one. -/
def better (path : String) (best : Option Directive) (next : Directive) : Option Directive :=
  if next.concerns path && best.all (·.targetSize ≤ next.targetSize) then some next else best

/-- Either way it is one of the two. -/
theorem better_eq_or (path : String) (best : Option Directive) (next : Directive) :
    next.concerns path ∧ better path best next = some next ∨ better path best next = best := by
  rw [better]
  split
  · rename_i test
    exact .inl ⟨((Bool.and_eq_true _ _).mp test).1, rfl⟩
  · exact .inr rfl

/-- A directive whose target is longer than that of the best so far is better. -/
theorem better_self (concerns : entry.concerns path) {best : Option Directive}
    (longest : ∀ other ∈ best, other.YieldsTo entry) :
    better path best entry = some entry := by
  have longest : best.all (·.targetSize ≤ entry.targetSize) := by
    cases best with
    | none => rfl
    | some best =>
        rcases longest best rfl with rfl | shorter
        · exact decide_eq_true (Nat.le_refl _)
        · exact decide_eq_true shorter.le
  rw [better, concerns, longest]
  rfl

theorem better_of_shorter (shorter : other.concerns path → other.targetSize < entry.targetSize) :
    better path (some entry) other = some entry := by
  rw [better, if_neg]
  intro test
  obtain ⟨concerns, longer⟩ := (Bool.and_eq_true _ _).mp test
  have longer : entry.targetSize ≤ other.targetSize := of_decide_eq_true longer
  exact Nat.lt_irrefl _ (longer.trans_lt (shorter concerns))

/-- The directive with the longest target decides, if it is yet to come or the best so far. -/
theorem foldl_better (concerns : entry.concerns path) {best : Option Directive}
    (longest : ∀ other ∈ directives, other.concerns path → other.YieldsTo entry)
    (longest_so_far : ∀ other ∈ best, other.YieldsTo entry)
    (present : entry ∈ directives ∨ best = some entry) :
    directives.foldl (better path) best = some entry := by
  induction directives generalizing best with
  | nil => exact present.resolve_left List.not_mem_nil
  | cons first directives ih =>
      obtain ⟨first_longest, longest⟩ := List.forall_mem_cons.mp longest
      apply ih longest
      · rcases better_eq_or path best first with ⟨first_concerns, new⟩ | new
        · rw [new]
          rintro other ⟨⟩
          exact first_longest first_concerns
        · rwa [new]
      · rcases present with member | rfl
        · rcases List.mem_cons.mp member with rfl | member
          · exact .inr (better_self concerns longest_so_far)
          · exact .inl member
        · by_cases same : first = entry
          · exact .inr (same ▸ better_self (same ▸ concerns) (same ▸ longest_so_far))
          · exact .inr (better_of_shorter fun first_concerns =>
              (first_longest first_concerns).resolve_left same)

/--
An entry whose target is the longest that begins a path decides about it, if no later entry has the
same target.
-/
theorem deciding?_gather (concerns : entry.concerns path) (nonempty : 0 < entry.targetSize)
    (longest_before : ∀ other ∈ before, other.concerns path →
      other.targetSize ≤ entry.targetSize)
    (longest_after : ∀ other ∈ after, other.concerns path →
      other.targetSize < entry.targetSize) :
    deciding? (gather (before ++ entry :: after)) path = some entry := by
  have member : entry ∈ gather (before ++ entry :: after) := by
    apply mem_gather
    intro other other_member same
    have other_concerns : other.concerns path := by
      rwa [concerns_iff, same, ← concerns_iff]
    have shorter := longest_after other other_member other_concerns
    rw [targetSize, same] at shorter
    exact Nat.lt_irrefl _ shorter
  apply foldl_better concerns ?_ (fun _ absent => by cases absent) (.inl member)
  intro other other_member other_concerns
  have le : other.targetSize ≤ entry.targetSize := by
    rcases List.mem_append.mp (mem_of_mem_gather other_member) with earlier | later
    · exact longest_before other earlier other_concerns
    · rcases List.mem_cons.mp later with rfl | later
      · exact Nat.le_refl _
      · exact (longest_after other later other_concerns).le
  rcases le.eq_or_lt with same_size | shorter
  · have same := target_eq concerns other_concerns same_size nonempty
    exact .inl (eq_of_mem_gather member other_member same)
  · exact .inr shorter

theorem deciding?_orErrors (decides : deciding? directives path = some entry) :
    deciding? (Filter.orErrors directives) path = some entry := by
  cases directives with
  | nil => contradiction
  | cons => exact decides

/-! ## Entries for parts of the program -/

/-- Length in bytes of the target for the whole program. -/
def programSize : Nat := Target.program.path.utf8ByteSize

/-- An entry is specific to a path if its target begins it and goes beyond the whole program. -/
def IsSpecific (entry : Directive) (path : String) : Prop :=
  ∃ target, entry.target = some target ∧ target.toList <+: path.toList ∧
    programSize < target.utf8ByteSize

/-- An entry with the longest target of all that are specific to a path, and the last of these. -/
structure IsLongest (entry : Directive) (path : String) (before after : List Directive) : Prop where
  /-- It is specific itself. -/
  specific : entry.IsSpecific path
  /-- No earlier one is longer. -/
  before : ∀ other ∈ before, other.IsSpecific path → other.targetSize ≤ entry.targetSize
  /-- Every later one is shorter. -/
  after : ∀ other ∈ after, other.IsSpecific path → other.targetSize < entry.targetSize

theorem isSpecific_iff :
    entry.IsSpecific path ↔ entry.concerns path ∧ programSize < entry.targetSize := by
  rw [concerns_iff]
  constructor
  · rintro ⟨target, target_eq, begins, longer⟩
    rw [targetSize, target_eq]
    exact ⟨begins, longer⟩
  · rintro ⟨begins, longer⟩
    exact ⟨entry.target.getD "", target_eq_some (Nat.zero_lt_of_lt longer), begins, longer⟩

theorem size_le (concerns : entry.concerns path) (general : ¬ entry.IsSpecific path) :
    entry.targetSize ≤ programSize :=
  Nat.le_of_not_lt fun longer => general (isSpecific_iff.mpr ⟨concerns, longer⟩)

/-- Of all entries that are specific to a path, one is the longest. -/
theorem exists_isLongest (specific : ∃ entry ∈ entries, entry.IsSpecific path) :
    ∃ before entry after,
      entries = before ++ entry :: after ∧ entry.IsLongest path before after := by
  induction entries with
  | nil => obtain ⟨_, member, _⟩ := specific; contradiction
  | cons first entries ih =>
      by_cases later : ∃ entry ∈ entries, entry.IsSpecific path
      · obtain ⟨before, entry, after, rfl, longest⟩ := ih later
        by_cases beaten : first.IsSpecific path ∧ entry.targetSize < first.targetSize
        · -- The first one is longer than the longest of the others.
          refine ⟨[], first, before ++ entry :: after, rfl, beaten.1, List.forall_mem_nil _, ?_⟩
          intro other member other_specific
          apply lt_of_le_of_lt _ beaten.2
          simp only [List.mem_append, List.mem_cons] at member
          rcases member with member | rfl | member
          · exact longest.before other member other_specific
          · exact le_rfl
          · exact (longest.after other member other_specific).le
        · refine ⟨first :: before, entry, after, rfl, longest.specific, ?_, longest.after⟩
          rw [List.forall_mem_cons]
          exact ⟨fun first_specific => Nat.le_of_not_lt fun longer =>
            beaten ⟨first_specific, longer⟩, longest.before⟩
      · obtain ⟨entry, member, entry_specific⟩ := specific
        rcases List.mem_cons.mp member with rfl | member
        · exact ⟨[], entry, entries, rfl, entry_specific, List.forall_mem_nil _,
            fun other member other_specific => (later ⟨other, member, other_specific⟩).elim⟩
        · exact (later ⟨entry, member, entry_specific⟩).elim

/-- The longest entry decides. -/
theorem IsLongest.deciding? (longest : entry.IsLongest path before after) :
    deciding? (Filter.orErrors (gather (before ++ entry :: after))) path = some entry := by
  obtain ⟨concerns, longer⟩ := isSpecific_iff.mp longest.specific
  apply deciding?_orErrors
  apply deciding?_gather concerns (Nat.zero_lt_of_lt longer)
  · intro other member other_concerns
    by_cases other_specific : other.IsSpecific path
    · exact longest.before other member other_specific
    · exact (size_le other_concerns other_specific).trans longer.le
  · intro other member other_concerns
    by_cases other_specific : other.IsSpecific path
    · exact longest.after other member other_specific
    · exact (size_le other_concerns other_specific).trans_lt longer

/-- An entry for the whole program is not specific to anything. -/
theorem not_isSpecific_debugDirective (path : String) :
    ¬ Filter.debugDirective.IsSpecific path :=
  fun specific => Nat.lt_irrefl _ (isSpecific_iff.mp specific).2

theorem IsLongest.append {added : List Directive} (longest : entry.IsLongest path before after)
    (general : ∀ other ∈ added, ¬ other.IsSpecific path) :
    entry.IsLongest path before (after ++ added) where
  specific := longest.specific
  before := longest.before
  after := List.forall_mem_append.mpr ⟨longest.after,
    fun other member specific => (general other member specific).elim⟩

/-- Every part of the program belongs to it. -/
theorem concerns_debugDirective (target : Target) :
    Filter.debugDirective.concerns target.path := by
  cases target <;> decide

theorem admits_debugDirective (level : Level) :
    Filter.debugDirective.admits level ↔ level ∈ [.error, .warn, .info, .debug] := by
  cases level <;> decide

end Directive

/-! ## The request -/

namespace Filter

open Directive

variable {entries : List Directive}

/-- The filter of entries, with a request for debugging output or without. -/
def ofEntries (entries : List Directive) : Filter :=
  { directives := orErrors (gather entries), pattern := none }

/-- A request for debugging output adds one entry at the end. -/
theorem configure_eq (entries : List Directive) (debug : Bool) :
    configure { directives := gather entries, pattern := none } debug =
      ofEntries (entries ++ if debug then [debugDirective] else []) := by
  cases debug with
  | false =>
      rw [if_neg Bool.false_ne_true, List.append_nil]
      rfl
  | true =>
      rw [if_pos rfl, ofEntries, gather_concat]
      rfl

/-- The entry that decides about a record shows it or not. -/
theorem shows_ofEntries {entry : Directive} {record : Record}
    (decides : deciding? (orErrors (gather entries)) record.target.path = some entry) :
    (ofEntries entries).shows record = entry.admits record.level := by
  rw [shows, ofEntries, decides]
  exact Bool.and_true _

end Filter

/-- What a request for debugging output does for a record under the entries of a filter. -/
structure DebugEffect (entries : List Directive) (record : Record) (plain debugging : Filter) :
    Prop where
  /-- If entries are specific, the longest of them decides, whether there is a request or not. -/
  specific : (∃ entry ∈ entries, entry.IsSpecific record.target.path) →
    ∃ before entry after, entries = before ++ entry :: after ∧
      entry.IsLongest record.target.path before after ∧
        plain.shows record = entry.admits record.level ∧ debugging.shows record = plain.shows record
  /-- If no entry is, the request decides. -/
  general : (∀ entry ∈ entries, ¬ entry.IsSpecific record.target.path) →
    (debugging.shows record ↔ record.level ∈ [.error, .warn, .info, .debug])

namespace CommandLine

open Directive LoxTokens.Filter

section request

variable {environment : Environment} {words plainWords debugWords : List String}
  {filename plainName debugName : String}
  {identifiers debug plainIdentifiers debugIdentifiers : Bool} {entries : List Directive}

/-- The filter in force has the entries of the filter for the process and of the request. -/
theorem filterOf_eq (written : IsFilterText entries (environment.logFilter.getD "").toList)
    (asks : Invocation.ofWords? words = some (.tokenize filename identifiers debug)) :
    filterOf environment words =
      ofEntries (entries ++ if debug then [debugDirective] else []) := by
  rw [← configure_eq, filterOf, asks]
  simp only [readFilter, written.read_eq]

/--
A request for debugging output is overruled by the entries for parts of the program, and overrules
all others.
-/
theorem debugEffect_filterOf (record : Record)
    (written : IsFilterText entries (environment.logFilter.getD "").toList)
    (plain_asks :
      Invocation.ofWords? plainWords = some (.tokenize plainName plainIdentifiers false))
    (debug_asks :
      Invocation.ofWords? debugWords = some (.tokenize debugName debugIdentifiers true)) :
    DebugEffect entries record (filterOf environment plainWords)
      (filterOf environment debugWords) := by
  rw [filterOf_eq written plain_asks, filterOf_eq written debug_asks]
  constructor
  case specific =>
    intro specific
    obtain ⟨before, entry, after, rfl, longest⟩ := exists_isLongest specific
    have shown (added : List Directive)
        (general : ∀ other ∈ added, ¬ other.IsSpecific record.target.path) :
        (ofEntries (before ++ entry :: after ++ added)).shows record =
          entry.admits record.level := by
      rw [List.append_assoc, List.cons_append]
      exact shows_ofEntries (longest.append general).deciding?
    have plain := shown [] (List.forall_mem_nil _)
    have debugging := shown [debugDirective]
      (List.forall_mem_singleton.mpr (not_isSpecific_debugDirective _))
    exact ⟨before, entry, after, rfl, longest, plain, debugging.trans plain.symm⟩
  case general =>
    intro general
    have decides : deciding? (orErrors (gather (entries ++ [debugDirective])))
        record.target.path = some debugDirective := by
      apply deciding?_orErrors
      apply deciding?_gather (concerns_debugDirective record.target) (by decide)
      · exact fun other member concerns => size_le concerns (general other member)
      · exact List.forall_mem_nil _
    rw [if_pos rfl, shows_ofEntries decides]
    exact admits_debugDirective record.level

end request

/-- An environment in which scanning is to be logged in full, and the rest of the program not. -/
def tracingScanner : Environment where
  read := fun _ => .ok []
  logFilter := some "loxscan=off, loxscan::lexer=Trace"
  outputFull := false
  errorsFull := false

theorem debugEffect_tracingScanner :
    IsFilterText [{ target := some "loxscan", limit := none },
        { target := some "loxscan::lexer", limit := some .trace }]
      (tracingScanner.logFilter.getD "").toList ∧
      DebugEffect [{ target := some "loxscan", limit := none },
          { target := some "loxscan::lexer", limit := some .trace }]
        (openingRecord "a.lox") (filterOf tracingScanner ["tokenize", "a.lox"])
        (filterOf tracingScanner ["-d", "tokenize", "a.lox"]) := by
  have nothing : IsSpace [] := List.forall_mem_nil _
  have front : IsPartText [{ target := some "loxscan", limit := none }] "loxscan=off".toList := by
    refine @IsPartText.entry _ [] "loxscan=off".toList [] nothing ?_ nothing
    exact @IsEntryText.target none "loxscan".toList [] "off".toList (by simp)
      (by rintro _ ⟨⟩; decide) nothing rfl
  have back : IsPartText [{ target := some "loxscan::lexer", limit := some .trace }]
      " loxscan::lexer=Trace".toList := by
    refine @IsPartText.entry _ [' '] "loxscan::lexer=Trace".toList []
      (List.forall_mem_singleton.mpr rfl) ?_ nothing
    exact @IsEntryText.target (some .trace) "loxscan::lexer".toList [] "Trace".toList (by simp)
      (by rintro _ ⟨⟩; decide) nothing rfl
  have plain_asks : Invocation.ofWords? ["tokenize", "a.lox"] =
      some (.tokenize "a.lox" false false) := by
    decide
  have debug_asks : Invocation.ofWords? ["-d", "tokenize", "a.lox"] =
      some (.tokenize "a.lox" false true) := by
    decide
  have written := IsFilterText.cons front (.last back)
  exact ⟨written, debugEffect_filterOf (openingRecord "a.lox") written plain_asks debug_asks⟩

end CommandLine
end LoxTokens
