import LoxTokens.Log.Filter
import Mathlib.Data.List.Basic

/-!
# Texts of log filters

A log filter is written as limits, and targets with limits, that commas set apart.  Such a text is
read without a fault, and its entries are gathered one after the other.
-/

namespace LoxTokens

/-- The directives that are left of entries when each takes the place of one with its target. -/
def Directive.gather (entries : List Directive) : List Directive :=
  entries.foldl (fun all entry => entry.insert all) []

/-! ## How filters are written -/

/-- How a limit is written: the name of a level, or `off`, in any case. -/
def IsLimitText (limit : Option Level) (text : List Char) : Prop :=
  text.map Char.toUpper = (limit.elim "OFF" Level.name).toList

/-- A text of nothing but white space. -/
def IsSpace (text : List Char) : Prop := ∀ character ∈ text, Unicode.isWhiteSpace character

/-- How an entry is written: a limit, or a target, an equals sign and a limit. -/
inductive IsEntryText : Directive → List Char → Prop where
  | limit {limit : Option Level} {text : List Char} :
      IsLimitText limit text → IsEntryText { target := none, limit } text
  | target {limit : Option Level} {target space text : List Char} :
      (∀ character ∈ target, character ∉ [',', '=', '/']) →
        (∀ first ∈ target.head?, ¬ Unicode.isWhiteSpace first) → IsSpace space →
          IsLimitText limit text →
            IsEntryText { target := some (String.ofList target), limit }
              (target ++ '=' :: (space ++ text))

/-- How one part of a filter is written: an entry with white space around it, or nothing. -/
inductive IsPartText : List Directive → List Char → Prop where
  | space {text : List Char} : IsSpace text → IsPartText [] text
  | entry {entry : Directive} {before text after : List Char} :
      IsSpace before → IsEntryText entry text → IsSpace after →
        IsPartText [entry] (before ++ text ++ after)

/-- How a filter is written: its entries in order, set apart by commas. -/
inductive IsFilterText : List Directive → List Char → Prop where
  | last {entries : List Directive} {text : List Char} :
      IsPartText entries text → IsFilterText entries text
  | cons {front entries : List Directive} {text rest : List Char} :
      IsPartText front text → IsFilterText entries rest →
        IsFilterText (front ++ entries) (text ++ ',' :: rest)

/-! ## Characters -/

namespace IsLimitText

variable {limit : Option Level} {text : List Char}

/-- The characters of a limit lie where the letters are. -/
theorem bounds (written : IsLimitText limit text) {character : Char} (member : character ∈ text) :
    65 ≤ character.toNat ∧ character.toNat ≤ 122 := by
  have upper : character.toUpper ∈ (limit.elim "OFF" Level.name).toList := by
    rw [← written]
    exact List.mem_map_of_mem member
  have names : (limit.elim "OFF" Level.name).toList.all
      fun letter => decide (65 ≤ letter.toNat ∧ letter.toNat ≤ 90) := by
    cases limit with
    | none => rfl
    | some level => cases level <;> rfl
  have upper_bounds := of_decide_eq_true (List.all_eq_true.mp names _ upper)
  unfold Char.toUpper at upper_bounds
  split at upper_bounds
  · rename_i lower
    have low : 97 ≤ character.toNat := lower.1
    have high : character.toNat ≤ 122 := lower.2
    omega
  · omega

theorem visible (written : IsLimitText limit text) :
    ∀ character ∈ text, ¬ Unicode.isWhiteSpace character := by
  intro character member
  have bounds := written.bounds member
  simp only [Unicode.isWhiteSpace, CodePoints.contains, CodePoints.containsCode,
    Unicode.whiteSpace, List.any_cons, List.any_nil, Bool.or_eq_true, decide_eq_true_iff,
    Bool.false_eq_true, or_false]
  omega

theorem closed (written : IsLimitText limit text) :
    ∀ character ∈ text, character ∉ [',', '=', '/'] := by
  intro character member separator
  have bounds := written.bounds member
  simp only [List.mem_cons, List.not_mem_nil, or_false] at separator
  rcases separator with rfl | rfl | rfl <;> simp at bounds

theorem ne_nil (written : IsLimitText limit text) : text ≠ [] := by
  rintro rfl
  cases limit with
  | none => exact (List.cons_ne_nil _ _ written.symm)
  | some level => cases level <;> exact List.cons_ne_nil _ _ written.symm

end IsLimitText

theorem IsSpace.closed {text : List Char} (blank : IsSpace text) :
    ∀ character ∈ text, character ∉ [',', '=', '/'] := by
  intro character member separator
  have white := blank character member
  simp only [List.mem_cons, List.not_mem_nil, or_false] at separator
  rcases separator with rfl | rfl | rfl <;> contradiction

/-- What is no separator neither ends an entry nor begins a pattern. -/
theorem ne_of_notMem_separators {character : Char} (apart : character ∉ [',', '=', '/']) :
    character ≠ ',' ∧ character ≠ '/' := by
  simp only [List.mem_cons, not_or] at apart
  exact ⟨apart.1, apart.2.2.1⟩

namespace Filter

theorem readLimit?_eq {limit : Option Level} {text : List Char}
    (written : IsLimitText limit text) : readLimit? text = some limit := by
  rw [readLimit?, written, String.ofList_toList]
  cases limit with
  | none => rfl
  | some level => cases level <;> rfl

theorem dropWhile_space {before text : List Char} (blank : IsSpace before)
    (first_visible : ∀ first ∈ text.head?, ¬ Unicode.isWhiteSpace first) :
    (before ++ text).dropWhile Unicode.isWhiteSpace = text := by
  rw [List.dropWhile_append_of_pos blank]
  cases text with
  | nil => rfl
  | cons first text => exact List.dropWhile_cons_of_neg (first_visible first rfl)

theorem trim_space {text : List Char} (blank : IsSpace text) : trim text = [] := by
  have dropped : (text ++ []).dropWhile Unicode.isWhiteSpace = [] :=
    dropWhile_space blank fun _ absent => nomatch absent
  rw [List.append_nil] at dropped
  rw [trim, dropped]
  rfl

/-- White space around a text that has none at its ends is removed, and nothing else. -/
theorem trim_eq {before text after : List Char} (nonempty : text ≠ [])
    (blank_before : IsSpace before) (blank_after : IsSpace after)
    (first_visible : ∀ first ∈ text.head?, ¬ Unicode.isWhiteSpace first)
    (last_visible : ∀ last ∈ text.getLast?, ¬ Unicode.isWhiteSpace last) :
    trim (before ++ text ++ after) = text := by
  have front : (before ++ (text ++ after)).dropWhile Unicode.isWhiteSpace = text ++ after := by
    apply dropWhile_space blank_before
    rwa [List.head?_append_of_ne_nil _ nonempty]
  have back : (after.reverse ++ text.reverse).dropWhile Unicode.isWhiteSpace = text.reverse := by
    apply dropWhile_space
    · exact fun character member => blank_after character (List.mem_reverse.mp member)
    · rwa [List.head?_reverse]
  rw [trim, List.append_assoc, front, List.reverse_append, back, List.reverse_reverse]

end Filter

/-! ## Reading -/

namespace IsEntryText

variable {entry : Directive} {text : List Char}

/-- An entry holds no separator of entries or of patterns. -/
theorem closed (written : IsEntryText entry text) :
    ∀ character ∈ text, character ≠ ',' ∧ character ≠ '/' := by
  intro character member
  cases written with
  | limit written => exact ne_of_notMem_separators (written.closed _ member)
  | target closed _ blank written =>
      simp only [List.mem_append, List.mem_cons] at member
      rcases member with member | rfl | member | member
      · exact ne_of_notMem_separators (closed _ member)
      · decide
      · exact ne_of_notMem_separators (blank.closed _ member)
      · exact ne_of_notMem_separators (written.closed _ member)

theorem ne_nil (written : IsEntryText entry text) : text ≠ [] := by
  cases written with
  | limit written => exact written.ne_nil
  | target => exact List.append_ne_nil_of_right_ne_nil _ (List.cons_ne_nil _ _)

theorem first_visible (written : IsEntryText entry text) :
    ∀ first ∈ text.head?, ¬ Unicode.isWhiteSpace first := by
  cases written with
  | limit written => exact fun first member => written.visible first (List.mem_of_head? member)
  | @target limit target space word _ visible _ _ =>
      cases target with
      | nil =>
          intro first member
          obtain rfl : '=' = first := Option.some.inj member
          decide
      | cons => exact visible

theorem last_visible (written : IsEntryText entry text) :
    ∀ last ∈ text.getLast?, ¬ Unicode.isWhiteSpace last := by
  cases written with
  | limit written => exact fun last member => written.visible last (List.mem_of_getLast? member)
  | @target limit target space word _ _ _ written =>
      rw [← List.singleton_append, ← List.append_assoc, ← List.append_assoc,
        List.getLast?_append_of_ne_nil _ written.ne_nil]
      exact fun last member => written.visible last (List.mem_of_getLast? member)

end IsEntryText

namespace Filter

/-- A text of an entry is read as that entry. -/
theorem readDirective_eq {entry : Directive} {text : List Char} (written : IsEntryText entry text) :
    readDirective text = .ok entry := by
  cases written with
  | limit written =>
      have closed : '=' ∉ text := fun member => written.closed _ member (by simp)
      rw [readDirective, Fields.cutAt_of_notMem closed]
      simp only [readLimit?_eq written]
  | @target limit target space word closed _ blank written =>
      have target_closed : '=' ∉ target := fun member => closed _ member (by simp)
      have limit_closed : '=' ∉ space ++ word := by
        rw [List.mem_append]
        rintro (member | member)
        · exact blank.closed _ member (by simp)
        · exact written.closed _ member (by simp)
      have trimmed : trim (space ++ word) = word := by
        have visible := written.visible
        have trimmed := trim_eq written.ne_nil blank (List.forall_mem_nil _)
          (fun first member => visible first (List.mem_of_head? member))
          (fun last member => visible last (List.mem_of_getLast? member))
        rwa [List.append_nil] at trimmed
      have nonempty : word.isEmpty = false := by simpa using written.ne_nil
      rw [readDirective, Fields.cutAt_append target_closed, Fields.cutAt_of_notMem limit_closed]
      simp only [trimmed, nonempty, readLimit?_eq written, Bool.false_eq_true, if_false]

end Filter

namespace IsPartText

variable {entries : List Directive} {text : List Char}

theorem closed (written : IsPartText entries text) :
    ∀ character ∈ text, character ≠ ',' ∧ character ≠ '/' := by
  have space_closed : ∀ {text : List Char}, IsSpace text →
      ∀ character ∈ text, character ≠ ',' ∧ character ≠ '/' :=
    fun blank character member => ne_of_notMem_separators (blank.closed character member)
  cases written with
  | space blank => exact space_closed blank
  | entry blank_before written blank_after =>
      simp only [List.forall_mem_append]
      exact ⟨⟨space_closed blank_before, written.closed⟩, space_closed blank_after⟩

/-- A part of a filter is read as its entry, or passed over if it has none. -/
theorem read_eq (written : IsPartText entries text) :
    (([text].map Filter.trim).filter (!·.isEmpty)).map Filter.readDirective =
      entries.map .ok := by
  cases written with
  | space blank => simp [Filter.trim_space blank]
  | entry blank_before written blank_after =>
      have trimmed := Filter.trim_eq written.ne_nil blank_before blank_after written.first_visible
        written.last_visible
      rw [List.map_singleton, trimmed]
      simp [written.ne_nil, Filter.readDirective_eq written]

end IsPartText

namespace IsFilterText

variable {entries : List Directive} {text : List Char}

theorem closed (written : IsFilterText entries text) : '/' ∉ text := by
  induction written with
  | last part => exact fun member => (part.closed _ member).2 rfl
  | cons part _ ih =>
      simp only [List.mem_append, List.mem_cons, not_or]
      exact ⟨fun member => (part.closed _ member).2 rfl, by decide, ih⟩

theorem readDirectives_eq (written : IsFilterText entries text) :
    Filter.readDirectives text = entries.map .ok := by
  induction written with
  | last part =>
      rw [Filter.readDirectives, Fields.cutAt_of_notMem fun member => (part.closed _ member).1 rfl]
      exact part.read_eq
  | cons part _ ih =>
      rw [Filter.readDirectives, Fields.cutAt_append fun member => (part.closed _ member).1 rfl,
        ← List.singleton_append, List.map_append, List.filter_append, List.map_append, part.read_eq,
        List.map_append, ← ih]
      rfl

/-- The text of a filter is read without a fault, and its entries are gathered. -/
theorem read_eq (written : IsFilterText entries text) :
    Filter.read text = ({ directives := Directive.gather entries, pattern := none }, []) := by
  have faultless : (entries.map Except.ok).filterMap Filter.fault? = [] := by
    simp [Filter.fault?]
  have all :
      (entries.map (.ok : Directive → Except Filter.Fault Directive)).filterMap Except.toOption =
        entries := by
    rw [List.filterMap_map]
    exact List.filterMap_some
  rw [Filter.read, Fields.cutAt_of_notMem written.closed]
  simp only [written.readDirectives_eq, faultless, all, Directive.gather]

end IsFilterText

end LoxTokens
