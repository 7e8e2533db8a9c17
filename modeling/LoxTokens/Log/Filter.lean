import LoxTokens.Fields
import LoxTokens.Log
import LoxTokens.Pattern.Meaning

/-!
# Log filters

A filter is a list of directives, each of which sets the greatest verbosity for the paths that begin
with its target, and perhaps a pattern that must occur in a message.  The directive with the longest
target that begins a path decides, and of two of the same length the later one.  A path that no
directive covers is not logged.  What cannot be read in a filter is passed over, and reported.
-/

namespace LoxTokens

/-- What is logged for the paths that begin with a target. -/
structure Directive where
  /-- Beginning of the paths concerned; a directive without one concerns all paths. -/
  target : Option String
  /-- Least severe level that is logged, or nothing if none is. -/
  limit : Option Level
  deriving DecidableEq

namespace Directive

/-- Length in bytes of the target. -/
def targetSize (directive : Directive) : Nat := (directive.target.getD "").utf8ByteSize

/-- Whether a directive concerns a path. -/
def concerns (directive : Directive) (path : String) : Bool :=
  (directive.target.getD "").toList.isPrefixOf path.toList

/-- Whether a directive lets a level through. -/
def admits (directive : Directive) (level : Level) : Bool :=
  directive.limit.any fun limit => decide (level.verbosity ≤ limit.verbosity)

/-- Add a directive; it takes the place of one with the same target. -/
def insert (directive : Directive) : List Directive → List Directive
  | [] => [directive]
  | first :: others =>
      if first.target = directive.target then directive :: others
      else first :: insert directive others

/-- The directive that decides about a path. -/
def deciding? (directives : List Directive) (path : String) : Option Directive :=
  directives.foldl (fun best directive =>
    if directive.concerns path && best.all (·.targetSize ≤ directive.targetSize) then
      some directive
    else best) none

end Directive

/-- What is logged. -/
structure Filter where
  /-- The directives, in the order in which they were first given. -/
  directives : List Directive
  /-- What must occur in a message, if anything. -/
  pattern : Option Pattern
  deriving DecidableEq

namespace Filter

/-- Whether a record is logged. -/
def shows (filter : Filter) (record : Record) : Bool :=
  (Directive.deciding? filter.directives record.target.path).any (·.admits record.level) &&
    filter.pattern.all (·.occursIn record.message.toList)

/-- What cannot be read in a filter. -/
inductive Fault where
  /-- A directive, or the limit that it sets. -/
  | directive (text : String)
  /-- The whole filter, because it has more than one slash. -/
  | slashes (text : String)
  /-- The pattern. -/
  | pattern (text : List Char) (fault : Pattern.Fault)
  deriving DecidableEq

namespace Fault

/-- What is said about a fault. -/
def message : Fault → String
  | directive text => "invalid logging spec '" ++ text ++ "'"
  | slashes text => "invalid logging spec '" ++ text ++ "' (too many '/'s)"
  | pattern text fault => "invalid regex filter - " ++ fault.account text

end Fault

/-- Remove white space from both ends of a text. -/
def trim (text : List Char) : List Char :=
  ((text.dropWhile Unicode.isWhiteSpace).reverse.dropWhile Unicode.isWhiteSpace).reverse

/-- Read a limit, in any case: the name of a level, or `off` for none. -/
def readLimit? (text : List Char) : Option (Option Level) :=
  let word := String.ofList (text.map Char.toUpper)
  if word = "OFF" then some none
  else (Level.all.find? fun level => level.name == word).map some

/-- The directive that logs a target in full. -/
def inFull (target : List Char) : Directive :=
  { target := some (String.ofList target), limit := some .trace }

/-- Read a directive: a limit, a target with a limit, or a target that is logged in full. -/
def readDirective (text : List Char) : Except Fault Directive :=
  match Fields.cutAt '=' text with
  | [word] =>
      match readLimit? word with
      | some limit => .ok { target := none, limit }
      | none => .ok (inFull word)
  | [target, limit] =>
      if (trim limit).isEmpty then .ok (inFull target)
      else
        match readLimit? (trim limit) with
        | some limit => .ok { target := some (String.ofList target), limit }
        | none => .error (.directive (String.ofList (trim limit)))
  | _ => .error (.directive (String.ofList text))

/-- Read the directives of a comma-separated list, empty ones left out. -/
def readDirectives (text : List Char) : List (Except Fault Directive) :=
  (((Fields.cutAt ',' text).map trim).filter (!·.isEmpty)).map readDirective

/-- The fault that a reading came upon, if any. -/
def fault? {α : Type} : Except Fault α → Option Fault
  | .ok _ => none
  | .error fault => some fault

/-- Read the pattern of a filter. -/
def readPattern (text : List Char) : Except Fault Pattern :=
  (Pattern.read text).mapError (Fault.pattern text)

/-- Read a filter: directives, and perhaps a slash with a pattern behind it. -/
def read (text : List Char) : Filter × List Fault :=
  let gather (readings : List (Except Fault Directive)) : List Directive :=
    (readings.filterMap Except.toOption).foldl (fun all directive => directive.insert all) []
  match Fields.cutAt '/' text with
  | [directives] =>
      let readings := readDirectives directives
      ({ directives := gather readings, pattern := none }, readings.filterMap fault?)
  | [directives, pattern] =>
      let readings := readDirectives directives
      let pattern := readPattern pattern
      ({ directives := gather readings, pattern := pattern.toOption },
        readings.filterMap fault? ++ (fault? pattern).toList)
  | _ => ({ directives := [], pattern := none }, [.slashes (String.ofList text)])

/-- The directive that a request for debugging output adds. -/
def debugDirective : Directive := { target := some Target.program.path, limit := some .debug }

/-- Directives that log errors only, in place of none. -/
def orErrors (directives : List Directive) : List Directive :=
  if directives.isEmpty then [{ target := none, limit := some .error }] else directives

/-- The filter in force, from the one set for the process and a request for debugging. -/
def configure (given : Filter) (debug : Bool) : Filter :=
  { given with
    directives :=
      orErrors (if debug then debugDirective.insert given.directives else given.directives) }

end Filter
end LoxTokens
