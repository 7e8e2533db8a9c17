/-!
# Invocations

What the words of a command line ask for.  A request for debugging output may stand once before
and once after the subcommand; what the subcommand takes is one file name and one switch.
-/

namespace LoxTokens

/-- What a well-formed command line asks for. -/
inductive Invocation where
  /-- Print the version. -/
  | version
  /-- Print the tokens of a file. -/
  | tokenize (filename : String) (identifiers debug : Bool)
  deriving DecidableEq

namespace Invocation

/-- What the words read so far say about a request for tokens. -/
structure Request where
  /-- The file name, if it was given. -/
  filename : Option String := none
  /-- Whether identifiers were asked for. -/
  identifiers : Bool := false
  /-- Whether debugging output was asked for. -/
  debug : Bool := false

namespace Request

/-- Give the file name, which must not be empty and must be given once. -/
def withFilename? (request : Request) (filename : String) : Option Request :=
  if filename.isEmpty || request.filename.isSome then none
  else some { request with filename := some filename }

/-- Ask for identifiers, once. -/
def withIdentifiers? (request : Request) : Option Request :=
  if request.identifiers then none else some { request with identifiers := true }

/-- Ask for debugging output, once. -/
def withDebug? (request : Request) : Option Request :=
  if request.debug then none else some { request with debug := true }

/-- Read one word where options are still recognised. -/
def withWord? (request : Request) (word : String) : Option Request :=
  if word = "--identifiers" then request.withIdentifiers?
  else if word = "--debug" ∨ word = "-d" then request.withDebug?
  else if word.toList.head? = some '-' ∧ word ≠ "-" then none
  else request.withFilename? word

/-- Read the words after the subcommand; a double dash ends the options. -/
def withWords? (request : Request) : (optionsEnded : Bool) → List String → Option Request
  | _, [] => some request
  | true, word :: words => (request.withFilename? word).bind (·.withWords? true words)
  | false, word :: words =>
      if word = "--" then request.withWords? true words
      else (request.withWord? word).bind (·.withWords? false words)

end Request

/-- What a cluster of one-letter options asks for. -/
inductive Cluster where
  /-- Print the version, whatever follows. -/
  | version
  /-- Go on reading, with the debugging output asked for so far. -/
  | options (debug : Bool)

/-- Read the letters of a cluster from left to right. -/
def readCluster? (debug : Bool) : List Char → Option Cluster
  | [] => some (.options debug)
  | 'V' :: _ => some .version
  | 'd' :: letters => if debug then none else readCluster? true letters
  | _ => none

/-- Read the words before the subcommand, then those after it. -/
def readWords? (debug : Bool) : List String → Option Invocation
  | [] => none
  | word :: words =>
      if word = "tokenize" then do
        let request ← Request.withWords? {} false words
        let filename ← request.filename
        some (.tokenize filename request.identifiers (debug || request.debug))
      else if word = "--version" then some .version
      else if word = "--debug" then if debug then none else readWords? true words
      else
        match word.toList with
        | '-' :: letter :: letters =>
            match readCluster? debug (letter :: letters) with
            | some .version => some .version
            | some (.options debug) => readWords? debug words
            | none => none
        | _ => none

/-- Read a command line, or refuse it. -/
def ofWords? (words : List String) : Option Invocation := readWords? false words

end Invocation
end LoxTokens
