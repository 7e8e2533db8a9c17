import LoxTokens.Transcript

/-!
# Sessions

A session works on named scanners and named collectors, whose channels can change while they are
in use, and keeps the log records that nobody has asked for yet.
-/

namespace LoxTokens

/-- One thing to do in a session. -/
inductive SessionStep where
  /-- Begin to scan a source under a name. -/
  | openSource (scanner : String) (source : List Char) (options : Options)
  /-- Pull the next item. -/
  | next (scanner : String)
  /-- Pull up to so many items. -/
  | take (scanner : String) (count : Nat)
  /-- Begin to collect diagnostics under a name. -/
  | openSink (sink : String) (settings : ChannelSettings)
  /-- Replace all settings of a channel. -/
  | adjustSink (sink : String) (settings : ChannelSettings)
  /-- Report a diagnostic. -/
  | report (sink : String) (diagnostic : Diagnostic)
  /-- Scan to the end, and give up the scanner. -/
  | drain (scanner sink : String)
  /-- Look at a collector. -/
  | inspect (sink : String)
  /-- List what was reported. -/
  | reported (sink : String)
  /-- Finish a collector, and give it up. -/
  | finish (sink : String)
  /-- Take the log records made since they were last taken. -/
  | records

/-- What a collector shows of itself. -/
structure CollectorState where
  /-- Whether anything was reported. -/
  hadError : Bool
  /-- Number of diagnostics reported. -/
  count : Nat
  /-- Bytes that the channel holds. -/
  written : List UInt8
  deriving DecidableEq

/-- The answer to one step. -/
inductive SessionAnswer where
  /-- It is done. -/
  | done
  /-- The item pulled, if there was one left. -/
  | item (item : Option Item)
  /-- The items pulled. -/
  | items (items : List Item)
  /-- A collector as it is now. -/
  | state (state : CollectorState)
  /-- A collector after a scan to the end, and the tokens of the scan. -/
  | drained (state : CollectorState) (tokens : List Token)
  /-- What was reported. -/
  | diagnostics (diagnostics : List Diagnostic)
  /-- The bytes of a channel that was finished. -/
  | finished (bytes : List UInt8)
  /-- The error with which a collector was finished. -/
  | failed (error : IoError)
  /-- Log records. -/
  | records (records : List Record)
  /-- There is no scanner of this name. -/
  | noScanner (name : String)
  /-- There is no collector of this name. -/
  | noSink (name : String)

/-- What a session holds. -/
structure Session where
  /-- Scanners in use. -/
  scanners : List (String × Scanner)
  /-- Collectors in use. -/
  sinks : List (String × Collector Channel)
  /-- Log records that were not taken yet. -/
  pending : Array Record

namespace Session

/-- A session that holds nothing. -/
def empty : Session := { scanners := [], sinks := [], pending := #[] }

/-- A list without what it holds under a name. -/
def without {α : Type} (name : String) (held : List (String × α)) : List (String × α) :=
  held.filter (·.1 != name)

/-- A list that holds one thing under a name. -/
def holding {α : Type} (name : String) (value : α) (held : List (String × α)) :
    List (String × α) :=
  (name, value) :: without name held

/-- Put a scanner into use under a name. -/
def withScanner (session : Session) (name : String) (scanner : Scanner) : Session :=
  { session with scanners := holding name scanner session.scanners }

/-- Put a collector into use under a name. -/
def withSink (session : Session) (name : String) (collector : Collector Channel) : Session :=
  { session with sinks := holding name collector session.sinks }

/-- Keep the log records among some events. -/
def withEvents (session : Session) (events : List Event) : Session :=
  { session with pending := session.pending ++ events.filterMap Event.record? }

/-- Keep the log records that pulling some items made. -/
def withItems (session : Session) (items : List Item) : Session :=
  { session with pending := session.pending ++ items.filterMap Item.record? }

/-- What a collector shows of itself. -/
def stateOf (collector : Collector Channel) : CollectorState :=
  { hadError := collector.hadError
    count := collector.reported.size
    written := Sink.contents collector.sink }

/-- Act on the scanner of a name. -/
def onScanner (session : Session) (name : String)
    (action : Scanner → Session × SessionAnswer) : Session × SessionAnswer :=
  match session.scanners.lookup name with
  | some scanner => action scanner
  | none => (session, .noScanner name)

/-- Act on the collector of a name. -/
def onSink (session : Session) (name : String)
    (action : Collector Channel → Session × SessionAnswer) : Session × SessionAnswer :=
  match session.sinks.lookup name with
  | some collector => action collector
  | none => (session, .noSink name)

/-- Do one step. -/
def step (session : Session) : SessionStep → Session × SessionAnswer
  | .openSource name source options =>
      (session.withScanner name (.ofSource source options), .done)
  | .next name =>
      session.onScanner name fun scanner =>
        match scanner.next? with
        | none => (session, .item none)
        | some (item, after) =>
            ((session.withScanner name after).withItems [item], .item (some item))
  | .take name count =>
      session.onScanner name fun scanner =>
        let (items, after) := scanner.take count
        ((session.withScanner name after).withItems items, .items items)
  | .openSink name settings =>
      let collector := Collector.ofSink (Channel.empty settings)
      (session.withSink name collector, .state (stateOf collector))
  | .adjustSink name settings =>
      session.onSink name fun collector =>
        let collector := { collector with sink := { collector.sink with settings } }
        (session.withSink name collector, .state (stateOf collector))
  | .report name diagnostic =>
      session.onSink name fun collector =>
        let (collector, events) := collector.report diagnostic
        ((session.withSink name collector).withEvents events, .state (stateOf collector))
  | .drain name sink =>
      session.onScanner name fun scanner =>
        session.onSink sink fun collector =>
          let transcript := scanner.drain collector
          let session := { session with scanners := without name session.scanners }
          ((session.withSink sink transcript.collector).withEvents transcript.events.toList,
            .drained (stateOf transcript.collector) transcript.tokens.toList)
  | .inspect name => session.onSink name fun collector => (session, .state (stateOf collector))
  | .reported name =>
      session.onSink name fun collector => (session, .diagnostics collector.reported.toList)
  | .finish name =>
      session.onSink name fun collector =>
        ({ session with sinks := without name session.sinks },
          match collector.finish with
          | .ok sink => .finished (Sink.contents sink)
          | .error error => .failed error)
  | .records => ({ session with pending := #[] }, .records session.pending.toList)

/-- Do steps in order and list their answers. -/
def run (session : Session) : List SessionStep → List SessionAnswer
  | [] => []
  | step :: steps =>
      let (session, answer) := session.step step
      answer :: session.run steps

end Session
end LoxTokens
