import NewApi.Common.Text

/-! # Streams of the upstream -/

namespace NewApi.Relay
open Common

inductive ScannedLine where
  | skipped
  | payload (data : String)
  | done

/-- What the scanner makes of a line. Both forms that pass the filter lose five characters. -/
def scanLine (line : String) : ScannedLine :=
  if line.utf8ByteSize < 6 then .skipped
  else if hasPrefix line "data:" = false ∧ hasPrefix line "[DONE]" = false then .skipped
  else
    let data := trimSpace (String.ofList (line.toList.drop 5))
    if data = "" then .skipped else if hasPrefix data "[DONE]" then .done else .payload data

def scanLines : List String → List String
  | [] => []
  | line :: lines =>
    match scanLine line with
    | .skipped => scanLines lines
    | .payload data => data :: scanLines lines
    | .done => []

/-- A goroutine that returns closes `dataChan`, if it is the scanner, and then `stopChan`. -/
inductive ScannerStage where
  | scanning
  | sending (data : String)
  | leaving
  | stopping
  | ended
deriving DecidableEq

inductive HandlerStage where
  | waiting
  | handling (data : String)
  | stopping
  | ended
deriving DecidableEq

inductive MainStage where
  | selecting | cleaning | waiting | returned
deriving DecidableEq

/-- `lines` are not yet read, `handled` the payloads that `dataHandler` was called with, `stopped`
if `stopChan` is closed and `cancelled` if the context is done. -/
structure StreamRun where
  lines : List String
  pinging : Bool
  dataChan : List String := []
  (closed stopped cancelled : Bool := false)
  scanner : ScannerStage := .scanning
  handler : HandlerStage := .waiting
  main : MainStage := .selecting
  handled : List String := []

/-- `failed` if the body cannot be read or the scanner panics; `gives` if the select of the scanner
takes a channel that is closed. -/
inductive StreamEvent where
  | scanner (failed gives : Bool)
  | handler (proceeds : Bool)
  | ping (panics : Bool)
  | main (interrupted : Bool)

namespace StreamRun
variable (run : StreamRun)

def scannerStep (failed gives : Bool) : StreamRun :=
  match run.scanner with
  | .scanning =>
    match failed, run.lines with
    | true, _ => { run with scanner := .leaving }
    | _, [] => { run with scanner := .leaving }
    | false, line :: lines =>
      if run.stopped ∨ run.cancelled then { run with lines := lines, scanner := .leaving }
      else
        match scanLine line with
        | .skipped => { run with lines := lines }
        | .payload data => { run with lines := lines, scanner := .sending data }
        | .done => { run with lines := lines, scanner := .leaving }
  | .sending data =>
    if gives ∧ (run.stopped ∨ run.cancelled) then { run with scanner := .leaving }
    else if run.dataChan.length < 10 then { run with dataChan := run.dataChan ++ [data], scanner := .scanning }
    else run
  | .leaving => { run with closed := true, scanner := .stopping }
  | .stopping => { run with stopped := true, scanner := .ended }
  | .ended => run

def handlerStep (proceeds : Bool) : StreamRun :=
  match run.handler with
  | .waiting =>
    match run.dataChan with
    | data :: rest => { run with dataChan := rest, handled := run.handled ++ [data], handler := .handling data }
    | [] => if run.closed then { run with handler := .stopping } else run
  | .handling _ => { run with handler := if proceeds then .waiting else .stopping }
  | .stopping => { run with stopped := true, handler := .ended }
  | .ended => run

def pingStep (panics : Bool) : StreamRun :=
  if run.pinging then { run with pinging := false, stopped := run.stopped || panics } else run

def mainStep (interrupted : Bool) : StreamRun :=
  match run.main with
  | .selecting => if interrupted ∨ run.stopped then { run with main := .cleaning } else run
  | .cleaning => { run with cancelled := true, stopped := true, main := .waiting }
  | .waiting => if run.scanner = .ended ∧ run.handler = .ended ∧
      run.pinging = false then { run with main := .returned } else run
  | .returned => run

def step : StreamEvent → StreamRun
  | .scanner failed gives => run.scannerStep failed gives
  | .handler proceeds => run.handlerStep proceeds
  | .ping panics => run.pingStep panics
  | .main interrupted => run.mainStep interrupted

end StreamRun

end NewApi.Relay
