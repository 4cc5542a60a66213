import ApiLoad.Http.Message
import ApiLoad.Program
import Std.Async.DNS
import Std.Async.Select
import Std.Async.Signal
import Std.Async.TCP
import Std.Async.Timer
import Std.Time.Zoned

/-!
# The command line

Reads files and variables, exchanges bytes with servers, tells the time and writes the log. What is
made of them is decided elsewhere: workers take the steps of an orchestration one at a time.
-/
set_option autoImplicit false

namespace ApiLoad.Terminal

open Std.Async

/-! ## Time, files and variables -/

def millis (n : Nat) : Std.Time.Millisecond.Offset := .ofNat n

def second : IO Int := do
  let now ← Std.Time.Timestamp.now
  pure now.toSecondsSinceUnixEpoch.val

def write (threshold : Log.Threshold) (lines : List Log.Entry) : IO Unit := do
  for line in lines do
    if line.passes threshold then IO.println line.text

def fileAt (path : String) : IO File := do
  try
    let content ← IO.FS.readBinFile path
    pure (.bytes content.data.toList)
  catch
    | .noFileOrDirectory .. => pure .missing
    | .inappropriateType .. => pure .directory
    | e => throw e

def textAt? (path : String) : IO (Option String) := do
  try
    let file ← fileAt path
    pure file.text.toOption
  catch _ => pure none

def variableFile? : IO (Option String) := do
  let directory ← IO.currentDir
  (DotEnv.candidates directory.toString).findSomeM? textAt?

def environment : IO Environment := do
  let block ← IO.FS.readBinFile "/proc/self/environ"
  pure (.ofSystem (Program.thresholdVariable :: Environment.names)
    (Environment.valueIn? (block.data.toList.splitOn 0)))

/-! ## Exchanges -/

def addresses (url : Http.Url) : Async (Array Std.Net.SocketAddress) := do
  let port := ((url.port.or (Http.Url.defaultPort? url.scheme)).getD 80).toUInt16
  let host := String.ofList ((url.host.getD []).filter fun c => c != '[' && c != ']')
  let found ← DNS.getAddrInfo host (natText port.toNat)
  pure (found.map fun address =>
    match address with
    | .v4 addr => .v4 ⟨addr, port⟩
    | .v6 addr => .v6 ⟨addr, port⟩)

def connect? (url : Http.Url) : Async (Option TCP.Socket.Client) := do
  try
    for address in ← addresses url do
      let socket ← TCP.Socket.Client.mk
      try
        socket.connect address
        return some socket
      catch _ => pure ()
    pure none
  catch _ => pure none

def receive (socket : TCP.Socket.Client) (deadline : Nat) :
    Async (Http.Message.Rest × List UInt8) := do
  let now ← IO.monoMsNow
  let timer ← Selector.sleep (millis (deadline - now))
  Selectable.one #[
    .case (socket.recvSelector 65536) fun data? =>
      pure (match data? with
        | some data => (.pending, data.data.toList)
        | none => (.closed, [])),
    .case timer fun _ => pure (.abandoned, [])]

partial def replyOf (socket : TCP.Socket.Client) (deadline : Nat) (wantsBody : Bool)
    (bytes : List UInt8) : Async Http.Reply := do
  let (rest, more) ← try receive socket deadline catch _ => pure (.abandoned, [])
  let bytes := bytes ++ more
  match Http.Message.reply? rest wantsBody bytes with
  | some reply => pure reply
  | none => replyOf socket deadline wantsBody bytes

def before {α : Type} (deadline : Nat) (action : Async α) : Async (Option α) := do
  let now ← IO.monoMsNow
  Async.race (some <$> action) (do sleep (millis (deadline - now)); pure none)

/-- One exchange on a connection of its own. Only plain connections are made. -/
def exchange (timeout : Duration) (wantsBody : Bool) (call : Http.Call) : Async Http.Reply := do
  if call.url.scheme ≠ "http" then return .unreachable
  let limit := (timeout.nanoseconds + (Interval.millisecond - 1)) / Interval.millisecond
  let deadline := (← IO.monoMsNow) + limit
  match ← before deadline (connect? call.url) with
  | none => pure .interrupted
  | some none => pure .unreachable
  | some (some socket) =>
    try
      socket.send ⟨call.bytes.toArray⟩
      replyOf socket deadline wantsBody []
    catch _ => pure .interrupted

def reply (timeout : Duration) (method : Http.Method) (url : String) (content : Http.Content)
    (wantsBody : Bool) : IO Http.Reply := do
  match Http.prepare method url content with
  | .error _ => pure .unreachable
  | .ok call => (exchange timeout wantsBody call).block

/-! ## Runs -/

structure Session where
  state : IO.Ref Orchestration
  origin : Nat
  threshold : Log.Threshold
  timeout : Duration

namespace Session

def forget (o : Orchestration) : Orchestration :=
  { o with run := { o.run with journal := [] }, log := [] }

def step (s : Session) (step : Orchestration.Step) : IO Unit := do
  let moment := (← IO.monoNanosNow) - s.origin
  let lines ← s.state.modifyGet fun o =>
    match o.steps? [.run (.elapse (moment - o.run.now)), step] with
    | some after => (after.log ++ after.run.lines, forget after)
    | none => ([], o)
  write s.threshold lines

def pause (s : Session) (deadline : Nat) : IO Unit := do
  let now := (← IO.monoNanosNow) - s.origin
  let left := (deadline - now + (Interval.millisecond - 1)) / Interval.millisecond
  IO.sleep (min left 10).toUInt32

def post (s : Session) (w : Worker) (request : Request) : IO Outcome := do
  let url := Transport.joinUrl w.assignment.baseUrl request.path
  let reply ← reply s.timeout .post url (.json request.body) request.wantsBody
  pure (Transport.post (fun _ => reply) url request.body request.wantsBody)

partial def work (s : Session) (place : Nat) : IO Unit := do
  let o ← s.state.get
  let act (action : Action) : IO Unit := s.step (.run (.act place action))
  match o.run.workers[place]? with
  | none => pure ()
  | some w =>
    match w.phase with
    | .stopped | .lost => return
    | .idle => act .start
    | .waiting =>
      if o.run.cancelled then act .leave
      else do
        pause s w.ticker.deadline
        act .tick
    | .ticked => act (.plan (← second))
    | .planned _ => act .post
    | .calling request => act (.count (← s.post w request))
    | .counted => act .check
    work s place

def run (s : Session) (signal : Async Program.Signal) : IO Unit := do
  let places := List.range (← s.state.get).run.workers.length
  let tasks ← places.mapM fun place => do
    let task ← IO.asTask (s.work place) .dedicated
    pure (place, task)
  write s.threshold [(← signal.block).line]
  s.step .shutdown
  for (place, task) in tasks do
    match ← IO.wait task with
    | .ok () => s.step (.join place "")
    | .error e =>
      s.step (.run (.act place .crash))
      s.step (.join place (toString e))
  s.step .finish

end Session

def listen : IO (Async Program.Signal) := do
  let interrupt ← (← Signal.Waiter.mk .sigint true).wait
  let terminate ← (← Signal.Waiter.mk .sigterm true).wait
  pure (Async.race (do discard (await interrupt); pure .interrupt)
    (do discard (await terminate); pure .terminate))

/-- Eight digits stand for the name of a user. -/
def userName : Draw String := do
  let digits ← Draw.identifier
  pure (String.ofList (digits.take 8))

def run (threshold : Log.Threshold) (env : Environment) (overrides : Overrides) :
    IO Program.Ending := do
  let settings := (Program.settings env overrides).1
  let file ← fileAt settings.description
  let seed ← second
  let world : Program.World :=
    { environment := env, fileAt := fun _ => file, complaint := fun _ => "not a description"
      client := fun _ => .ok (), users := userName
      source := fun place => .splitMix (UInt64.ofNat (seed.toNat * 1000003 + place)) }
  let started := Program.start world overrides
  write threshold started.log
  match started.result with
  | .error ending => pure ending
  | .ok o =>
    let signal ← listen
    let state ← IO.mkRef o
    let session : Session := ⟨state, ← IO.monoNanosNow, threshold, settings.timeout⟩
    session.run signal
    match (← state.get).summary? with
    | none => pure (.fatal (.internal "the run did not end"))
    | some summary =>
      let (lines, ending) := Program.finish summary
      write threshold lines
      pure ending

def verify (threshold : Log.Threshold) (baseUrl : String) (seconds : Nat) : IO Program.Ending := do
  let now ← second
  let replies ← (Check.standard now).mapM fun check =>
    reply (.ofSeconds seconds) check.method (Transport.joinUrl baseUrl check.path) check.content true
  let (verification, lines) :=
    Program.verify (fun place _ => replies.getD place .unreachable) baseUrl now
  write threshold lines
  pure (Program.verifyEnding verification)

end ApiLoad.Terminal

open ApiLoad in
def main (arguments : List String) : IO UInt32 := do
  let env ← Terminal.environment
  let threshold := Program.threshold env
  let opening := Program.opening env (← Terminal.variableFile?) arguments
  Terminal.write threshold [opening.line]
  let ending ← match opening.command with
    | .error reason => pure (.usage reason)
    | .ok (.run overrides) => Terminal.run threshold opening.environment overrides
    | .ok (.verify baseUrl seconds) => Terminal.verify threshold baseUrl seconds
  match ending with
  | .usage .help => IO.println Command.usage
  | .usage reason => IO.eprintln ("error: " ++ reason.message ++ "\n\n" ++ Command.usage)
  | _ => for line in ending.shown? do IO.eprintln line
  pure ending.exitCode.toUInt32
