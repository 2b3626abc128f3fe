import QueryShell.CommandLine.Start
import QueryShell.Files.Streams
import QueryShell.Http.Driver
import QueryShell.Http.Wire
import Std.Async.DNS
import Std.Async.Signal
import Std.Async.TCP

/-
The command line. The programs of this library run with real streams, files and connections; an
interrupt of the process is served while a line is read or a request is under way.
-/
namespace QueryShell.Main

/-! ## The process -/

/-- A read of a line that was begun. -/
abbrev Reading := Task (Except IO.Error (List UInt8))

/-- What a run has of its process. -/
structure Host where
  standard : IO.FS.Stream
  /-- Where lines come from. -/
  source : IO.Ref IO.FS.Stream
  editing : IO.Ref Bool
  /-- A read that an interrupt has left behind. -/
  reading : IO.Ref (Option Reading)
  drivers : IO.Ref Http.State
  showsWarnings : Bool
  /-- Interrupts of the process, if they are for the run to serve. -/
  signals? : Option Std.Async.Signal.Waiter

/-- The reason for a failure, as the operating system puts it. -/
def reason : IO.Error → String
  | .noFileOrDirectory _ code details | .permissionDenied _ code details
  | .inappropriateType _ code details | .alreadyExists _ code details
  | .resourceExhausted _ code details | .resourceVanished code details
  | .resourceBusy code details | .hardwareFault code details | .otherError code details =>
    s!"{details} (os error {code})"
  | e => toString e

/-- Does something that can fail for a reason. -/
def attempt {α : Type} (action : IO α) : IO (Except String α) := do
  try return .ok (← action) catch e => return .error (reason e)

/-! ## Waiting -/

/-- How long to wait before looking again, in milliseconds. -/
def pause : UInt32 := 5

/-- Waits until a task has finished; whether it has, or an interrupt came first. -/
partial def wait {α : Type} (task : Task α) (signal : Std.Async.AsyncTask Int) : IO Bool := do
  if ← IO.hasFinished task then return true
  else if ← IO.hasFinished signal then return false
  else
    IO.sleep pause
    wait task signal

/-- Waits for the result of a task; `onInterrupt` serves an interrupt and tells whether to go on. -/
partial def await {α : Type} (h : Host) (onInterrupt : IO Bool) (task : Task α) :
    IO (Option α) := do
  match h.signals? with
  | none => return some (← IO.wait task)
  | some signals =>
    if ← wait task (← signals.wait) then return some (← IO.wait task)
    else if ← onInterrupt then await h onInterrupt task
    else return none

/-! ## Lines -/

/-- Reads the bytes of a line with its end. -/
partial def readLine (stream : IO.FS.Stream) (line : List UInt8) : IO (List UInt8) := do
  match (← stream.read 1).toList with
  | b :: _ => if b = Text.lineFeed then return (b :: line).reverse else readLine stream (b :: line)
  | [] => return line.reverse

/-- What the bytes of a line mean. -/
def readOfLine (line : List UInt8) : Except Failure Read :=
  ({ input := line } : Streams).readLine.1

/-- Starts to read a line, or goes on with a read that was left behind. -/
def beginReading (h : Host) (stream : IO.FS.Stream) : IO Reading := do
  match ← h.reading.get with
  | some task => return task
  | none =>
    let task ← IO.asTask (readLine stream []) .dedicated
    h.reading.set (some task)
    return task

/-- Reads a line; an interrupt gives it up. -/
def askLine (h : Host) (stream : IO.FS.Stream) : IO (Except Failure Read) := do
  match ← await h (return false) (← beginReading h stream) with
  | none => return .ok .interrupted
  | some result =>
    h.reading.set none
    match result with
    | .ok line => return readOfLine line
    | .error e => return .error (.io (reason e))

/-- Reads a line that is an answer to a question. -/
def askText (h : Host) : IO (Except Failure String) := do
  match ← askLine h h.standard with
  | .ok (.line text) => return .ok text
  | .ok _ => return .ok ""
  | .error e => return .error e

/-! ## Console and files -/

/-- Writes a text at once. -/
def print (sink : Sink) (text : String) : IO Unit := do
  let stream ← if sink = .out then IO.getStdout else IO.getStderr
  stream.putStr text
  stream.flush

/-- Chooses where lines come from. -/
def openSource (h : Host) : Source → IO (Except Failure Unit)
  | .standard => return .ok ()
  | .editor _ => do
    h.editing.set true
    return .ok ()
  | .file path => do
    match ← attempt (IO.FS.Handle.mk path .read) with
    | .ok handle =>
      h.source.set (.ofHandle handle)
      return .ok ()
    | .error reason => return .error (.io reason)

/-- Answers what is asked of the console. -/
def answerConsole (h : Host) : (c : Console.Call) → IO c.Reply
  | .print sink text => attempt (print sink text)
  | .warn origin text => do
    if h.showsWarnings then print .err (Streams.warningLine origin text)
  | .openSource source => openSource h source
  | .readLine prompt => do
    if ← h.editing.get then print .out prompt
    askLine h (← h.source.get)
  | .recall _ => return ()
  | .askLine => askText h
  | .askSecret => askText h

/-- Looks at a path. -/
def lookAt (path : String) : IO Found := do
  match ← attempt (do (← IO.FS.Handle.mk path .read).readBinToEnd) with
  | .ok bytes => return .bytes bytes.toList
  | .error reason =>
    return if reason = Disk.noSuchFile ∨ reason = Disk.notADirectory then .nothing
      else .unreadable reason

/-- Answers what is asked of the file system. -/
def answerFiles : (c : Files.Call) → IO c.Reply
  | .read path => lookAt path
  | .makeDirectory path => attempt (IO.FS.createDirAll path)
  | .write path contents => attempt (IO.FS.writeFile path contents)

/-! ## Requests -/

/-- Reads all that comes over a connection. -/
partial def receive (socket : Std.Async.TCP.Socket.Client) (bytes : List (List UInt8)) :
    IO (List UInt8) := do
  match ← (socket.recv? 65536).block with
  | some piece => receive socket (piece.toList :: bytes)
  | none => return bytes.reverse.flatten

/-- Sends a request to one address. -/
def exchangeWith (request : Http.Request) (port : UInt16) (address : Std.Net.IPAddr) :
    IO Http.Answer := do
  let socket ← Std.Async.TCP.Socket.Client.mk
  let place : Std.Net.SocketAddress := match address with
    | .v4 addr => .v4 { addr, port }
    | .v6 addr => .v6 { addr, port }
  (socket.connect place).block
  (socket.send ⟨(Http.Wire.ofRequest request).toArray⟩).block
  return Http.Wire.toAnswer (← receive socket [])

/-- Sends a request to the first address of its host that answers. Only plain connections are
made. -/
def exchange (request : Http.Request) : IO Http.Answer := do
  match Http.Url.schemeKind request.url.scheme with
  | .web own =>
    if request.url.scheme ≠ "http".toList then return .unreachable
    let port := request.url.port?.getD own
    let host := request.url.host.filter fun c => c ≠ '[' ∧ c ≠ ']'
    try
      let addresses ← (Std.Async.DNS.getAddrInfo (String.ofList host) (toString port)).block
      for address in addresses do
        try return ← exchangeWith request port.toUInt16 address
        catch _ => pure ()
      return .unreachable
    catch _ => return .unreachable
  | _ => return .unreachable

/-- Answers what is asked of drivers. An interrupt is served by `onInterrupt`, which may have the
request given up. -/
def answerDriver (h : Host) (onInterrupt : IO Unit) (c : Driver.Call) : IO c.Reply := do
  match (← h.drivers.get).begin c with
  | .replied reply st =>
    h.drivers.set st
    return reply
  | .exchange request conclude =>
    let goesOn : IO Bool := do
      onInterrupt
      return !(← h.drivers.get).servers.any (·.interrupts.pending)
    let result ← await h goesOn (← IO.asTask (exchange request) .dedicated)
    let answer := match result with
      | some (.ok answer) => answer
      | _ => .unreachable
    let (reply, st) := conclude answer (← h.drivers.get)
    h.drivers.set st
    return reply

/-! ## Running -/

/-- Runs a program; a call may change the state. -/
def runWith {σ α : Type} (answer : (c : Call) → σ → IO (c.Reply × σ)) :
    Program σ α → σ → IO (α × σ)
  | .done a, s => return (a, s)
  | .get next, s => runWith answer (next s) s
  | .set s next, _ => runWith answer next s
  | .ask call next, s => do
    let (reply, s) ← answer call s
    runWith answer (next reply) s

/-- Answers a call; interrupts that arrive meanwhile are served by `onInterrupt`. -/
def answer (h : Host) (onInterrupt : IO Unit) : (c : Call) → IO c.Reply
  | .driver c => answerDriver h onInterrupt c
  | .console c => answerConsole h c
  | .files c => answerFiles c
  | .delegate (.execute _) => return .ok ()
  | .delegate .lastErrorCode => return none
  | .delegate .reset | .delegate .clearReset => return ()
  | .delegate .standing => return {}

/-- Runs a program, with a program that serves interrupts on its state. -/
def run {σ α : Type} (h : Host) (onInterrupt : Program σ Unit) (p : Program σ α) (s : σ) :
    IO (α × σ) :=
  runWith (fun call s => do
    let state ← IO.mkRef s
    let serve : IO Unit := do
      let plain (c : Call) (s : σ) : IO (c.Reply × σ) := return (← answer h (pure ()) c, s)
      let (_, s) ← runWith plain onInterrupt (← state.get)
      state.set s
    let reply ← answer h serve call
    return (reply, ← state.get)) p s

/-- The greatest number of reads in a run. -/
def greatestReads : Nat := Nat.pow 2 62

/-- Runs with options. The result is the exit code. -/
def runOptions (o : CommandLine.Options) (home? profile? : Option String) : IO UInt32 := do
  let standard ← IO.getStdin
  let around : CommandLine.Surroundings :=
    { inputIsTerminal := ← standard.isTty
      outputIsTerminal := ← (← IO.getStdout).isTty
      home?, profile? }
  let signals? ← if (CommandLine.settingsOf o around).interactive then
      some <$> Std.Async.Signal.Waiter.mk .sigint true
    else pure none
  let host : Host :=
    { standard, signals?
      source := ← IO.mkRef standard
      editing := ← IO.mkRef false
      reading := ← IO.mkRef none
      drivers := ← IO.mkRef {}
      showsWarnings := o.level.showsWarnings }
  let (code?, _) ← run host (Loop.handle .shell) (CommandLine.run o around greatestReads)
    (CommandLine.initial o around)
  return UInt32.ofNat ((code?.getD Loop.exitFailure) % 256).toNat

end QueryShell.Main

open QueryShell in
/-- Reads the command line and runs. -/
def main (arguments : List String) : IO UInt32 := do
  let names := CommandLine.Key.options.filterMap (·.environmentName?)
  let given ← names.filterMapM fun name => do return (← IO.getEnv name).map (name, ·)
  match CommandLine.Options.parse (given.lookup ·) arguments with
  | .error e =>
    Main.print (if e.exitCode = 0 then .out else .err) (e.message ++ "\n")
    return e.exitCode.toUInt32
  | .ok o => Main.runOptions o (← IO.getEnv "HOME") (← IO.getEnv "USERPROFILE")
