import QueryShell.Failure
import QueryShell.Files.Disk
import QueryShell.Text.Input

/-
The standard streams of a process in memory: what is still to be read, and what was printed.
-/
namespace QueryShell

/-- The streams of a process. -/
structure Streams where
  /-- What is still to be read from the source. -/
  input : List UInt8 := []
  /-- What is typed where a secret is asked for, one text for each time. -/
  secrets : List String := []
  /-- Lines are read in an editor, which shows its prompt. -/
  editing : Bool := false
  /-- Why the source cannot be read. -/
  unreadable? : Option String := none
  showsWarnings : Bool := true
  /-- What was printed. -/
  out : String := ""
  err : String := ""
deriving Repr

namespace Streams

/-- The texts at even places, and those at odd places. -/
def alternate : List String → List String × List String
  | [] => ([], [])
  | text :: rest => (text :: (alternate rest).2, (alternate rest).1)

/-- Texts typed at a terminal: lines of input and secrets in turn. -/
def typed (texts : List String) : Streams where
  input := Text.Utf8.bytes (String.join (alternate texts).1)
  secrets := (alternate texts).2

/-- Prints a text. -/
def print (s : Streams) (sink : Sink) (text : String) : Streams :=
  match sink with
  | .out => { s with out := s.out ++ text }
  | .err => { s with err := s.err ++ text }

/-- The line in which a warning is logged. -/
def warningLine (origin : Origin) (text : String) : String :=
  s!"[WARN  {origin.name}] {text}\n"

/-- Logs a warning. -/
def warn (s : Streams) (origin : Origin) (text : String) : Streams :=
  if s.showsWarnings then s.print .err (warningLine origin text) else s

/-- Chooses where lines come from. -/
def openSource (s : Streams) (d : Disk) : Source → Except Failure Unit × Streams
  | .standard => (.ok (), s)
  | .editor _ => (.ok (), { s with editing := true })
  | .file path =>
    match d.read path with
    | .nothing => (.error (.io Disk.noSuchFile), s)
    | .unreadable reason => (.ok (), { s with unreadable? := some reason })
    | .bytes input => (.ok (), { s with input })

/-- Reads a line. -/
def readLine (s : Streams) : Except Failure Read × Streams :=
  match s.unreadable? with
  | some reason => (.error (.io reason), s)
  | none =>
    match Text.readLineBytes s.input with
    | none => (.ok .endOfInput, s)
    | some (some line, input) => (.ok (.line (String.ofList line)), { s with input })
    | some (none, input) => (.error .notUtf8, { s with input })

/-- Reads an answer, which is empty when nothing is left to read. -/
def askLine (s : Streams) : Except Failure String × Streams :=
  match s.readLine with
  | (.ok (.line text), s) => (.ok text, s)
  | (.ok _, s) => (.ok "", s)
  | (.error e, s) => (.error e, s)

/-- Reads a secret. -/
def askSecret (s : Streams) : Except Failure String × Streams :=
  match s.secrets with
  | [] => (.error (.io "unexpected end of file"), s)
  | text :: secrets => (.ok ((Text.lines text).headD ""), { s with secrets })

/-- Answers a call; files are found on `d`. -/
def answer (d : Disk) : (c : Console.Call) → Streams → c.Reply × Streams
  | .print sink text, s => (.ok (), s.print sink text)
  | .warn origin text, s => ((), s.warn origin text)
  | .openSource source, s => s.openSource d source
  | .readLine prompt, s => (if s.editing then s.print .out prompt else s).readLine
  | .recall _, s => ((), s)
  | .askLine, s => s.askLine
  | .askSecret, s => s.askSecret

end Streams

end QueryShell
