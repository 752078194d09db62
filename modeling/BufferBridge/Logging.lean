import BufferBridge.FileTree
import BufferBridge.LogRecord

/-! Where log records go. A process has one logger at most, and whoever installs one first stays. The
first request to write the log decides the outcome of all later ones; it opens its file even where
another logger is there already, and the file then stays as it is. -/
namespace BufferBridge

/-- Where the lines of the log go. -/
inductive LogSink
  | standardError
  | file (path : EntryPath)
  deriving Repr, DecidableEq

/-- The logger of a process. -/
inductive Logger
  /-- The one that writes lines to a sink. -/
  | lines (sink : LogSink)
  /-- One that the process has from elsewhere. -/
  | foreign
  deriving Repr, DecidableEq

/-- A process, as far as its log goes. -/
structure LogProcess where
  tree : FileTree := {}
  /-- The folder that file names are relative to. -/
  folder : EntryPath := []
  /-- What was written to standard error. -/
  standardError : String := ""
  logger : Option Logger := none
  /-- The outcome of the first request to write the log. -/
  outcome : Option (Except Failure Unit) := none
  /-- The files that were opened, in order. -/
  opened : List EntryPath := []

namespace LogProcess

/-- The process with a logger, unless it has one. -/
def install (logger : Logger) (process : LogProcess) : LogProcess :=
  { process with logger := process.logger.or (some logger) }

/-- Carries out the first request to write the log, to a file or to standard error. -/
def setUp (name : Option String) (process : LogProcess) : Except Failure Unit × LogProcess :=
  match name with
  | none => (.ok (), process.install (.lines .standardError))
  | some name =>
    match process.tree.openFile process.folder name with
    | .error fault => (.error (.invalid (.logFile name fault.message)), process)
    | .ok (path, tree) =>
      let process := { process with tree, opened := process.opened ++ [path] }
      (.ok (), process.install (.lines (.file path)))

/-- Asks for the log to be written. The reason of a failure is kept as its words. -/
def enable (name : Option String) (process : LogProcess) : Except Failure Unit × LogProcess :=
  match process.outcome with
  | some outcome => (outcome, process)
  | none =>
    let (outcome, process) := process.setUp name
    -- later requests are told the words of the failure, which name the first request's file
    let outcome := outcome.mapError fun failure => .invalid (.other failure.message)
    (outcome, { process with outcome := some outcome })

/-- Installs a logger from elsewhere, and tells whether it could be. -/
def installForeign (process : LogProcess) : Bool × LogProcess :=
  (process.logger.isNone, process.install .foreign)

/-- The lines of the records that matter enough for the log. -/
def lines (records : List LogRecord) : String :=
  String.join ((records.filter (·.level ≠ .trace)).map (·.line ++ "\n"))

def emit (records : List LogRecord) (process : LogProcess) : LogProcess :=
  match process.logger with
  | some (.lines .standardError) =>
    { process with standardError := process.standardError ++ lines records }
  | some (.lines (.file path)) =>
    { process with tree := process.tree.append path (lines records) }
  | some .foreign | none => process

/-- Something that bears on the log of a process. -/
inductive Step
  | enable (name : Option String)
  | installForeign
  /-- Calls that emit records. -/
  | emit (records : List LogRecord)

/-- Carries out a step. The outcome is that of a request to write the log. -/
def step (process : LogProcess) : Step → Option (Except Failure Unit) × LogProcess
  | .enable name =>
    let (outcome, process) := process.enable name
    (some outcome, process)
  | .installForeign => (none, process.installForeign.2)
  | .emit records => (none, process.emit records)

end LogProcess

end BufferBridge
