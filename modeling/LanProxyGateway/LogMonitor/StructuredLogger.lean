import LanProxyGateway.Foundation.BoundedLog
import LanProxyGateway.Foundation.Json
import LanProxyGateway.Foundation.Run

/-!
# The log in memory

`structured_logger` writes an entry out as JSON for its sinks before it puts it into the buffer in
memory, so a text that is not UTF-8 leaves with an exception and is in no log. What is in the buffer
are the last of the other entries, and they can be written out again (`memory_of_run`).

The sinks of spdlog take whatever they are given and are left out. An entry is kept as its fields;
`json` is what the buffer holds.
-/

open Foundation ByteString

namespace LanProxyGateway

inductive LogLevel
  | info
  | warn
  | error
  deriving DecidableEq, Repr

/-- The text in an entry. -/
def LogLevel.text : LogLevel → ByteString
  | info => ofString "info"
  | warn => ofString "warn"
  | error => ofString "error"

/-- What `info`, `warn` and `error` make an entry of. -/
structure LogRecord where
  /-- Milliseconds since the epoch. -/
  ts : Int
  level : LogLevel
  moduleName : ByteString
  msg : ByteString
  sessionId : ByteString := []
  deriving DecidableEq, Repr

namespace LogRecord

def json (r : LogRecord) : Json := .ofFields
  ([("ts", .integer r.ts), ("level", .string r.level.text), ("module", .string r.moduleName),
    ("msg", .string r.msg)] ++
    if r.sessionId.isEmpty then [] else [("session_id", .string r.sessionId)])

/-- `entry.dump()` returns. -/
def dumps (r : LogRecord) : Bool := r.json.isSerializable

/-- `level_filter.empty() || entry["level"] == level_filter`. -/
def passes (levelFilter : ByteString) (r : LogRecord) : Bool :=
  levelFilter.isEmpty || r.level.text == levelFilter

end LogRecord

def maxMemoryEntries : ℕ := 2000

structure StructuredLogger where
  memoryBuffer : BoundedLog LogRecord maxMemoryEntries := {}
  /-- There is a callback for the entries. -/
  broadcastCb : Bool := false

namespace StructuredLogger

/-- `structured_logger::add_memory_entry`. -/
def addMemoryEntry (s : StructuredLogger) (r : LogRecord) : StructuredLogger :=
  { s with memoryBuffer := s.memoryBuffer.push r }

@[simp] theorem broadcastCb_addMemoryEntry (s : StructuredLogger) (r : LogRecord) :
    (s.addMemoryEntry r).broadcastCb = s.broadcastCb := by
  rw [addMemoryEntry]

@[simp] theorem entries_addMemoryEntry (s : StructuredLogger) (r : LogRecord) :
    (s.addMemoryEntry r).memoryBuffer.entries =
      (s.memoryBuffer.entries ++ [r]).rtake maxMemoryEntries := by
  rw [addMemoryEntry, BoundedLog.entries_push]

/-- `info`, `warn` and `error`, up to the broadcast. -/
def log (s : StructuredLogger) (r : LogRecord) : Except CxxException StructuredLogger :=
  if r.dumps then .ok (s.addMemoryEntry r) else .error .typeError

/-- `structured_logger::get_recent_logs`, from the newest entry back. -/
def getRecentLogs (s : StructuredLogger) (count : ℕ) (levelFilter : ByteString) : List LogRecord :=
  collect (LogRecord.passes levelFilter) count s.memoryBuffer.entries.reverse 0

/-- `structured_logger::broadcast_callback`. -/
def broadcastCallback (s : StructuredLogger) : StructuredLogger := { s with broadcastCb := true }

/-- A call by somebody; an exception is the caller's. -/
def step (s : StructuredLogger) (r : LogRecord) : Except Empty StructuredLogger :=
  .ok ((s.log r).toOption.getD s)

theorem step_eq (s : StructuredLogger) (r : LogRecord) :
    s.step r = .ok (if r.dumps then s.addMemoryEntry r else s) := by
  rw [step, log]
  split
  · rfl
  · rfl

/-- **The memory holds the last entries that were logged.** -/
theorem memory_of_run {records : List LogRecord} {s t : StructuredLogger}
    (h : run step s records = .ok t) : t.memoryBuffer.entries =
      (s.memoryBuffer.entries ++ records.filter LogRecord.dumps).rtake maxMemoryEntries := by
  have hpush : t.memoryBuffer = (records.filter LogRecord.dumps).foldl BoundedLog.push
      s.memoryBuffer := by
    induction records generalizing s with
    | nil =>
      obtain rfl := Except.ok.inj h
      rfl
    | cons r records ih =>
      rw [run_cons, step_eq] at h
      have hrest := ih h
      by_cases hr : r.dumps = true
      · rw [List.filter_cons_of_pos hr, List.foldl_cons, hrest, if_pos hr, addMemoryEntry]
      · rw [List.filter_cons_of_neg hr, hrest, if_neg hr]
  rw [hpush, BoundedLog.entries_foldl_push]

end StructuredLogger

end LanProxyGateway
