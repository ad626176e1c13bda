import LanProxyGateway.LogMonitor.StructuredLogger
import LanProxyGateway.WebServer.Pagination

/-!
# The log endpoints

`/api/logs` and `/api/dashboard/recent_logs` read a count from the URL as an `int` and pass it on as
a `size_t`, so a negative one asks for everything. The entries in the memory have all been written
out before, and so the answer can be: whatever has been logged, only a count that is no number is
answered with an exception (`logs_answer`).
-/

open Foundation ByteString

namespace LanProxyGateway

namespace StructuredLogger

/-- An `int` as a `size_t`. -/
def sizeOfInt (n : CInt) : ℕ := (n.val % 18446744073709551616).toNat

/-- `res.write(j.dump())`. -/
def written (j : Json) : Except CxxException Json :=
  if j.isSerializable then .ok j else .error .typeError

/-- The entries as they are answered. -/
def answer (records : List LogRecord) : Except CxxException Json :=
  written (.array (records.map LogRecord.json))

/-- `GET /api/dashboard/recent_logs`, behind its guard. -/
def getDashboardLogs (s : StructuredLogger) (countParam : Option ByteString) :
    Except CxxException Json := do
  let count ← urlInt countParam 50
  answer (s.getRecentLogs (sizeOfInt count) [])

/-- `GET /api/logs`, behind its guard. -/
def getLogs (s : StructuredLogger) (countParam levelParam : Option ByteString) :
    Except CxxException Json := do
  let count ← urlInt countParam 100
  answer (s.getRecentLogs (sizeOfInt count) (levelParam.getD []))

/-- Everything that has been logged and is still there, from the newest on, and as much of it as is
asked for. -/
def newest (records : List LogRecord) (count : ℕ) (levelFilter : ByteString) : List LogRecord :=
  (((records.filter LogRecord.dumps).reverse.take maxMemoryEntries).filter
    (LogRecord.passes levelFilter)).take count

theorem getRecentLogs_eq {records : List LogRecord} {s : StructuredLogger}
    (h : run step {} records = .ok s) (count : ℕ) (levelFilter : ByteString) :
    s.getRecentLogs count levelFilter = newest records count levelFilter := by
  rw [getRecentLogs, collect_eq, Nat.sub_zero, memory_of_run h, List.nil_append, reverse_rtake]
  rfl

theorem dumps_of_mem_newest {records : List LogRecord} {count : ℕ} {levelFilter : ByteString}
    {r : LogRecord} (h : r ∈ newest records count levelFilter) : r.dumps = true := by
  have hmem := List.mem_of_mem_take (List.mem_filter.mp (List.mem_of_mem_take h)).1
  exact (List.mem_filter.mp (List.mem_reverse.mp hmem)).2

theorem answer_newest (records : List LogRecord) (count : ℕ) (levelFilter : ByteString) :
    answer (newest records count levelFilter) =
      .ok (.array ((newest records count levelFilter).map LogRecord.json)) := by
  refine if_pos ?_
  rw [Json.isSerializable_array]
  intro j hj
  obtain ⟨r, hr, rfl⟩ := List.mem_map.mp hj
  exact dumps_of_mem_newest hr

/-- **The logs are answered.** After any calls of the logger, with any texts, the two endpoints
answer with the newest entries of the last two thousand, unless the count is no number. -/
theorem logs_answer {records : List LogRecord} {s : StructuredLogger}
    (h : run step {} records = .ok s) (countParam levelParam : Option ByteString) :
    (∀ count, urlInt countParam 100 = .ok count → s.getLogs countParam levelParam =
      .ok (.array ((newest records (sizeOfInt count) (levelParam.getD [])).map
        LogRecord.json))) ∧
    (∀ count, urlInt countParam 50 = .ok count → s.getDashboardLogs countParam =
      .ok (.array ((newest records (sizeOfInt count) []).map LogRecord.json))) := by
  constructor
  · intro count hcount
    rw [getLogs, hcount]
    show answer (s.getRecentLogs (sizeOfInt count) (levelParam.getD [])) = _
    rw [getRecentLogs_eq h, answer_newest]
  · intro count hcount
    rw [getDashboardLogs, hcount]
    show answer (s.getRecentLogs (sizeOfInt count) []) = _
    rw [getRecentLogs_eq h, answer_newest]

/-- An entry, and one whose text is not UTF-8. -/
def startedRecord : LogRecord where
  ts := 0
  level := .info
  moduleName := ofString "main"
  msg := ofString "started"

def brokenRecord : LogRecord := { startedRecord with msg := [255] }

theorem startedRecord_logs_answer : ∃ s, run step {} [startedRecord, brokenRecord] = .ok s ∧
    s.getLogs (some (ofString "7")) none = .ok (.array [startedRecord.json]) := by
  obtain ⟨s, hs⟩ : ∃ s, run step {} [startedRecord, brokenRecord] = .ok s := ⟨_, rfl⟩
  have hcount : urlInt (some (ofString "7")) 100 = .ok (.ofInt 7) := by decide +kernel
  have hnewest : newest [startedRecord, brokenRecord] (sizeOfInt (.ofInt 7)) [] =
      [startedRecord] := by decide +kernel
  have hanswer := (logs_answer hs (some (ofString "7")) none).1 _ hcount
  rw [Option.getD_none, hnewest] at hanswer
  exact ⟨s, hs, hanswer⟩

end StructuredLogger

end LanProxyGateway
