import LanProxyGateway.Concurrency.Admission

/-!
# The connection registry

`connection_registry` keeps one record per session id. Every update of a record looks the id up
first and does nothing when it is not there, so a late update cannot bring an unregistered session
back.
-/

open Foundation

namespace LanProxyGateway

inductive ConnectionState
  | authenticating
  | handshaking
  | active
  | idle
  | queued
  | closing
  deriving DecidableEq, Repr

structure ConnectionRecord where
  sessionId : ByteString := []
  clientIp : ByteString := []
  username : ByteString := []
  assignedNodeTag : ByteString := []
  state : ConnectionState := .authenticating
  admitTime : SteadyTime := 0
  idleSince : SteadyTime := 0
  exemptIdle : Bool := false
  deriving DecidableEq, Repr

structure ConnectionRegistry where
  connections : AList fun _ : ByteString ↦ ConnectionRecord := ∅

namespace ConnectionRegistry

/-- `connection_registry::register_connection`: a record that is already there keeps its node tag
and its exemption. -/
def registerConnection (r : ConnectionRegistry) (now : SteadyTime)
    (sessionId clientIp username : ByteString) : ConnectionRegistry :=
  let entry := (r.connections.lookup sessionId).getD {}
  { r with
    connections := r.connections.insert sessionId { entry with
      sessionId := sessionId
      clientIp := clientIp
      username := username
      state := .authenticating
      admitTime := now
      idleSince := now } }

def unregisterConnection (r : ConnectionRegistry) (sessionId : ByteString) : ConnectionRegistry :=
  { r with connections := r.connections.erase sessionId }

/-- `it = find(id); if (it != end()) f(it->second)`. -/
def updateRecord (r : ConnectionRegistry) (sessionId : ByteString)
    (f : ConnectionRecord → ConnectionRecord) : ConnectionRegistry :=
  match r.connections.lookup sessionId with
  | some entry => { r with connections := r.connections.insert sessionId (f entry) }
  | none => r

def updateState (r : ConnectionRegistry) (now : SteadyTime) (sessionId : ByteString)
    (state : ConnectionState) : ConnectionRegistry :=
  r.updateRecord sessionId fun entry ↦
    { entry with state := state, idleSince := if state = .active then now else entry.idleSince }

def updateNode (r : ConnectionRegistry) (sessionId nodeTag : ByteString) : ConnectionRegistry :=
  r.updateRecord sessionId fun entry ↦ { entry with assignedNodeTag := nodeTag }

def markActive (r : ConnectionRegistry) (now : SteadyTime) (sessionId : ByteString) :
    ConnectionRegistry :=
  r.updateRecord sessionId fun entry ↦ { entry with state := .active, idleSince := now }

def markIdle (r : ConnectionRegistry) (now : SteadyTime) (sessionId : ByteString) :
    ConnectionRegistry :=
  r.updateRecord sessionId fun entry ↦ { entry with state := .idle, idleSince := now }

def setExemptIdle (r : ConnectionRegistry) (sessionId : ByteString) (exempt : Bool) :
    ConnectionRegistry :=
  r.updateRecord sessionId fun entry ↦ { entry with exemptIdle := exempt }

def clear (r : ConnectionRegistry) : ConnectionRegistry := { r with connections := ∅ }

/-! ## The ids that are listed -/

/-- The registry has a record for the id. -/
def Lists (r : ConnectionRegistry) (sessionId : ByteString) : Prop := sessionId ∈ r.connections

theorem lists_registerConnection (r : ConnectionRegistry) (now : SteadyTime)
    (sessionId clientIp username id : ByteString) :
    (r.registerConnection now sessionId clientIp username).Lists id ↔
      id = sessionId ∨ r.Lists id := AList.mem_insert _

theorem lists_unregisterConnection (r : ConnectionRegistry) (sessionId id : ByteString) :
    (r.unregisterConnection sessionId).Lists id ↔ id ≠ sessionId ∧ r.Lists id := AList.mem_erase

/-- An update lists nothing new. -/
theorem lists_updateRecord (r : ConnectionRegistry) (sessionId id : ByteString)
    (f : ConnectionRecord → ConnectionRecord) : (r.updateRecord sessionId f).Lists id ↔
      r.Lists id := by
  rw [updateRecord]
  split
  · rename_i entry hentry
    have hmem : r.Lists sessionId := AList.lookup_isSome.mp (Option.isSome_of_mem hentry)
    refine (AList.mem_insert _).trans ⟨?_, .inr⟩
    rintro (rfl | h)
    · exact hmem
    · exact h
  · exact Iff.rfl

end ConnectionRegistry

end LanProxyGateway
