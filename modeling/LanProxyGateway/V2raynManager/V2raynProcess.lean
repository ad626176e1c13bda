import LanProxyGateway.Concurrency.Admission
import LanProxyGateway.Foundation.Run

/-!
# The v2ray supervisor

`v2rayn_process` forks the v2ray child, stops it, and restarts it when it exits. It lives in a host
with other children (the `python3` processes that `password_hasher` opens a pipe to), a pending
`SIGCHLD` and the handler that the first successful fork installs.

An exited child stays in the list of children until somebody waits for it: `do_stop` for the pid it
keeps, `on_child_exit` for any child at all, and `pclose` for the child it belongs to. The
operations of the supervisor hold its mutex from beginning to end and are single steps here. Which
pid a fork returns and which exited child `waitpid(-1)` reaps is up to the host; a pid some child
still has is not given out, and asking for one counts as a failed fork.
-/

open Foundation

namespace LanProxyGateway

inductive V2raynStatus
  | stopped
  | starting
  | running
  | failed
  deriving DecidableEq, Repr

structure V2raynProcess where
  status : V2raynStatus := .stopped
  pid : ℕ := 0
  crashCount : ℕ := 0
  childExited : Bool := false
  crashWindowStart : SteadyTime := 0
  execPath : ByteString := []
  configPath : ByteString := []
  logPath : ByteString := []
  stopping : Bool := false
  deriving DecidableEq, Repr

/-- A child of the gateway that nobody has waited for yet. -/
structure Child where
  pid : ℕ
  isV2ray : Bool
  exited : Bool
  deriving DecidableEq, Repr

/-- The supervisor and the part of the system it deals with. -/
structure Host where
  process : V2raynProcess := {}
  children : List Child := []
  signalPending : Bool := false
  handlerInstalled : Bool := false
  deriving DecidableEq, Repr

namespace Host

/-- A pid `fork` can return. -/
def isFree (h : Host) (pid : ℕ) : Bool := 0 < pid && h.children.all fun c ↦ c.pid != pid

/-- The pid a fork ends up with, `none` for a failed one. -/
def forked (h : Host) (fork : Option ℕ) : Option ℕ := fork.filter h.isFree

/-- `v2rayn_process::do_start`. -/
def doStart (h : Host) (fork : Option ℕ) : Host :=
  if h.process.status = .running then h
  else
    match h.forked fork with
    | none => { h with process := { h.process with status := .failed, stopping := false } }
    | some pid => { h with
        process := { h.process with status := .running, pid := pid, stopping := false }
        children := ⟨pid, true, false⟩ :: h.children
        handlerInstalled := true }

/-- `v2rayn_process::do_stop`. However the loop and the final `SIGKILL` divide the work, the child
with the pid is gone afterwards; if it was still alive its end raises a signal. -/
def doStop (h : Host) : Host :=
  if h.process.pid = 0 then { h with process := { h.process with stopping := true } }
  else { h with
    process := { h.process with stopping := true, pid := 0, status := .stopped }
    children := h.children.filter fun c ↦ c.pid != h.process.pid
    signalPending := h.signalPending ||
      h.children.any fun c ↦ c.pid == h.process.pid && !c.exited }

def start (h : Host) (execPath configPath logPath : ByteString) (fork : Option ℕ) : Host :=
  { h with process := { h.process with
      execPath := execPath, configPath := configPath, logPath := logPath } }.doStart fork

def stop (h : Host) : Host := h.doStop

def restart (h : Host) (fork : Option ℕ) : Host := h.doStop.doStart fork

/-- `waitpid(-1, &status, WNOHANG)`: the child with the pid the host picks, or else the first exited
one. -/
def waitAny (h : Host) (pick : ℕ) : Option Child :=
  (h.children.find? fun c ↦ c.exited && c.pid == pick).or (h.children.find? (·.exited))

/-- `if (m_crash_count == 1) …; if (elapsed >= 5) …`, after the crash has been counted. -/
def restartWindow (p : V2raynProcess) (now : SteadyTime) : V2raynProcess :=
  let p := if p.crashCount = 1 then { p with crashWindowStart := now } else p
  if 5 ≤ (now - p.crashWindowStart).tdiv 60000000000 then
    { p with crashCount := 1, crashWindowStart := now }
  else p

/-- `v2rayn_process::on_child_exit`. -/
def onChildExit (h : Host) (now : SteadyTime) (pick : ℕ) (fork : Option ℕ) : Host :=
  match h.waitAny pick with
  | none => h
  | some c =>
    let h := { h with
      children := h.children.filter fun d ↦ d.pid != c.pid
      process := { h.process with childExited := false } }
    if h.process.stopping = true ∨ h.process.status ≠ .running then
      { h with process := { h.process with pid := 0 } }
    else
      let p := restartWindow
        { h.process with pid := 0, crashCount := h.process.crashCount + 1 } now
      if 3 ≤ p.crashCount then { h with process := { p with status := .failed } }
      else { h with process := p }.doStart fork

/-- `v2rayn_process::check_child_exit`. -/
def checkChildExit (h : Host) (now : SteadyTime) (pick : ℕ) (fork : Option ℕ) : Host :=
  if h.process.childExited then
    { h with process := { h.process with childExited := false } }.onChildExit now pick fork
  else h

/-! ## The steps of the system -/

/-- What can happen next. -/
inductive Event
  | start (execPath configPath logPath : ByteString) (fork : Option ℕ)
  | stop
  | restart (fork : Option ℕ)
  | poll (now : SteadyTime) (pick : ℕ) (fork : Option ℕ)
  /-- A child comes to its end. -/
  | childExits (pid : ℕ)
  /-- `popen` of some other part of the gateway. -/
  | otherSpawned (pid : ℕ)
  /-- The `pclose` that belongs to such a child. -/
  | otherReaped (pid : ℕ)
  /-- The pending `SIGCHLD` arrives. -/
  | signalDelivered

/-- A child exits and raises the signal. -/
def childExits (h : Host) (pid : ℕ) : Host :=
  if h.children.any fun c ↦ c.pid == pid && !c.exited then
    { h with
      children := h.children.map fun c ↦ if c.pid = pid then { c with exited := true } else c
      signalPending := true }
  else h

def otherSpawned (h : Host) (pid : ℕ) : Host :=
  if h.isFree pid then { h with children := ⟨pid, false, false⟩ :: h.children } else h

def otherReaped (h : Host) (pid : ℕ) : Host :=
  { h with children := h.children.filter fun c ↦ !(c.pid == pid && !c.isV2ray && c.exited) }

/-- `child_watcher::handler`, once it is installed; before that the signal is ignored. -/
def signalDelivered (h : Host) : Host :=
  { h with
    process := { h.process with
      childExited := h.process.childExited || h.signalPending && h.handlerInstalled }
    signalPending := false }

def next (h : Host) : Event → Host
  | .start execPath configPath logPath fork => h.start execPath configPath logPath fork
  | .stop => h.stop
  | .restart fork => h.restart fork
  | .poll now pick fork => h.checkChildExit now pick fork
  | .childExits pid => h.childExits pid
  | .otherSpawned pid => h.otherSpawned pid
  | .otherReaped pid => h.otherReaped pid
  | .signalDelivered => h.signalDelivered

/-- The steps, none of which throws. -/
def step (h : Host) (e : Event) : Except Empty Host := .ok (h.next e)

end Host

end LanProxyGateway
