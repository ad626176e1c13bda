import LanProxyGateway.V2raynManager.Supervision

/-!
# Is an exit ever lost?

The handler of `SIGCHLD` sets `m_child_exited`, and `check_child_exit` looks for an exited child
only when the flag is set. The poll takes three steps on what it shares with the handler: it
exchanges the flag for `false`, it waits for one child at most, and where there was one it stores
`false` into the flag once more. `Watch` is the host with a poll that may be between two of these
steps, and with children that have exited and are yet to raise the signal; taken without anything in
between the steps are those of the supervisor (`poll_eq`, `exit_eq`).

The child that the poll has waited for may be any child, and the exit of v2ray may come, and its
signal be handled, before the last step. The second store then forgets an exit that nobody has
looked at. `along_iff_attentive` says that this is the only way to lose one: an exit is lost exactly
when the flag is cleared for the second time while v2ray is waited for by nobody.
-/

open Foundation

namespace LanProxyGateway

/-- How far a poll has come. -/
inductive PollPhase
  | idle
  /-- The flag was set, and has been exchanged for `false`. -/
  | exchanged
  /-- A child has been waited for, and the flag is still to be cleared. -/
  | reaped
  deriving DecidableEq, Repr

/-- The host while a poll may be under way. -/
structure Watch where
  host : Host
  phase : PollPhase := .idle
  /-- The exits that have not raised their signal yet. -/
  owed : ℕ := 0

namespace Watch

/-! ## The steps of a poll -/

/-- `m_child_exited.exchange(false)`. -/
def exchange (w : Watch) : Watch :=
  match w.phase with
  | .idle => if w.host.process.childExited
      then { w with
        host := { w.host with process := { w.host.process with childExited := false } }
        phase := .exchanged }
      else w
  | _ => w

/-- `waitpid(-1, &status, WNOHANG)`, and the return where it finds no child. -/
def wait (w : Watch) (pick : ℕ) : Watch :=
  match w.phase with
  | .exchanged =>
    match w.host.waitAny pick with
    | none => { w with phase := .idle }
    | some c => { w with
        host := { w.host with children := w.host.children.filter fun d ↦ d.pid != c.pid }
        phase := .reaped }
  | _ => w

/-- The rest of `on_child_exit` behind the second store. -/
def afterReap (h : Host) (now : SteadyTime) (fork : Option ℕ) : Host :=
  if h.process.stopping = true ∨ h.process.status ≠ .running then
    { h with process := { h.process with pid := 0 } }
  else
    let p := Host.restartWindow
      { h.process with pid := 0, crashCount := h.process.crashCount + 1 } now
    if 3 ≤ p.crashCount then { h with process := { p with status := .failed } }
    else Host.doStart { h with process := p } fork

/-- `m_child_exited.store(false)`, and what follows it. -/
def clear (w : Watch) (now : SteadyTime) (fork : Option ℕ) : Watch :=
  match w.phase with
  | .reaped => { w with
      host :=
        afterReap { w.host with process := { w.host.process with childExited := false } } now fork
      phase := .idle }
  | _ => w

/-- A poll that nothing gets in between of is the one of the supervisor. -/
theorem poll_eq (h : Host) (now : SteadyTime) (pick : ℕ) (fork : Option ℕ) :
    ((exchange { host := h }).wait pick).clear now fork =
      { host := h.checkChildExit now pick fork } := by
  rw [exchange, Host.checkChildExit]
  dsimp only
  split
  · rw [wait, Host.onChildExit]
    dsimp only
    rcases hw : Host.waitAny _ pick with _ | c
    · rfl
    · rfl
  · rfl

/-! ## The steps of the system -/

/-- A child exits and becomes a zombie. -/
def childExits (w : Watch) (pid : ℕ) : Watch :=
  if w.host.children.any fun c ↦ c.pid == pid && !c.exited then
    { w with
      host := { w.host with
        children := w.host.children.map fun c ↦
          if c.pid = pid then { c with exited := true } else c }
      owed := w.owed + 1 }
  else w

/-- One of the exits raises the signal, which may be pending already. -/
def raise (w : Watch) : Watch :=
  if 0 < w.owed then { w with host := { w.host with signalPending := true }, owed := w.owed - 1 }
  else w

/-- An exit that raises its signal at once is the one of the supervisor. -/
theorem exit_eq (h : Host) (pid : ℕ) :
    (childExits { host := h } pid).raise = { host := h.childExits pid } := by
  rw [childExits, Host.childExits]
  dsimp only
  split <;> rfl

/-- What can happen next: a child comes, exits, raises its signal or is waited for by its `pclose`,
a signal arrives, or a poll goes on. -/
inductive Event
  | childExits (pid : ℕ)
  | raise
  | otherSpawned (pid : ℕ)
  | otherReaped (pid : ℕ)
  | signalDelivered
  | exchange
  | wait (pick : ℕ)
  | clear (now : SteadyTime) (fork : Option ℕ)

def next (w : Watch) : Event → Watch
  | .childExits pid => w.childExits pid
  | .raise => w.raise
  | .otherSpawned pid => { w with host := w.host.otherSpawned pid }
  | .otherReaped pid => { w with host := w.host.otherReaped pid }
  | .signalDelivered => { w with host := w.host.signalDelivered }
  | .exchange => w.exchange
  | .wait pick => w.wait pick
  | .clear now fork => w.clear now fork

/-- The steps, none of which throws. -/
def step (w : Watch) (e : Event) : Except Empty Watch := .ok (w.next e)

/-! ## Exits that are not lost -/

/-- v2ray has exited, and nobody has waited for it. -/
def Unreaped (children : List Child) : Prop := ∃ c ∈ children, c.isV2ray = true ∧ c.exited = true

/-- No signal is on its way. -/
def Calm (w : Watch) : Prop := w.owed = 0 ∧ w.host.signalPending = false

/-- Between polls and with all signals handled, the flag says that v2ray has exited. -/
def Attentive (w : Watch) : Prop :=
  w.phase = .idle → w.Calm → Unreaped w.host.children → w.host.process.childExited = true

/-- The flag is cleared behind a `waitpid` while v2ray is waited for by nobody, and no signal will
set it again. -/
def ClearsOver (w : Watch) (e : Event) : Prop :=
  (∃ now fork, e = .clear now fork) ∧ w.phase = .reaped ∧ w.Calm ∧ Unreaped w.host.children

/-- The invariant: the handler is in place. -/
structure Watching (w : Watch) : Prop where
  handler : w.host.handlerInstalled = true
  attentive : w.Attentive

/-- What follows the second store is none of the children's business, nor of the flag's. -/
theorem afterReap_eq (h : Host) (now : SteadyTime) (fork : Option ℕ) : ∃ p : V2raynProcess,
    p.childExited = h.process.childExited ∧ afterReap h now fork = { h with process := p } := by
  rw [afterReap]
  split
  · exact ⟨{ h.process with pid := 0 }, rfl, rfl⟩
  · rename_i hgoes
    rw [not_or, not_not] at hgoes
    obtain ⟨n, start, hwindow⟩ := Host.exists_restartWindow_eq
      { h.process with pid := 0, crashCount := h.process.crashCount + 1 } now
    rw [hwindow]
    dsimp only
    split
    · exact ⟨{ h.process with
        pid := 0, crashCount := n, crashWindowStart := start, status := .failed }, rfl, rfl⟩
    · -- the status is `running`, so `do_start` starts nothing
      rw [Host.doStart]
      dsimp only
      rw [if_pos hgoes.2]
      exact ⟨{ h.process with pid := 0, crashCount := n, crashWindowStart := start }, rfl, rfl⟩

variable {w : Watch} {e : Event}

/-- While a poll is under way nothing is asked. -/
theorem Watching.of_phase (hhandler : w.host.handlerInstalled = true) (hphase : w.phase ≠ .idle) :
    w.Watching :=
  ⟨hhandler, fun hidle ↦ absurd hidle hphase⟩

/-- An exit that somebody has not waited for was there before, or owes its signal. -/
theorem Watching.childExits (hw : w.Watching) (pid : ℕ) : (w.childExits pid).Watching := by
  rw [Watch.childExits]
  split
  · exact ⟨hw.handler, fun _ hcalm ↦ absurd hcalm.1 (Nat.succ_ne_zero w.owed)⟩
  · exact hw

theorem Watching.raise (hw : w.Watching) : w.raise.Watching := by
  rw [Watch.raise]
  split
  · exact ⟨hw.handler, fun _ hcalm ↦ absurd hcalm.2 Bool.true_eq_false.mp⟩
  · exact hw

/-- Fewer exits to look at, or as many. -/
theorem Watching.of_children (hw : w.Watching) {children : List Child}
    (hsub : Unreaped children → Unreaped w.host.children) :
    Watching { w with host := { w.host with children := children } } :=
  ⟨hw.handler, fun hidle hcalm hun ↦ hw.attentive hidle hcalm (hsub hun)⟩

theorem Watching.otherSpawned (hw : w.Watching) (pid : ℕ) :
    Watching { w with host := w.host.otherSpawned pid } := by
  rw [Host.otherSpawned]
  split
  · apply hw.of_children
    rintro ⟨c, hc, hv2ray, hexited⟩
    rcases List.mem_cons.mp hc with rfl | hc
    · exact absurd hv2ray Bool.false_ne_true
    · exact ⟨c, hc, hv2ray, hexited⟩
  · exact hw

theorem Watching.otherReaped (hw : w.Watching) (pid : ℕ) :
    Watching { w with host := w.host.otherReaped pid } := by
  apply hw.of_children
  rintro ⟨c, hc, hexited⟩
  exact ⟨c, List.mem_of_mem_filter hc, hexited⟩

theorem Watching.signalDelivered (hw : w.Watching) :
    Watching { w with host := w.host.signalDelivered } := by
  refine ⟨hw.handler, fun hidle hcalm hun ↦ ?_⟩
  show (w.host.process.childExited || w.host.signalPending && w.host.handlerInstalled) = true
  -- a pending signal sets the flag; without one nothing has changed
  rcases hsignal : w.host.signalPending with _ | _
  · rw [hw.attentive hidle ⟨hcalm.1, hsignal⟩ hun, Bool.true_or]
  · rw [hw.handler, Bool.true_and, Bool.or_true]

theorem Watching.exchange (hw : w.Watching) : w.exchange.Watching := by
  rw [Watch.exchange]
  split
  · split
    · exact .of_phase hw.handler PollPhase.noConfusion
    · exact hw
  · exact hw

/-- A `waitpid` that finds no child leaves none to be looked for. -/
theorem Watching.wait (hw : w.Watching) (pick : ℕ) : (w.wait pick).Watching := by
  rw [Watch.wait]
  split
  · rcases hwait : w.host.waitAny pick with _ | c
    · refine ⟨hw.handler, fun _ _ hun ↦ ?_⟩
      obtain ⟨c, hc, -, hexited⟩ := hun
      rw [Host.waitAny, Option.or_eq_none_iff, List.find?_eq_none, List.find?_eq_none] at hwait
      exact absurd hexited (hwait.2 c hc)
    · exact .of_phase hw.handler PollPhase.noConfusion
  · exact hw

theorem Watching.clear (hw : w.Watching) {now : SteadyTime} {fork : Option ℕ}
    (hc : ¬w.ClearsOver (.clear now fork)) : (w.clear now fork).Watching := by
  rw [Watch.clear]
  split
  -- what is left to ask for after the clear is what the condition excludes
  · rename_i hphase
    obtain ⟨p, hflag, hafter⟩ := afterReap_eq
      { w.host with process := { w.host.process with childExited := false } } now fork
    rw [hafter]
    refine ⟨hw.handler, fun _ hcalm hun ↦ ?_⟩
    exact absurd ⟨⟨now, fork, rfl⟩, hphase, hcalm, hun⟩ hc
  · exact hw

/-- **One step.** -/
theorem Watching.next (hw : w.Watching) (hc : ¬w.ClearsOver e) : (w.next e).Watching := by
  cases e with
  | childExits pid => exact hw.childExits pid
  | raise => exact hw.raise
  | otherSpawned pid => exact hw.otherSpawned pid
  | otherReaped pid => exact hw.otherReaped pid
  | signalDelivered => exact hw.signalDelivered
  | exchange => exact hw.exchange
  | wait pick => exact hw.wait pick
  | clear now fork => exact hw.clear hc

/-- Clearing the flag over an exit loses it. -/
theorem ClearsOver.not_attentive (hc : w.ClearsOver e) : ¬(w.next e).Attentive := by
  obtain ⟨⟨now, fork, rfl⟩, hphase, hcalm, hun⟩ := hc
  obtain ⟨p, hflag, hafter⟩ := afterReap_eq
    { w.host with process := { w.host.process with childExited := false } } now fork
  intro hattentive
  rw [Watch.next, Watch.clear, hphase] at hattentive
  dsimp only at hattentive
  rw [hafter] at hattentive
  have hset : p.childExited = true := hattentive rfl hcalm hun
  rw [hflag] at hset
  cases hset

/-- **When an exit is lost.** From a host with the handler in place and no exit of v2ray to look
for, no exit is lost in any state of a run exactly when the flag is never cleared behind a `waitpid`
while v2ray is waited for by nobody and no signal is on its way. -/
theorem along_iff_attentive {w₀ : Watch} (hhandler : w₀.host.handlerInstalled = true)
    (halive : ¬Unreaped w₀.host.children) (es : List Event) :
    Along step (fun w e ↦ ¬w.ClearsOver e) w₀ es ↔ Throughout step Attentive w₀ es := by
  have hinit : w₀.Watching := ⟨hhandler, fun _ _ hun ↦ absurd hun halive⟩
  refine along_iff_throughout (I := Watching) (fun w hw ↦ hw.attentive) ?_ ?_ hinit
  · rintro w e t hw hc ht
    obtain rfl := Except.ok.inj ht
    exact hw.next hc
  · intro w e _ hc
    exact ⟨w.next e, rfl, (not_not.mp hc).not_attentive⟩

/-- v2ray and one `python3` are running. -/
def sampleWatch : Watch where
  host := {
    process := { status := .running, pid := 7 }
    children := [⟨7, true, false⟩, ⟨9, false, false⟩]
    handlerInstalled := true }

theorem sampleWatch_not_unreaped : ¬Unreaped sampleWatch.host.children := by
  rintro ⟨c, hc, -, hexited⟩
  rcases List.mem_pair.mp hc with rfl | rfl
  · cases hexited
  · cases hexited

/-- v2ray exits and is found by the next poll. -/
def seenRun : List Event :=
  [.childExits 7, .raise, .signalDelivered, .exchange, .wait 7, .clear 0 none]

theorem seenRun_attentive : Throughout step Attentive sampleWatch seenRun := by
  refine (along_iff_attentive rfl sampleWatch_not_unreaped seenRun).mp ?_
  apply along_of_getElem?
  rintro n e he t ht ⟨⟨now, fork, rfl⟩, -, -, c, hc, hv2ray, -⟩
  rcases n with _ | _ | _ | _ | _ | _ | n <;> cases he
  -- by then v2ray has been waited for
  cases ht
  rw [List.mem_singleton.mp hc] at hv2ray
  cases hv2ray

/-- Both exit before the poll, and `waitpid` returns the other child. -/
def lostRun : List Event :=
  [.childExits 9, .childExits 7, .raise, .raise, .signalDelivered, .exchange, .wait 9,
    .clear 0 none]

/-- v2ray has exited, nobody has waited for it, and nothing says so. -/
theorem lostRun_not_attentive : ∃ w, run step sampleWatch lostRun = .ok w ∧ w.phase = .idle ∧
    w.Calm ∧ w.host.children = [⟨7, true, true⟩] ∧ w.host.process.childExited = false ∧
    ¬w.Attentive := by
  refine ⟨_, rfl, rfl, ⟨rfl, rfl⟩, rfl, rfl, fun hattentive ↦ ?_⟩
  have hset := hattentive rfl ⟨rfl, rfl⟩ ⟨⟨7, true, true⟩, List.mem_singleton_self _, rfl, rfl⟩
  exact absurd hset (by decide)

end Watch

end LanProxyGateway
