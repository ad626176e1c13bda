import LanProxyGateway.V2raynManager.Supervision

/-!
# Is v2ray restarted?

When v2ray exits and nobody has asked it to, `on_child_exit` is meant to start it again, and to give
up at the third exit within five minutes. `Policy` says what should come of one exit, with a fork
that succeeds, and `KeepsPolicy` asks it of every exit in a sequence of them.

The restart goes through `do_start`, which returns at once where the status is `running`, and
`on_child_exit` has come that far only because it is. So no exit is ever followed by a new child
(`not_restarts`), there are no more exits than there were children to begin with
(`length_le_of_crashes`), and the policy is kept only where v2ray never exits (`keepsPolicy_iff`).
-/

open Foundation

namespace LanProxyGateway

namespace Host

/-! ## Exits -/

/-- v2ray exits by itself, a poll at `now` reaps it, and a fork would return `fork`. -/
structure Crash where
  pid : ℕ
  now : SteadyTime
  fork : ℕ
  deriving DecidableEq, Repr

/-- The exit, the signal it raises, and the poll. -/
def crash (h : Host) (c : Crash) : Host :=
  (h.childExits c.pid).signalDelivered.checkChildExit c.now c.pid (some c.fork)

def crashStep (h : Host) (c : Crash) : Except Empty Host := .ok (h.crash c)

/-- The child is v2ray, which should be running, and its pid or one that nobody has is free for the
next child. -/
structure Unexpected (h : Host) (c : Crash) : Prop where
  running : h.process.status = .running
  stopping : h.process.stopping = false
  handler : h.handlerInstalled = true
  alive : ⟨c.pid, true, false⟩ ∈ h.children
  fork_pos : 0 < c.fork
  fork_free : ∀ d ∈ h.children, d.pid = c.fork → d.pid = c.pid

/-- The children without the one that has exited. -/
def survivors (h : Host) (c : Crash) : List Child := h.children.filter fun d ↦ d.pid != c.pid

/-! ## The policy -/

/-- The exit comes less than five minutes after the second exit before it. -/
def TooMany (earlier : List SteadyTime) (now : SteadyTime) : Prop :=
  ∃ pre a b, earlier = pre ++ [a, b] ∧ now - a < 300000000000

/-- A new child takes the place of the old one. -/
structure Restarts (h : Host) (c : Crash) (t : Host) : Prop where
  status : t.process.status = .running
  pid : t.process.pid = c.fork
  children : t.children = ⟨c.fork, true, false⟩ :: h.survivors c

/-- Nothing takes the place of the old one. -/
structure GivesUp (h : Host) (c : Crash) (t : Host) : Prop where
  status : t.process.status = .failed
  children : t.children = h.survivors c

/-- What should come of an exit after exits at the times `earlier`. -/
structure Policy (earlier : List SteadyTime) (h : Host) (c : Crash) : Prop where
  gives_up : TooMany earlier c.now → GivesUp h c (h.crash c)
  restarts : ¬TooMany earlier c.now → Restarts h c (h.crash c)

/-- Every exit of the sequence is treated as it should be. -/
def KeepsPolicy (h₀ : Host) (cs : List Crash) : Prop :=
  ∀ pre c, pre ++ [c] <+: cs → ∀ h, run crashStep h₀ pre = .ok h →
    Policy (pre.map Crash.now) h c

/-- Fewer than two exits are not too many. -/
theorem not_tooMany_nil (now : SteadyTime) : ¬TooMany [] now := by
  rintro ⟨pre, a, b, h, -⟩
  exact List.append_ne_nil_of_right_ne_nil pre (List.cons_ne_nil a [b]) h.symm

/-! ## What the code does -/

variable {h : Host} {c : Crash}

/-- The exited child is gone, whatever else is known about it. -/
theorem filter_map_exited (children : List Child) (pid : ℕ) :
    (children.map fun d ↦ if d.pid = pid then { d with exited := true } else d).filter
      (fun d ↦ d.pid != pid) = children.filter fun d ↦ d.pid != pid := by
  induction children with
  | nil => rfl
  | cons d children ih =>
    rw [List.map_cons, List.filter_cons, List.filter_cons, ih]
    by_cases hd : d.pid = pid
    · simp [hd]
    · rw [if_neg hd]

/-- The poll finds the child that has exited. -/
theorem waitAny_of_exited {pid : ℕ} (hex : ∃ d ∈ h.children, d.exited = true ∧ d.pid = pid) :
    ∃ d, h.waitAny pid = some d ∧ d.pid = pid := by
  obtain ⟨d, hd, hexited, hpid⟩ := hex
  rcases hf : h.children.find? fun d ↦ d.exited && d.pid == pid with _ | e
  · rw [List.find?_eq_none] at hf
    refine absurd ?_ (hf d hd)
    rw [hexited, hpid, Bool.true_and, beq_self_eq_true]
  · have he := List.find?_some hf
    rw [Bool.and_eq_true, beq_iff_eq] at he
    refine ⟨e, ?_, he.2⟩
    rw [waitAny, hf, Option.some_or]

/-- **What comes of an exit.** The child is reaped, and that is all: the status stays, or is
`failed` from the third count on. -/
theorem crash_eq (hc : h.Unexpected c) :
    (h.crash c).children = h.survivors c ∧ (h.crash c).process.pid = 0 ∧
      ((h.crash c).process.status = .running ∨ (h.crash c).process.status = .failed) := by
  have hany : (h.children.any fun d ↦ d.pid == c.pid && !d.exited) = true :=
    List.any_eq_true.mpr ⟨_, hc.alive, by simp⟩
  have hflag : (h.process.childExited || true && h.handlerInstalled) = true := by
    rw [hc.handler, Bool.true_and, Bool.or_true]
  have hmem : ∃ d ∈ h.children.map fun d ↦ if d.pid = c.pid then { d with exited := true } else d,
      d.exited = true ∧ d.pid = c.pid := by
    refine ⟨_, List.mem_map_of_mem hc.alive, ?_⟩
    rw [if_pos rfl]
    exact ⟨rfl, rfl⟩
  rw [crash, childExits, if_pos hany, signalDelivered, checkChildExit]
  dsimp only
  rw [if_pos hflag, onChildExit]
  obtain ⟨d, hd, hpid⟩ := waitAny_of_exited (h := { h with
    process := { h.process with childExited := false }
    children := h.children.map fun d ↦ if d.pid = c.pid then { d with exited := true } else d
    signalPending := false }) hmem
  rw [hd]
  have hgoes : ¬(h.process.stopping = true ∨ h.process.status ≠ .running) := by
    rw [hc.stopping, hc.running]
    simp
  dsimp only
  rw [if_neg hgoes, hpid]
  obtain ⟨n, start, hwindow⟩ := exists_restartWindow_eq
    { h.process with
      childExited := false, pid := 0, crashCount := h.process.crashCount + 1 } c.now
  rw [hwindow]
  split
  · exact ⟨filter_map_exited _ _, rfl, .inr rfl⟩
  · -- `do_start` finds the status that the restart should have cleared
    rw [Host.doStart]
    dsimp only
    rw [if_pos hc.running]
    exact ⟨filter_map_exited _ _, rfl, .inl hc.running⟩

/-- **Nothing is restarted.** No exit is followed by a new child. -/
theorem not_restarts (hc : h.Unexpected c) : ¬Restarts h c (h.crash c) := by
  intro hr
  have hpid := hr.pid
  rw [(crash_eq hc).2.1] at hpid
  exact hc.fork_pos.ne hpid

/-! ## Sequences of exits -/

/-- There are no more exits than there were children to begin with. -/
theorem length_le_of_crashes {cs : List Crash} : ∀ {h₀ : Host}, Along crashStep Unexpected h₀ cs →
    cs.length ≤ (v2rayPids h₀.children).length := by
  induction cs with
  | nil => exact fun _ ↦ Nat.zero_le _
  | cons c cs ih =>
    rintro h₀ ⟨hc, hrest⟩
    have hle := ih (hrest _ rfl)
    have hmem : c.pid ∈ v2rayPids h₀.children :=
      List.mem_map_of_mem (f := Child.pid) (List.mem_filter.mpr ⟨hc.alive, rfl⟩)
    have hpids : v2rayPids (h₀.crash c).children =
        (v2rayPids h₀.children).filter fun pid ↦ pid != c.pid := by
      rw [(crash_eq hc).1]
      exact v2rayPids_filter_pid (· != c.pid) _
    rw [hpids] at hle
    -- the pid of the exited child is not among those that are left
    have hlt : ((v2rayPids h₀.children).filter fun pid ↦ pid != c.pid).length <
        (v2rayPids h₀.children).length := by
      refine List.length_filter_lt_length_iff_exists.mpr ⟨c.pid, hmem, ?_⟩
      simp
    rw [List.length_cons]
    exact hle.trans_lt hlt

/-- **The policy is kept only where v2ray never exits.** For every sequence of unexpected exits,
each followed by a poll that reaps it and each with a fork that would succeed. -/
theorem keepsPolicy_iff {h₀ : Host} {cs : List Crash} (hcs : Along crashStep Unexpected h₀ cs) :
    KeepsPolicy h₀ cs ↔ cs = [] := by
  constructor
  · intro hkeeps
    rcases cs with _ | ⟨c, cs⟩
    -- the first exit is not one too many, and nothing is restarted after it
    · rfl
    · have hfirst := hkeeps [] c (List.cons_prefix_cons.mpr ⟨rfl, List.nil_prefix⟩) h₀ rfl
      exact absurd (hfirst.restarts (not_tooMany_nil c.now)) (not_restarts hcs.1)
  · rintro rfl pre c hpre
    exact absurd (List.prefix_nil.mp hpre) (List.append_ne_nil_of_right_ne_nil pre (by simp))

/-- v2ray has just been started. -/
def startedHost : Host := ({} : Host).start [] [] [] (some 7)

/-- It exits, and the pid 8 is free. -/
def firstCrash : Crash := ⟨7, 0, 8⟩

theorem startedHost_unexpected : Along crashStep Unexpected startedHost [firstCrash] :=
  ⟨⟨rfl, rfl, rfl, by decide, by decide, by decide⟩, fun _ _ ↦ trivial⟩

theorem startedHost_keepsPolicy_iff : KeepsPolicy startedHost [firstCrash] ↔ [firstCrash] = [] :=
  keepsPolicy_iff startedHost_unexpected

/-- It exits for the first time and is not started again. -/
theorem startedHost_not_keepsPolicy :
    Along crashStep Unexpected startedHost [firstCrash] ∧
      (startedHost.crash firstCrash).process.status = .running ∧
      (startedHost.crash firstCrash).children = [] ∧ ¬KeepsPolicy startedHost [firstCrash] := by
  refine ⟨startedHost_unexpected, rfl, rfl, fun hkeeps ↦ ?_⟩
  have hfirst := hkeeps [] _ (List.prefix_refl _) startedHost rfl
  have hrestarts := hfirst.restarts (not_tooMany_nil _)
  exact absurd hrestarts.children (by decide)

end Host

end LanProxyGateway
