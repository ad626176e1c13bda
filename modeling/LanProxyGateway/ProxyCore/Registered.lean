import LanProxyGateway.Concurrency.TimeoutScanner
import LanProxyGateway.ProxyCore.Frame
import LanProxyGateway.ProxyCore.Slots

/-!
# Does the registry list the live sessions?

A session enters the registry when it is let in and leaves it when it is closed. The timeout scanner
runs beside the sessions: it takes a list of candidates, and for each whose time is over it calls
the callback of `main`, which takes the id out of the registry and does nothing to the session.
`Listed` says that the registry lists the ids of the live sessions and no others.

The sessions alone keep it, as long as nobody draws an id that is in use. A report of a session that
is still live breaks it at once (`not_listed_of_reportsLive`): the session goes on, with its sockets
and its slot, and is on no list. A report of a session that has been closed in the meantime does no
harm.
-/

open Foundation ByteString

namespace LanProxyGateway

/-! ## The sessions with the scanner -/

/-- A round of `scan_loop`: its time and the candidates it has not looked at. -/
structure Scan where
  now : SteadyTime
  candidates : List ConnectionRecord

/-- The sessions, and the scan that is under way. -/
structure Watched where
  world : World := {}
  scan : Option Scan := none

inductive WatchedEvent
  | session (e : Event)
  /-- The scanner gets its list, at the time `listed` and in some order, and takes its own time. -/
  | beginScan (listed now : SteadyTime) (candidates : List ConnectionRecord)
  /-- It looks at the next candidate. Before `main` has installed the callback nothing is
  reported. -/
  | examine (installed : Bool)

namespace Watched

variable (scanner : TimeoutScanner)

/-- The id that a look at the next candidate reports. -/
def reported (m : Watched) (installed : Bool) : Option ByteString :=
  match m.scan with
  | some ⟨now, record :: _⟩ =>
    if installed ∧ (scanner.verdict now record).isSome then some record.sessionId else none
  | _ => none

/-- The list is taken when no scan is under way, and holds the candidates in any order. -/
def beginScan (m : Watched) (listed now : SteadyTime) (candidates : List ConnectionRecord) :
    Watched :=
  if m.scan.isNone ∧ (m.world.gateway.registry.getTimeoutCandidates listed).Perm candidates then
    { m with scan := some ⟨now, candidates⟩ }
  else m

def examine (m : Watched) (installed : Bool) : Watched where
  world := match m.reported scanner installed with
    | some id => { m.world with gateway := { m.world.gateway with
        registry := timeoutCallback m.world.gateway.registry id } }
    | none => m.world
  scan := match m.scan with
    | some ⟨now, _ :: candidates⟩ => some ⟨now, candidates⟩
    | _ => none

def step (m : Watched) : WatchedEvent → Except CxxException Watched
  | .session e => (m.world.step e).map fun w ↦ { m with world := w }
  | .beginScan listed now candidates => .ok (m.beginScan listed now candidates)
  | .examine installed => .ok (m.examine scanner installed)

end Watched

/-! ## The invariant -/

/-- The session is live or will still run a handler. -/
def Session.IsAround (s : Session) : Prop := s.isLive = true ∨ s.pending ≠ []

namespace World

/-- The registry lists the ids of the live sessions. -/
def Listed (w : World) : Prop :=
  ∀ id, w.gateway.registry.Lists id ↔ ∃ s ∈ w.sessions, s.isLive = true ∧ s.sessionId.bytes = id

/-- A client gets an id that a session has which is still around. -/
def ReusesId (w : World) : Event → Prop
  | .start _ a => ∃ s ∈ w.sessions, s.IsAround ∧ s.sessionId.bytes = a.sessionId.bytes
  | .complete .. => False

/-- Two sessions do not share an id while both are around. -/
def Distinct (s t : Session) : Prop := s.IsAround → t.IsAround →
    s.sessionId.bytes ≠ t.sessionId.bytes

theorem Distinct.symm {s t : Session} (h : Distinct s t) : Distinct t s :=
  fun ht hs he ↦ h hs ht he.symm

/-- Sessions that are around have different ids, and the registry lists the live ones. -/
structure Registered (w : World) : Prop where
  orderly : ∀ s ∈ w.sessions, s.Orderly
  distinct : w.sessions.Pairwise Distinct
  listed : w.Listed

variable {w t : World} {e : Event}

/-- What `start` makes of a session: it is live and listed, or gone and not listed. -/
theorem around_of_begins {l : Ledger} {a : Arrival} {g : Gateway} {t : Ctx}
    (h : Session.Started l t) (hbegins : Session.Begins ⟨a.session, g⟩ t) :
    t.self.sessionId = a.sessionId ∧
      (t.self.isLive = true ∧
          (∀ id, t.gateway.registry.Lists id ↔ id = a.sessionId.bytes ∨ g.registry.Lists id) ∨
        ¬t.self.IsAround ∧
          ∀ id, t.gateway.registry.Lists id ↔ id ≠ a.sessionId.bytes ∧ g.registry.Lists id) := by
  have hlet : ∀ {result}, Session.LetIn t result → t.self.isOpen = true ∧ t.self.isLive = true := by
    intro result ht
    refine ⟨ht.isOpen, ?_⟩
    rw [Session.isLive, ht.admitted, ht.isOpen]
    rfl
  have hturned : ∀ {calls}, Session.TurnedAway t calls →
      t.self.isOpen = false ∧ ¬t.self.IsAround := by
    intro calls ht
    refine ⟨ht.isOpen, ?_⟩
    rw [Session.IsAround, Session.isLive, ht.isOpen, Bool.and_false, ht.pending]
    rintro (h | h)
    · exact Bool.false_ne_true h
    · exact h rfl
  have hcases : t.self.isOpen = true ∧ t.self.isLive = true ∨
      t.self.isOpen = false ∧ ¬t.self.IsAround := by
    rcases h with ⟨ht, -⟩ | ⟨_, ht, -⟩ | ⟨ht, -⟩ | ⟨_, -, ht, -⟩
    · exact .inr (hturned ht)
    · exact .inr (hturned ht)
    · exact .inl (hlet ht)
    · exact .inl (hlet ht)
  rcases hbegins with ⟨hu, hopen, -, hlists⟩ | hclosed
  · refine ⟨hu.sessionId, .inl ⟨?_, hlists⟩⟩
    rcases hcases with ⟨-, hlive⟩ | ⟨hclosed, -⟩
    · exact hlive
    · rw [hopen] at hclosed
      cases hclosed
  · refine ⟨hclosed.unmoved.sessionId, .inr ⟨?_, hclosed.lists⟩⟩
    rcases hcases with ⟨hopen, -⟩ | ⟨-, hgone⟩
    · rw [hclosed.isOpen] at hopen
      cases hopen
    · exact hgone

theorem Registered.start (hw : w.Registered) {env : Environment} {a : Arrival}
    (hid : ¬ReusesId w (.start env a)) {t : Ctx} (h : Session.Started w.gateway.ledger t)
    (hbegins : Session.Begins ⟨a.session, w.gateway⟩ t) :
    Registered ⟨t.gateway, w.sessions ++ [t.self]⟩ := by
  obtain ⟨hsame, hcases⟩ := around_of_begins h hbegins
  have hfresh : ∀ s ∈ w.sessions, s.IsAround → s.sessionId.bytes ≠ a.sessionId.bytes :=
    fun s hs haround he ↦ hid ⟨s, hs, haround, he⟩
  refine ⟨?_, ?_, fun id ↦ ?_⟩
  · refine List.forall_mem_append.mpr ⟨hw.orderly, fun s hs ↦ ?_⟩
    rw [List.mem_singleton.mp hs]
    exact Session.orderly_of_started h
  · refine List.pairwise_append.mpr ⟨hw.distinct, List.pairwise_singleton _ _, fun s hs u hu ↦ ?_⟩
    rw [List.mem_singleton.mp hu]
    intro haround _
    rw [hsame]
    exact hfresh s hs haround
  · have hex : (∃ s ∈ w.sessions ++ [t.self], s.isLive = true ∧ s.sessionId.bytes = id) ↔
        w.gateway.registry.Lists id ∨ t.self.isLive = true ∧ id = a.sessionId.bytes := by
      rw [hw.listed id, ← hsame]
      simp only [List.mem_append, List.mem_singleton, or_and_right, exists_or, exists_eq_left,
        eq_comm]
    rw [hex]
    rcases hcases with ⟨hlive, hlists⟩ | ⟨hgone, hlists⟩
    · rw [hlists id, or_comm]
      simp only [hlive, true_and]
    · have hdead : ¬t.self.isLive = true := fun hlive ↦ hgone (.inl hlive)
      have hnone : ¬w.gateway.registry.Lists a.sessionId.bytes := by
        intro hlists
        obtain ⟨s, hs, hlive, he⟩ := (hw.listed _).mp hlists
        exact hfresh s hs (.inl hlive) he
      rw [hlists id]
      constructor
      · exact fun h ↦ .inl h.2
      · rintro (hl | ⟨hlive, -⟩)
        · exact ⟨fun he ↦ hnone (he ▸ hl), hl⟩
        · exact absurd hlive hdead

/-- What a handler makes of a session: it lives on and the list stays, or it is closed and off the
list. -/
theorem lists_of_handles {env : Environment} {s : Session} {g : Gateway} {k : ℕ} {p : Pending}
    {c : Completion} {t : Ctx} (h : Session.Handles env s g k p c t)
    (hadmitted : t.self.admitted = s.admitted) :
    t.self.sessionId = s.sessionId ∧
      (t.self.isLive = s.isLive ∧ (∀ id, t.gateway.registry.Lists id ↔ g.registry.Lists id) ∨
        t.self.isLive = false ∧
          ∀ id, t.gateway.registry.Lists id ↔ id ≠ s.sessionId.bytes ∧ g.registry.Lists id) := by
  have hlive : t.self.isOpen = s.isOpen → t.self.isLive = s.isLive := by
    intro hopen
    rw [Session.isLive, Session.isLive, hadmitted, hopen]
  rcases h.turns with (hquiet | hclosed) | ⟨r, chunk, -, -, hroutes, -⟩
  · exact ⟨hquiet.unmoved.sessionId, .inl ⟨hlive hquiet.isOpen, hquiet.lists⟩⟩
  · refine ⟨hclosed.unmoved.sessionId, .inr ⟨?_, hclosed.lists⟩⟩
    rw [Session.isLive, hclosed.isOpen, Bool.and_false]
  · exact ⟨hroutes.sessionId, .inl ⟨hlive hroutes.isOpen, hroutes.lists⟩⟩

theorem Registered.react (hw : w.Registered) {i k : ℕ} {c : Completion} {env : Environment}
    {s : Session} {p : Pending} {t : Ctx} {calls : List Call} {ops : List Pending}
    (hs : w.sessions[i]? = some s) (hp : s.pending[k]? = some p)
    (h : Session.Yields env (Reaction env s.clientBuffer s.username p c)
      ⟨s.resume k p c, w.gateway⟩ t
      calls ops)
    (hhandles : Session.Handles env s w.gateway k p c t) :
    Registered ⟨t.gateway, w.sessions.set i t.self⟩ := by
  obtain ⟨hi, hget⟩ := List.getElem?_eq_some_iff.mp hs
  have hmem : s ∈ w.sessions := List.mem_of_getElem? hs
  have horderly : t.self.Orderly := (hw.orderly s hmem).react hp h
  obtain ⟨hsame, hcases⟩ := lists_of_handles hhandles h.admitted
  -- the session stands to the others as it did, since it was around
  obtain ⟨hrest, hothers⟩ := pairwise_eraseIdx Distinct.symm hw.distinct hs
  have haround : s.IsAround := .inr (List.ne_nil_of_mem (List.mem_of_getElem? hp))
  have hperm := List.set_perm_cons_eraseIdx hi t.self
  have hperm₀ := List.getElem_cons_eraseIdx_perm hi
  rw [hget] at hperm₀
  refine ⟨?_, ?_, fun id ↦ ?_⟩
  · intro u hu
    rcases List.mem_or_eq_of_mem_set hu with hu | rfl
    · exact hw.orderly u hu
    · exact horderly
  · rw [hperm.pairwise_iff Distinct.symm, List.pairwise_cons]
    refine ⟨fun u hu _ hua ↦ ?_, hrest⟩
    rw [hsame]
    exact hothers u hu haround hua
  · have hbefore : w.gateway.registry.Lists id ↔ s.isLive = true ∧ s.sessionId.bytes = id ∨
        ∃ u ∈ w.sessions.eraseIdx i, u.isLive = true ∧ u.sessionId.bytes = id := by
      rw [hw.listed id]
      simp only [← hperm₀.mem_iff, List.mem_cons, or_and_right, exists_or, exists_eq_left]
    have hafter : (∃ u ∈ w.sessions.set i t.self, u.isLive = true ∧ u.sessionId.bytes = id) ↔
        t.self.isLive = true ∧ s.sessionId.bytes = id ∨
          ∃ u ∈ w.sessions.eraseIdx i, u.isLive = true ∧ u.sessionId.bytes = id := by
      rw [← hsame]
      simp only [hperm.mem_iff, List.mem_cons, or_and_right, exists_or, exists_eq_left]
    rw [hafter]
    rcases hcases with ⟨hlive, hlists⟩ | ⟨hdead, hlists⟩
    · rw [hlists id, hlive]
      exact hbefore
    · rw [hlists id, hbefore, hdead]
      constructor
      · rintro ⟨hne, ⟨-, he⟩ | hu⟩
        · exact absurd he.symm hne
        · exact .inr hu
      · rintro (⟨hlive, -⟩ | ⟨u, hu, hlive, he⟩)
        · exact absurd hlive Bool.false_ne_true
        · refine ⟨fun hid ↦ ?_, .inr ⟨u, hu, hlive, he⟩⟩
          exact hothers u hu haround (.inl hlive) (hid.symm.trans he.symm)

/-- **The sessions keep the list**, as long as nobody draws an id that is in use. -/
theorem Registered.step (hw : w.Registered) (hid : ¬ReusesId w e) (ht : w.step e = .ok t) :
    t.Registered := by
  rcases advances_of_step ht with e | ⟨env, a, t, h, hbegins⟩ |
    ⟨i, k, c, env, t, calls, ops, hs, hp, h, hhandles⟩
  · exact hw
  · exact hw.start hid h hbegins
  · exact hw.react hs hp h hhandles

end World

namespace Watched

variable {scanner : TimeoutScanner} {m n : Watched} {e : WatchedEvent}

/-- The scanner reports the id of a session that is live. -/
def ReportsLive (scanner : TimeoutScanner) (m : Watched) : WatchedEvent → Prop
  | .examine installed => ∃ id, m.reported scanner installed = some id ∧
      ∃ s ∈ m.world.sessions, s.isLive = true ∧ s.sessionId.bytes = id
  | _ => False

/-- A client gets an id that is in use. -/
def ReusesId (m : Watched) : WatchedEvent → Prop
  | .session e => m.world.ReusesId e
  | _ => False

/-- **One step** of the sessions or of the scanner. -/
theorem registered_step (hm : m.world.Registered) (hid : ¬ReusesId m e)
    (hr : ¬ReportsLive scanner m e) (hn : m.step scanner e = .ok n) : n.world.Registered := by
  rcases e with e | ⟨listed, now, candidates⟩ | installed
  · rw [step] at hn
    rcases ht : m.world.step e with x | t
    · rw [ht] at hn
      cases hn
    · rw [ht] at hn
      obtain rfl := Except.ok.inj hn
      exact hm.step hid ht
  · obtain rfl := Except.ok.inj hn
    rw [beginScan]
    split <;> exact hm
  · obtain rfl := Except.ok.inj hn
    rw [examine]
    rcases hreported : m.reported scanner installed with _ | id
    · exact hm
    · refine ⟨hm.orderly, hm.distinct, fun id' ↦ ?_⟩
      show (m.world.gateway.registry.unregisterConnection id).Lists id' ↔
        ∃ s ∈ m.world.sessions, s.isLive = true ∧ s.sessionId.bytes = id'
      rw [ConnectionRegistry.lists_unregisterConnection, hm.listed id']
      refine and_iff_right_of_imp ?_
      rintro ⟨s, hs, hlive, he⟩ rfl
      exact hr ⟨id', hreported, s, hs, hlive, he⟩

/-- A report of a live session breaks the list. -/
theorem not_listed_of_reportsLive (hr : ReportsLive scanner m e) :
    ∃ n, m.step scanner e = .ok n ∧ ¬n.world.Listed := by
  rcases e with e | ⟨listed, now, candidates⟩ | installed
  · exact hr.elim
  · exact hr.elim
  obtain ⟨id, hreported, s, hs, hlive, he⟩ := hr
  refine ⟨_, rfl, fun hlisted ↦ ?_⟩
  rw [examine, hreported] at hlisted
  have hlists := (hlisted id).mpr ⟨s, hs, hlive, he⟩
  exact ((ConnectionRegistry.lists_unregisterConnection _ _ _).mp hlists).1 rfl

/-- **The registry lists the live sessions** all along a run from an empty proxy in which nobody
draws an id that is in use and the scanner reports no live session. -/
theorem listed_throughout {m₀ : Watched} (h₀ : m₀.world.sessions = [])
    (hregistry : m₀.world.gateway.registry.connections = ∅) {es : List WatchedEvent}
    (hc : Along (step scanner) (fun m e ↦ ¬ReusesId m e ∧ ¬ReportsLive scanner m e) m₀ es) :
    Throughout (step scanner) (fun m ↦ m.world.Listed) m₀ es := by
  have hinit : m₀.world.Registered := by
    refine ⟨?_, ?_, fun id ↦ ?_⟩
    · rw [h₀]
      exact fun s hs ↦ absurd hs List.not_mem_nil
    · rw [h₀]
      exact .nil
    · rw [h₀, ConnectionRegistry.Lists, hregistry]
      constructor
      · exact fun h ↦ absurd h (AList.notMem_empty id)
      · rintro ⟨s, hs, -⟩
        exact absurd hs List.not_mem_nil
  have hinv : ∀ m : Watched, m.world.Registered → m.world.Listed := fun m hm ↦ hm.listed
  exact hc.throughout hinv (fun m e n hm hc hn ↦ registered_step hm hc.1 hc.2 hn) hinit

/-- A client logs in while the scanner, not yet told whom to report to, looks around. -/
theorem loginRun_listed_throughout : Throughout (step {}) (fun m ↦ m.world.Listed) {}
    (loginRun.map WatchedEvent.session ++ [.beginScan 0 0 [], .examine false]) := by
  refine listed_throughout rfl rfl ⟨⟨?_, id⟩, fun _ _ ↦ ⟨⟨id, id⟩, fun _ _ ↦ ⟨⟨id, id⟩, fun _ _ ↦
    ⟨⟨id, ?_⟩, fun _ _ ↦ trivial⟩⟩⟩⟩
  · rintro ⟨s, hs, -⟩
    exact absurd hs List.not_mem_nil
  · rintro ⟨id, hreported, -⟩
    rw [reported] at hreported
    split at hreported
    · rw [if_neg fun h ↦ Bool.false_ne_true h.1] at hreported
      cases hreported
    · cases hreported

/-- The record of a client that has just connected. -/
def silentRecord : ConnectionRecord where
  sessionId := ofString "5e551011"
  clientIp := ofString "10.0.0.1:5000"

/-- A client connects and says nothing for half a minute. -/
def silentRun : List WatchedEvent :=
  [.session (.start (sampleEnvironment .direct) sampleArrival),
    .beginScan 30000000000 30000000000 [silentRecord], .examine true]

/-- It has been reported and is off the list, with its socket open and its slot taken. -/
theorem silentRun_not_listed : ∃ m, run (step {}) {} silentRun = .ok m ∧
    ¬m.world.gateway.registry.Lists (ofString "5e551011") ∧
    (∃ s ∈ m.world.sessions, s.sessionId.bytes = ofString "5e551011" ∧ s.isOpen = true ∧
      s.admitted = true) ∧
    m.world.gateway.admitter.activeConnections = 1 ∧ ¬m.world.Listed := by
  have hrun : (run (step {}) {} silentRun).toOption.map
      (fun m ↦ ((m.world.gateway.registry.connections.lookup (ofString "5e551011")).isSome,
        m.world.gateway.admitter.activeConnections,
        m.world.sessions.map fun s ↦ (s.sessionId.bytes, s.isOpen, s.admitted))) =
      some (false, 1, [(ofString "5e551011", true, true)]) := by decide +kernel
  obtain ⟨m, hm, hobs⟩ := exists_run_of_observation hrun
  simp only [Prod.mk.injEq] at hobs
  obtain ⟨hlookup, hslot, hsessions⟩ := hobs
  obtain ⟨s, hs, hstate⟩ := List.map_eq_singleton_iff.mp hsessions
  simp only [Prod.mk.injEq] at hstate
  obtain ⟨hid, hopen, hadmitted⟩ := hstate
  have hmem : s ∈ m.world.sessions := hs ▸ List.mem_singleton_self s
  have hunlisted : ¬m.world.gateway.registry.Lists (ofString "5e551011") := by
    intro hlists
    rw [AList.lookup_isSome.mpr hlists] at hlookup
    cases hlookup
  refine ⟨m, hm, hunlisted, ⟨s, hmem, hid, hopen, hadmitted⟩, hslot, fun hlisted ↦ ?_⟩
  refine hunlisted ((hlisted _).mpr ⟨s, hmem, ?_, hid⟩)
  rw [Session.isLive, hadmitted, hopen]
  rfl

end Watched

end LanProxyGateway
