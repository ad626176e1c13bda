import LanProxyGateway.ProxyCore.Destination
import LanProxyGateway.RouteDecision.Choice

/-!
# Does an address have a say in the route?

`route_engine::decide` asks the GeoIP database, and the rules about addresses, only when it is given
an address, and `do_route_decision` gives it the one that `do_resolve` looks up. But a session looks
its address up after it has decided about its route, so at the decision there is none
(`World.unresolved_of_early`): a host that no rule about domains knows is routed by whatever is
left, its address notwithstanding. `route_follows_geoip_iff` says when that agrees with the
database.
-/

open Foundation ByteString

namespace LanProxyGateway

/-! ## Hosts that no rule knows -/

namespace RouteEngine

variable {isChina : ByteString → Bool} {e : RouteEngine} {host : ByteString}

/-- None of the rules covers the host. -/
def NoDomainRule (e : RouteEngine) (host : ByteString) : Prop :=
  ∀ rule ∈ e.builtinRules ++ e.customRules, ¬rule.CoversDomain host

/-- The action for a host that no rule covers: what a rule that is gone has left in the index, and
the default where there is nothing. -/
def leftover (e : RouteEngine) (host : ByteString) : RouteAction :=
  match e.index.exactDomainMap.lookup host with
  | some action => action
  | none =>
    match e.index.suffixDomainList.find? fun s ↦ s.1.bytes.isSuffixOf host with
    | some (_, action) => action
    | none => e.defaultAction

/-- Without an address the rules about addresses are passed over. -/
theorem ruleId_matchCustomRules_nil {rules : List RouteRule}
    (h : ∀ rule ∈ rules, ¬rule.CoversDomain host) :
    (matchCustomRules host [] rules).ruleId = [] := by
  have hnone : rules.find? (·.Applies host []) = none := by
    rw [List.find?_eq_none]
    intro rule hrule happlies
    rcases of_decide_eq_true happlies with hdomain | ⟨-, -, hip⟩
    · exact h rule hrule hdomain
    · exact hip rfl
  have hid : (matchCustomRules host [] rules).ruleId = _ := matchCustomRules_spec.1
  rw [hid, hnone]
  rfl

/-- **Without an address the database is not asked.** -/
theorem action_decide_nil (h : e.NoDomainRule host) :
    (decide isChina e host []).action = e.leftover host := by
  have hcustom : (matchCustomRules host [] e.customRules).ruleId = [] :=
    ruleId_matchCustomRules_nil fun rule hrule ↦ h rule (List.mem_append_right _ hrule)
  have hexactId : ofString "builtin_exact_" ++ host ≠ [] :=
    List.append_ne_nil_of_left_ne_nil (by decide) _
  have hsuffixId : ∀ suffix : Text, ofString "builtin_suffix_" ++ suffix.bytes ≠ [] :=
    fun suffix ↦ List.append_ne_nil_of_left_ne_nil (by decide) _
  rw [decide, leftover]
  simp only [hcustom, ne_eq, not_true_eq_false, if_false, false_and]
  rw [matchDomainRules]
  rcases e.index.exactDomainMap.lookup host with _ | action
  · rcases e.index.suffixDomainList.find? _ with _ | ⟨suffix, action⟩
    · rfl
    · rw [if_pos (hsuffixId suffix)]
  · rw [if_pos hexactId]

end RouteEngine

/-! ## The decision of a session -/

/-- The route the database stands for. -/
def geoipRoute (isChina : Bool) : SessionRouteAction := if isChina then .direct else .proxy

theorem toSession_eq_geoipRoute_iff (action : RouteAction) (isChina : Bool) :
    action.toSession = geoipRoute isChina ↔ (action = .direct ↔ isChina = true) := by
  rcases action with _ | _ <;> rcases isChina with _ | _ <;> decide

namespace World

/-- No address has been looked up for a session that has yet to decide. -/
theorem unresolved_of_early {w₀ w : World} (h₀ : w₀.sessions = []) (hw : Reachable World.step w₀ w)
    {s : Session} (hs : s ∈ w.sessions) {p : Pending} (hp : p ∈ s.pending)
    (hearly : p.isEarly = true) : s.resolvedIp = [] :=
  ((aimed h₀ hw hs).early p hp hearly).1

/-- **When the route follows the database.** In a step that makes a session decide about a host that
no enabled rule covers, whatever the address `a` the host stands for, the route is the one for `a`
exactly when the leftover action happens to be. -/
theorem route_follows_geoip_iff {w₀ w t : World} (h₀ : w₀.sessions = [])
    (hw : Reachable World.step w₀ w) {i k : ℕ} {c : Completion} {env : Environment}
    (ht : w.step (.complete i k c env) = .ok t) {s s' : Session} (hs : w.sessions[i]? = some s)
    (hs' : t.sessions[i]? = some s') {u host : ByteString} {port : UInt16}
    (hdecides : s'.decisions = s.decisions ++ [.service u (.routeDecision host port)])
    (hrules : env.router.NoDomainRule host) (a : ByteString) :
    s'.routeAction = geoipRoute (env.isChina a) ↔
      (env.router.leftover host = .direct ↔ env.isChina a = true) := by
  have hne : s'.decisions ≠ s.decisions := by
    rw [hdecides]
    exact fun h ↦ List.cons_ne_nil _ _ (List.self_eq_append_right.mp h.symm)
  have hmove := advances_of_step ht
  cases hmove with
  | idle =>
    obtain rfl := Option.some.inj (hs.symm.trans hs')
    exact absurd rfl hne
  | react _ _ _ _ t calls ops hsome hp h hhandles =>
    obtain rfl := Option.some.inj (hs.symm.trans hsome)
    have hi : i < w.sessions.length := (List.getElem?_eq_some_iff.mp hs).1
    have hself : t.self = s' := by
      rw [List.getElem?_set_self hi] at hs'
      exact Option.some.inj hs'
    subst hself
    rcases hhandles.turns with hsteady | ⟨r, chunk, rfl, rfl, hroutes, hasks⟩
    · exact absurd hsteady.unmoved.decisions hne
    have hip : s.resolvedIp = [] := unresolved_of_early h₀ hw (List.mem_of_getElem? hs)
      (List.mem_of_getElem? hp) hasks.isEarly.1
    have hhost : t.self.targetHost = host := by
      have hd : s.decisions ++ _ = s.decisions ++ _ := hroutes.decisions.symm.trans hdecides
      simp only [List.append_cancel_left_eq, List.cons.injEq, Call.service.injEq,
        Service.routeDecision.injEq] at hd
      exact hd.1.2.1
    have haction : t.self.routeAction =
        (env.router.decide env.isChina t.self.targetHost s.resolvedIp).action.toSession :=
      hroutes.action
    rw [haction, hhost, hip, RouteEngine.action_decide_nil hrules]
    exact toSession_eq_geoipRoute_iff _ _

/-- A gateway with a database that takes every address for a Chinese one, and the proxy as
default. -/
def chinaEnvironment : Environment :=
  { sampleEnvironment .proxy with
    router := { defaultAction := .proxy, geoipAvailable := true }
    isChina := fun _ ↦ true }

/-- An HTTP CONNECT to an address. -/
def literalHead : Chunk where
  bytes := ofString "CONNECT 1.2.3.4:80 HTTP/1.1\r\nProxy-Authorization: Basic YTph\r\n\r\n"
  nonempty := by decide
  fits := by decide

/-- A client connects and asks for the address. -/
def literalRun : List Event :=
  [.start chinaEnvironment sampleArrival] ++
    [.complete 0 0 (.received literalHead) chinaEnvironment]

/-- The last step of that run, with the session before and after it. -/
theorem literalRun_decides : ∃ w t s s' u,
    run World.step {} [.start chinaEnvironment sampleArrival] = .ok w ∧
    w.step (.complete 0 0 (.received literalHead) chinaEnvironment) = .ok t ∧
    w.sessions[0]? = some s ∧ t.sessions[0]? = some s' ∧
    s'.decisions = s.decisions ++ [.service u (.routeDecision (ofString "1.2.3.4") 80)] ∧
    s'.routeAction = .proxy := by
  have hrun : (run World.step {} literalRun).toOption.map
      (fun w ↦ w.sessions.map fun s ↦ (s.decisions, s.routeAction)) =
      some [([.service (ofString "a") (.routeDecision (ofString "1.2.3.4") 80)], .proxy)] := by
    decide +kernel
  have hfirst : (run World.step {} [.start chinaEnvironment sampleArrival]).toOption.map
      (fun w ↦ w.sessions.map fun s ↦ s.decisions) = some [[]] := by
    decide +kernel
  obtain ⟨t, ht, hobs⟩ := exists_run_of_observation hrun
  obtain ⟨s', hs', hstate⟩ := List.map_eq_singleton_iff.mp hobs
  obtain ⟨hdecisions, haction⟩ := Prod.mk.inj hstate
  obtain ⟨w, hw, hstep⟩ := run_concat_iff.mp ht
  obtain ⟨w', hw', hobs'⟩ := exists_run_of_observation hfirst
  obtain rfl : w = w' := Except.ok.inj (hw.symm.trans hw')
  obtain ⟨s, hs, hnone⟩ := List.map_eq_singleton_iff.mp hobs'
  refine ⟨w, t, s, s', ofString "a", hw, hstep, ?_, ?_, ?_, haction⟩
  · rw [hs]
    rfl
  · rw [hs']
    rfl
  · rw [hdecisions, hnone]
    rfl

/-- With the proxy as default the route of a Chinese address is right exactly when it is direct,
which it is not. -/
theorem literalRun_route_iff : ∃ t s', run World.step {} literalRun = .ok t ∧
    t.sessions[0]? = some s' ∧
    (s'.routeAction = geoipRoute (chinaEnvironment.isChina (ofString "1.2.3.4")) ↔
      (chinaEnvironment.router.leftover (ofString "1.2.3.4") = .direct ↔
        chinaEnvironment.isChina (ofString "1.2.3.4") = true)) := by
  obtain ⟨w, t, s, s', u, hw, ht, hs, hs', hdecides, -⟩ := literalRun_decides
  have hreach : Reachable World.step {} w := ⟨_, hw⟩
  exact ⟨t, s', run_concat_iff.mpr ⟨w, hw, ht⟩, hs', route_follows_geoip_iff rfl hreach ht hs hs'
    hdecides (fun rule hrule ↦ absurd hrule List.not_mem_nil) _⟩

/-- The database knows the address for a Chinese one, no rule says anything, and the session goes
through v2ray. -/
theorem literalRun_ignores_geoip : ∃ w t s s' u, Reachable World.step {} w ∧
    w.step (.complete 0 0 (.received literalHead) chinaEnvironment) = .ok t ∧
    w.sessions[0]? = some s ∧ t.sessions[0]? = some s' ∧
    s'.decisions = s.decisions ++ [.service u (.routeDecision (ofString "1.2.3.4") 80)] ∧
    chinaEnvironment.router.NoDomainRule (ofString "1.2.3.4") ∧
    chinaEnvironment.router.geoipAvailable = true ∧
    s'.routeAction ≠ geoipRoute (chinaEnvironment.isChina (ofString "1.2.3.4")) := by
  obtain ⟨w, t, s, s', u, hw, ht, hs, hs', hdecides, haction⟩ := literalRun_decides
  refine ⟨w, t, s, s', u, ⟨_, hw⟩, ht, hs, hs', hdecides, ?_, rfl, ?_⟩
  · exact fun rule hrule ↦ absurd hrule List.not_mem_nil
  · rw [haction]
    exact nofun

end World

end LanProxyGateway
