import LanProxyGateway.V2raynManager.NodeEdits

/-!
# Do concurrent edits serialise?

The web server runs its handlers on several threads, and each edit takes the lock once for every
critical section. Two edits may therefore take their steps in any order, and the list and the two
results should be those of running the edits one after the other.

They are not: both edits may make their checks before either changes the list, so that two additions
bring in the same tag and two removals empty the list; and a rollback may meet a list that is no
longer the one its edit left, so that the node it takes from the end is another one's. Where an edit
changes the list only while its check would still give the same answer, and where nothing is changed
or refused while a change is there whose save fails, every interleaving does serialise
(`edits_serialise`).
-/

open Foundation ByteString

namespace LanProxyGateway

namespace NodeStore

open VmConfigBuilder VmNodeValidator VmLinkCodec Transaction

/-- Two requests that are served at the same time. -/
inductive Party
  | first
  | second
  deriving DecidableEq, Repr

/-- The critical sections of both edits, each with the answer its save gets. -/
def sectionsOf (lib : LinkLibrary) (isV5Core : Bool) (edits : Party → Edit × Outcome Unit)
    (p : Party) : EditTransaction :=
  transaction lib isV5Core (edits p).2 (edits p).1

/-- An order of two requests. -/
theorem order_of_two {order : List Party} (hnodup : order.Nodup) (hall : ∀ p, p ∈ order) :
    order = [.first, .second] ∨ order = [.second, .first] := by
  have hfirst := hall .first
  have hsecond := hall .second
  rcases order with _ | ⟨p, _ | ⟨q, _ | ⟨r, order⟩⟩⟩
  · exact absurd hfirst List.not_mem_nil
  · cases p <;> simp at hfirst hsecond
  · cases p <;> cases q <;> simp at hnodup ⊢
  · cases p <;> cases q <;> cases r <;> simp at hnodup

variable {lib : LinkLibrary} {isV5Core : Bool}

/-- **Undisturbed edits serialise.** The list and both results are those of one of the two orders,
and a list that was sound stays so. -/
theorem edits_serialise (lib : LinkLibrary) (isV5Core : Bool) (edits : Party → Edit × Outcome Unit)
    {nodes : List VmNode} {steps : List Party}
    {w : Transaction.World Party (List VmNode) (Option VmNode) (Option VmNode)
      (Outcome (Option VmNode))}
    {result : Party → Outcome (Option VmNode)}
    (hund : Along (concurrently (sectionsOf lib isV5Core edits))
      (Undisturbed (sectionsOf lib isV5Core edits)) (Transaction.World.start nodes) steps)
    (hrun : run (concurrently (sectionsOf lib isV5Core edits))
      (Transaction.World.start nodes) steps = .ok w)
    (hdone : ∀ p, w.phase p = .done (result p)) :
    (∃ order, (order = [.first, .second] ∨ order = [.second, .first]) ∧
      serially (sectionsOf lib isV5Core edits) order nodes
        = (w.shared, order.map fun p ↦ (p, result p))) ∧
    (Sound nodes isV5Core → Sound w.shared isV5Core) := by
  obtain ⟨order, hnodup, hall, hserial⟩ := exists_serially_of_undisturbed hund hrun hdone
  refine ⟨⟨order, order_of_two hnodup hall, hserial⟩, fun h ↦ ?_⟩
  have hsound := serially_induction (T := sectionsOf lib isV5Core edits)
    (I := fun nodes ↦ Sound nodes isV5Core)
      (fun p _ ↦ sound_execute (edits p).2 (edits p).1) order h
  rwa [hserial] at hsound

/-! ## Two removals -/

/-- Two removals whose saves succeed. -/
def removals : Party → Edit × Outcome Unit
  | .first => (.removeNode (ofString "vmess-1"), .done ())
  | .second => (.removeNode (ofString "vmess-2"), .done ())

/-- Both requests take their steps in turn. -/
def inTurn : List Party := [.first, .second, .first, .second, .first, .second]

def threeNodes : List VmNode := [vmessNode "vmess-1", vmessNode "vmess-2", vmessNode "vmess-3"]

/-- With three nodes, the two removals do not get into each other's way. -/
theorem undisturbed_removals : Along (concurrently (sectionsOf noLibrary true removals))
    (Undisturbed (sectionsOf noLibrary true removals))
      (Transaction.World.start threeNodes) inTurn := by
  refine along_concurrently_cons_iff.mpr ⟨?_, along_concurrently_cons_iff.mpr ⟨?_,
    along_concurrently_cons_iff.mpr ⟨?_, along_concurrently_cons_iff.mpr ⟨?_,
    along_concurrently_cons_iff.mpr
      ⟨trivial, along_concurrently_cons_iff.mpr ⟨trivial, trivial⟩⟩⟩⟩⟩⟩
  · rintro ⟨r, hr⟩
    cases hr
  · rintro ⟨r, hr⟩
    cases hr
  · refine ⟨fun p ↦ ?_, rfl⟩
    cases p <;> exact id
  · refine ⟨fun p ↦ ?_, rfl⟩
    cases p
    · exact Bool.false_ne_true
    · exact id

theorem removals_serialise : ∃ w,
    run (concurrently (sectionsOf noLibrary true removals))
      (Transaction.World.start threeNodes) inTurn = .ok w ∧
    ∃ order, (order = [.first, .second] ∨ order = [.second, .first]) ∧
      serially (sectionsOf noLibrary true removals) order threeNodes
        = (w.shared, order.map fun p ↦ (p, .done none)) := by
  refine ⟨_, rfl, (edits_serialise noLibrary true removals undisturbed_removals rfl ?_).1⟩
  intro p
  cases p <;> rfl

/-- With two nodes, both removals check that one node is left, and then none is. -/
theorem removals_empty_the_list : ∃ w, ∃ result : Party → Outcome (Option VmNode),
    run (concurrently (sectionsOf noLibrary true removals))
      (Transaction.World.start twoNodeStore.nodes) inTurn
        = .ok w ∧ (∀ p, w.phase p = .done (result p)) ∧
      ¬∃ order, (order = [.first, .second] ∨ order = [.second, .first]) ∧
        serially (sectionsOf noLibrary true removals) order twoNodeStore.nodes
          = (w.shared, order.map fun p ↦ (p, result p)) := by
  refine ⟨_, fun _ ↦ .done none, rfl, fun p ↦ ?_, ?_⟩
  · cases p <;> rfl
  · rintro ⟨order, rfl | rfl, hserial⟩
    · exact absurd (congrArg (fun x ↦ x.1.length) hserial) (by decide +kernel)
    · exact absurd (congrArg (fun x ↦ x.1.length) hserial) (by decide +kernel)

end NodeStore

end LanProxyGateway
