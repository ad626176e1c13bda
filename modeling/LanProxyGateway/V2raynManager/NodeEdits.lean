import LanProxyGateway.Foundation.Transaction
import LanProxyGateway.V2raynManager.AutoTags

/-!
# What an edit does to the list of nodes

Adding, updating, removing and importing a node are four critical sections each: a check, the change
under the lock, the save, and the change taken back where the save failed. `transaction` states them
as functions of the list alone, with the answer of the save as a parameter, and `edit_eq_execute`
says that this is what the operations of the manager do, one alone, to the list and to the caller.

A list is `Sound` when its tags are distinct, its nodes pass the validator, and it is not empty. An
edit keeps it so whatever the save answers (`sound_execute`), because a save that fails is undone
and a save that throws leaves a list behind that would have been sound to save.
-/

open Foundation ByteString

namespace LanProxyGateway

def Outcome.map {α β : Type} (f : α → β) : Outcome α → Outcome β
  | .done result => .done (f result)
  | .failed errorMsg => .failed errorMsg
  | .thrown e => .thrown e

def Outcome.isDone {α : Type} : Outcome α → Bool
  | .done _ => true
  | _ => false

def Outcome.isFailed {α : Type} : Outcome α → Bool
  | .failed _ => true
  | _ => false

def Outcome.isThrown {α : Type} : Outcome α → Bool
  | .thrown _ => true
  | _ => false

namespace NodeStore

open VmConfigBuilder VmNodeValidator VmLinkCodec

/-! ## Edits -/

/-- The requests that edit the list. -/
inductive Edit
  | addNode (node : VmNode)
  | updateNode (oldTag : ByteString) (node : VmNode)
  | removeNode (tag : ByteString)
  | importFromLink (vmessLink : ByteString)

/-- The operation of an edit. Only an import returns a node. -/
def edit (lib : LinkLibrary) (disk : DiskAnswer) (s : NodeStore) :
    Edit → Outcome (Option VmNode) × NodeStore
  | .addNode node => (s.addNode disk node).map (Outcome.map fun _ ↦ none) id
  | .updateNode oldTag node => (s.updateNode disk oldTag node).map (Outcome.map fun _ ↦ none) id
  | .removeNode tag => (s.removeNode disk tag).map (Outcome.map fun _ ↦ none) id
  | .importFromLink vmessLink => (s.importFromLink lib disk vmessLink).map (Outcome.map some) id

/-- The list of nodes as a store of its own. -/
def ofNodes (nodes : List VmNode) (isV5Core : Bool) : NodeStore where
  nodes := nodes
  isV5Core := isV5Core

/-- The answer of the check is the node to put in, if there is one; what is kept for the rollback is
the node taken out, if there is one. -/
abbrev EditTransaction :=
  Transaction (List VmNode) (Option VmNode) (Option VmNode) (Outcome (Option VmNode))

/-- The check of a node that an edit brings in. -/
def checkNode (isV5Core : Bool) (excludeTag : ByteString) (node : VmNode) (nodes : List VmNode) :
    Except (Outcome (Option VmNode)) (Option VmNode) :=
  let err := validate node isV5Core
  if err ≠ [] then .error (.failed err)
  else if !(ofNodes nodes isV5Core).isTagUnique node.tag excludeTag then
    .error (.failed (ofString "节点标签已存在: " ++ node.tag))
  else .ok (some node)

/-- The check of an import: the node of the link, under a new tag. -/
def checkLink (lib : LinkLibrary) (isV5Core : Bool) (vmessLink : ByteString) (nodes : List VmNode) :
    Except (Outcome (Option VmNode)) (Option VmNode) :=
  match decode lib vmessLink with
  | .error e => .error (.thrown e)
  | .ok (.error errorMsg) => .error (.failed errorMsg)
  | .ok (.ok node) =>
    let node := { node with tag := (ofNodes nodes isV5Core).generateAutoTag }
    let err := validate node isV5Core
    if err ≠ [] then .error (.failed err) else .ok (some node)

/-- The check of a removal. -/
def checkRemoval (nodes : List VmNode) : Except (Outcome (Option VmNode)) (Option VmNode) :=
  if nodes.length ≤ 1 then .error (.failed (ofString "至少保留一个VMess节点")) else .ok none

/-- A change that needs a node with the tag and keeps that node. -/
def changeNode (tag : ByteString) (change : List VmNode → List VmNode) (nodes : List VmNode) :
    Except (Outcome (Option VmNode)) (List VmNode × Option VmNode) :=
  match nodes.find? (·.tag = tag) with
  | none => .error (.failed (ofString "节点不存在: " ++ tag))
  | some backup => .ok (change nodes, some backup)

/-- An import taken back: the last node goes, if it has the tag. -/
def dropTagged (node : VmNode) (nodes : List VmNode) : List VmNode :=
  if nodes.getLast?.any (·.tag = node.tag) then nodes.dropLast else nodes

/-- The critical sections of an edit whose save is answered with `saved`. -/
def transaction (lib : LinkLibrary) (isV5Core : Bool) (saved : Outcome Unit) :
    Edit → EditTransaction
  | .addNode node => {
      check := checkNode isV5Core [] node
      change := fun added nodes ↦ .ok (nodes ++ added.toList, none)
      fails := saved.isFailed
      undo := fun _ _ nodes ↦ nodes.dropLast
      result := fun _ ↦ saved.map fun _ ↦ none }
  | .updateNode oldTag node => {
      check := checkNode isV5Core oldTag node
      change := fun _ ↦ changeNode oldTag (replaceNode oldTag node)
      fails := saved.isFailed
      undo := fun _ backup nodes ↦
        backup.elim nodes fun backup ↦ replaceNode node.tag backup nodes
      result := fun _ ↦ saved.map fun _ ↦ none }
  | .removeNode tag => {
      check := checkRemoval
      change := fun _ ↦ changeNode tag fun nodes ↦ nodes.eraseP (·.tag = tag)
      fails := saved.isFailed
      undo := fun _ backup nodes ↦ nodes ++ backup.toList
      result := fun _ ↦ saved.map fun _ ↦ none }
  | .importFromLink vmessLink => {
      check := checkLink lib isV5Core vmessLink
      change := fun added nodes ↦ .ok (nodes ++ added.toList, none)
      fails := saved.isFailed
      undo := fun added _ nodes ↦ added.elim nodes fun node ↦ dropTagged node nodes
      result := fun added ↦ saved.map fun _ ↦ added }

/-! ## The operations of the manager -/

/-- The list that an edit saves. -/
def edited (lib : LinkLibrary) (s : NodeStore) : Edit → List VmNode
  | .addNode node => s.nodes ++ [node]
  | .updateNode oldTag node => replaceNode oldTag node s.nodes
  | .removeNode tag => s.nodes.eraseP (·.tag = tag)
  | .importFromLink vmessLink =>
    match decode lib vmessLink with
    | .ok (.ok node) => s.nodes ++ [{ node with tag := s.generateAutoTag }]
    | _ => s.nodes

/-- What saving a list comes to. -/
def saved (disk : DiskAnswer) (s : NodeStore) (nodes : List VmNode) : Outcome Unit :=
  (saveToConfig disk { s with nodes := nodes }).1

/-- A save leaves the list alone. -/
theorem nodes_of_saveToConfig {disk : DiskAnswer} {s t : NodeStore} {o : Outcome Unit}
    (h : saveToConfig disk s = (o, t)) : t.nodes = s.nodes := by
  rw [← (saved_saveToConfig disk s).nodes, h]

variable {lib : LinkLibrary} {disk : DiskAnswer} {s : NodeStore}

@[simp] theorem isTagUnique_ofNodes (s : NodeStore) (isV5Core : Bool)
    (tag excludeTag : ByteString) :
    (ofNodes s.nodes isV5Core).isTagUnique tag excludeTag = s.isTagUnique tag excludeTag := rfl

@[simp] theorem generateAutoTag_ofNodes (s : NodeStore) (isV5Core : Bool) :
    (ofNodes s.nodes isV5Core).generateAutoTag = s.generateAutoTag := rfl

/-- The transaction of an edit, run on the list of a store. -/
def executed (lib : LinkLibrary) (disk : DiskAnswer) (s : NodeStore) (e : Edit) :
    List VmNode × Outcome (Option VmNode) :=
  (transaction lib s.isV5Core (s.saved disk (s.edited lib e)) e).execute s.nodes

theorem addNode_eq_execute (node : VmNode) : executed lib disk s (.addNode node) =
    ((s.edit lib disk (.addNode node)).2.nodes, (s.edit lib disk (.addNode node)).1) := by
  rw [executed]
  by_cases hvalid : validate node s.isV5Core = []
  · by_cases hunique : s.isTagUnique node.tag [] = true
    · rcases hsave : saveToConfig disk { s with nodes := s.nodes ++ [node] } with ⟨o, t⟩
      have hnodes := nodes_of_saveToConfig hsave
      cases o <;> simp [edit, NodeStore.addNode, edited, saved, transaction, Transaction.execute,
        checkNode, hvalid, hunique, hsave, hnodes, Outcome.map, Outcome.isFailed]
    · simp [edit, NodeStore.addNode, transaction, Transaction.execute, checkNode, hvalid, hunique,
        Outcome.map]
  · simp [edit, NodeStore.addNode, transaction, Transaction.execute, checkNode, hvalid, Outcome.map]

theorem updateNode_eq_execute (oldTag : ByteString) (node : VmNode) :
    executed lib disk s (.updateNode oldTag node) =
    ((s.edit lib disk (.updateNode oldTag node)).2.nodes,
      (s.edit lib disk (.updateNode oldTag node)).1) := by
  rw [executed]
  by_cases hvalid : validate node s.isV5Core = []
  · by_cases hunique : s.isTagUnique node.tag oldTag = true
    · rcases hfind : s.nodes.find? (·.tag = oldTag) with _ | backup
      · simp [edit, NodeStore.updateNode, transaction, Transaction.execute, checkNode, changeNode,
          hvalid, hunique, hfind, Outcome.map]
      · rcases hsave : saveToConfig disk { s with nodes := replaceNode oldTag node s.nodes }
          with ⟨o, t⟩
        have hnodes := nodes_of_saveToConfig hsave
        cases o <;> simp [edit, NodeStore.updateNode, edited, saved, transaction,
          Transaction.execute, checkNode, changeNode, hvalid, hunique, hfind, hsave, hnodes,
          Outcome.map, Outcome.isFailed]
    · simp [edit, NodeStore.updateNode, transaction, Transaction.execute, checkNode,
        hvalid, hunique,
        Outcome.map]
  · simp [edit, NodeStore.updateNode, transaction, Transaction.execute, checkNode, hvalid,
      Outcome.map]

theorem removeNode_eq_execute (tag : ByteString) : executed lib disk s (.removeNode tag) =
    ((s.edit lib disk (.removeNode tag)).2.nodes, (s.edit lib disk (.removeNode tag)).1) := by
  rw [executed]
  by_cases hlength : s.nodes.length ≤ 1
  · simp [edit, NodeStore.removeNode, transaction, Transaction.execute, checkRemoval, hlength,
      Outcome.map]
  · rcases hfind : s.nodes.find? (·.tag = tag) with _ | backup
    · simp [edit, NodeStore.removeNode, transaction, Transaction.execute, checkRemoval,
        changeNode, hlength,
        hfind,
        Outcome.map]
    · rcases hsave : saveToConfig disk { s with nodes := s.nodes.eraseP (·.tag = tag) } with ⟨o, t⟩
      have hnodes := nodes_of_saveToConfig hsave
      cases o <;> simp [edit, NodeStore.removeNode, edited, saved, transaction, Transaction.execute,
        checkRemoval, changeNode, hlength, hfind, hsave, hnodes, Outcome.map, Outcome.isFailed]

theorem importFromLink_eq_execute (vmessLink : ByteString) :
    executed lib disk s (.importFromLink vmessLink) =
    ((s.edit lib disk (.importFromLink vmessLink)).2.nodes,
      (s.edit lib disk (.importFromLink vmessLink)).1) := by
  rw [executed]
  rcases hdecode : decode lib vmessLink with e | errorMsg | node
  · simp [edit, NodeStore.importFromLink, transaction, Transaction.execute, checkLink, hdecode,
      Outcome.map]
  · simp [edit, NodeStore.importFromLink, transaction, Transaction.execute, checkLink, hdecode,
      Outcome.map]
  · by_cases hvalid : validate { node with tag := s.generateAutoTag } s.isV5Core = []
    · rcases hsave : saveToConfig disk
        { s with nodes := s.nodes ++ [{ node with tag := s.generateAutoTag }] } with ⟨o, t⟩
      have hnodes := nodes_of_saveToConfig hsave
      cases o <;> simp [edit, NodeStore.importFromLink, edited, saved, transaction,
        Transaction.execute, checkLink, dropTagged, hdecode, hvalid, hsave, hnodes, Outcome.map,
        Outcome.isFailed]
    · simp [edit, NodeStore.importFromLink, transaction, Transaction.execute, checkLink, hdecode,
        hvalid, Outcome.map]

/-- **The sections are those of the operations.** -/
theorem edit_eq_execute (e : Edit) :
    executed lib disk s e = ((s.edit lib disk e).2.nodes, (s.edit lib disk e).1) := by
  cases e with
  | addNode node => exact addNode_eq_execute node
  | updateNode oldTag node => exact updateNode_eq_execute oldTag node
  | removeNode tag => exact removeNode_eq_execute tag
  | importFromLink vmessLink => exact importFromLink_eq_execute vmessLink

/-! ## Changes of the list -/

theorem isTagUnique_iff {tag excludeTag : ByteString} :
    s.isTagUnique tag excludeTag = true ↔ ∀ n ∈ s.nodes, n.tag = tag → tag = excludeTag := by
  rw [isTagUnique, List.all_eq_true]
  refine forall₂_congr fun n _ ↦ ?_
  by_cases htag : n.tag = tag
  · simp [htag]
  · simp [htag]

/-- The first node with a tag stands behind nodes that have other tags. -/
theorem exists_split_of_find {nodes : List VmNode} {tag : ByteString} {backup : VmNode}
    (h : nodes.find? (·.tag = tag) = some backup) : backup.tag = tag ∧
      ∃ pre post, nodes = pre ++ backup :: post ∧ ∀ n ∈ pre, n.tag ≠ tag := by
  obtain ⟨-, pre, post, hsplit, hpre⟩ := List.find?_eq_some_iff_append.mp h
  exact ⟨key_eq_of_find? h, pre, post, hsplit, fun n hn ↦ by simpa using hpre n hn⟩

theorem replaceNode_split {pre post : List VmNode} {tag : ByteString} {backup : VmNode}
    (node : VmNode) (hbackup : backup.tag = tag) (hpre : ∀ n ∈ pre, n.tag ≠ tag) :
    replaceNode tag node (pre ++ backup :: post) = pre ++ node :: post := by
  induction pre with
  | nil => rw [List.nil_append, replaceNode, if_pos hbackup, List.nil_append]
  | cons n pre ih =>
    rw [List.forall_mem_cons] at hpre
    rw [List.cons_append, replaceNode, if_neg hpre.1, ih hpre.2, List.cons_append]

theorem eraseP_split {pre post : List VmNode} {tag : ByteString} {backup : VmNode}
    (hbackup : backup.tag = tag) (hpre : ∀ n ∈ pre, n.tag ≠ tag) :
    (pre ++ backup :: post).eraseP (·.tag = tag) = pre ++ post := by
  rw [List.eraseP_append_right _ fun n hn ↦ by simpa using hpre n hn,
    List.eraseP_cons_of_pos (by simpa using hbackup)]

/-! ## Sound lists -/

/-- Tags tell the nodes apart, every node passes the validator, and there is one. -/
structure Sound (nodes : List VmNode) (isV5Core : Bool) : Prop where
  distinct : (nodes.map (·.tag)).Nodup
  valid : ∀ n ∈ nodes, validate n isV5Core = []
  ne_nil : nodes ≠ []

variable {nodes pre post : List VmNode} {isV5Core : Bool} {node backup : VmNode}

theorem Sound.perm {nodes' : List VmNode} (h : Sound nodes isV5Core) (hperm : nodes.Perm nodes') :
    Sound nodes' isV5Core where
  distinct := (hperm.map _).nodup_iff.mp h.distinct
  valid n hn := h.valid n (hperm.mem_iff.mpr hn)
  ne_nil := by
    rintro rfl
    exact h.ne_nil hperm.eq_nil

/-- Another node under a tag that no node has. -/
theorem Sound.cons (h : Sound nodes isV5Core) (hvalid : validate node isV5Core = [])
    (hfresh : ∀ n ∈ nodes, n.tag ≠ node.tag) : Sound (node :: nodes) isV5Core where
  distinct := by
    rw [List.map_cons, List.nodup_cons]
    refine ⟨fun hmem ↦ ?_, h.distinct⟩
    obtain ⟨n, hn, htag⟩ := List.mem_map.mp hmem
    exact hfresh n hn htag
  valid := List.forall_mem_cons.mpr ⟨hvalid, h.valid⟩
  ne_nil := List.cons_ne_nil node nodes

theorem Sound.concat (h : Sound nodes isV5Core) (hvalid : validate node isV5Core = [])
    (hfresh : ∀ n ∈ nodes, n.tag ≠ node.tag) : Sound (nodes ++ [node]) isV5Core :=
  (h.cons hvalid hfresh).perm (List.perm_append_singleton node nodes).symm

/-- What is left without one node, where others are left. -/
theorem Sound.remove (h : Sound (pre ++ backup :: post) isV5Core)
    (hlength : 1 < (pre ++ backup :: post).length) : Sound (pre ++ post) isV5Core where
  distinct := by
    have hdistinct := (h.perm List.perm_middle).distinct
    rw [List.map_cons, List.nodup_cons] at hdistinct
    exact hdistinct.2
  valid n hn := h.valid n (List.perm_middle.mem_iff.mpr (List.mem_cons_of_mem backup hn))
  ne_nil := by
    intro hnil
    rw [List.perm_middle.length_eq, hnil] at hlength
    exact Nat.lt_irrefl 1 hlength

/-- Another node in the place of one. -/
theorem Sound.replace (h : Sound (pre ++ backup :: post) isV5Core)
    (hvalid : validate node isV5Core = [])
    (hfresh : ∀ n ∈ pre ++ post, n.tag ≠ node.tag) : Sound (pre ++ node :: post) isV5Core := by
  suffices Sound (node :: (pre ++ post)) isV5Core from this.perm List.perm_middle.symm
  have hold := h.perm List.perm_middle
  constructor
  · rw [List.map_cons, List.nodup_cons]
    refine ⟨fun hmem ↦ ?_, (List.nodup_cons.mp hold.distinct).2⟩
    obtain ⟨n, hn, htag⟩ := List.mem_map.mp hmem
    exact hfresh n hn htag
  · rw [List.forall_mem_cons]
    exact ⟨hvalid, fun n hn ↦ hold.valid n (List.mem_cons_of_mem backup hn)⟩
  · exact List.cons_ne_nil _ _

/-! ## What the check lets pass -/

theorem checkNode_eq_ok {excludeTag : ByteString} {a : Option VmNode}
    (h : checkNode isV5Core excludeTag node nodes = .ok a) : a = some node ∧
      validate node isV5Core = [] ∧ ∀ n ∈ nodes, n.tag = node.tag → node.tag = excludeTag := by
  rw [checkNode] at h
  split at h
  · cases h
  · rename_i hvalid
    split at h
    · cases h
    · rename_i hunique
      rw [Bool.not_eq_true', Bool.not_eq_false, isTagUnique_iff] at hunique
      exact ⟨(Except.ok.inj h).symm, not_not.mp hvalid, hunique⟩

/-- The node of a link under the tag that is generated for it. -/
def tagged (nodes : List VmNode) (isV5Core : Bool) (node : VmNode) : VmNode :=
  { node with tag := (ofNodes nodes isV5Core).generateAutoTag }

theorem checkLink_eq_ok {vmessLink : ByteString} {a : Option VmNode}
    (h : checkLink lib isV5Core vmessLink nodes = .ok a) : ∃ node,
      decode lib vmessLink = .ok (.ok node) ∧ a = some (tagged nodes isV5Core node) ∧
        validate (tagged nodes isV5Core node) isV5Core = [] := by
  rw [checkLink] at h
  split at h
  · cases h
  · cases h
  · simp only at h
    split at h
    · cases h
    · rename_i node hdecode hvalid
      exact ⟨node, hdecode, (Except.ok.inj h).symm, not_not.mp hvalid⟩

/-- A tag that the check of a new node lets pass is free, since it is not empty. -/
theorem tag_free_of_checkNode {a : Option VmNode} (h : checkNode isV5Core [] node nodes = .ok a) :
    ∀ n ∈ nodes, n.tag ≠ node.tag := by
  obtain ⟨-, hvalid, hunique⟩ := checkNode_eq_ok h
  intro n hn htag
  exact (validate_eq_nil_iff.mp hvalid).tag_ne_nil (hunique n hn htag)

/-- The tag of an update is free but for the node that is updated. -/
theorem tag_free_of_split {oldTag : ByteString} (h : Sound (pre ++ backup :: post) isV5Core)
    (hbackup : backup.tag = oldTag)
    (hunique : ∀ n ∈ pre ++ backup :: post, n.tag = node.tag → node.tag = oldTag) :
    ∀ n ∈ pre ++ post, n.tag ≠ node.tag := by
  intro n hn htag
  have hdistinct := (h.perm List.perm_middle).distinct
  rw [List.map_cons, List.nodup_cons] at hdistinct
  have hold := hunique n (List.perm_middle.mem_iff.mpr (List.mem_cons_of_mem backup hn)) htag
  exact hdistinct.1 (List.mem_map.mpr ⟨n, hn, htag.trans (hold.trans hbackup.symm)⟩)

/-- The nodes in front of the one that is updated do not have its new tag either. -/
theorem tag_ne_of_pre {oldTag : ByteString} (hpre : ∀ n ∈ pre, n.tag ≠ oldTag)
    (hunique : ∀ n ∈ pre ++ backup :: post, n.tag = node.tag → node.tag = oldTag) :
    ∀ n ∈ pre, n.tag ≠ node.tag := by
  intro n hn htag
  exact hpre n hn (htag.trans (hunique n (List.mem_append_left _ hn) htag))

theorem changeNode_eq_ok {tag : ByteString} {change : List VmNode → List VmNode}
    {nodes' : List VmNode} {u : Option VmNode} (h : changeNode tag change nodes = .ok (nodes', u)) :
    ∃ backup pre post, u = some backup ∧ backup.tag = tag ∧ (∀ n ∈ pre, n.tag ≠ tag) ∧
      nodes = pre ++ backup :: post ∧ nodes' = change (pre ++ backup :: post) := by
  rw [changeNode] at h
  split at h
  · cases h
  · rename_i backup hfind
    obtain ⟨rfl, rfl⟩ := Prod.mk.inj (Except.ok.inj h)
    obtain ⟨hbackup, pre, post, rfl, hpre⟩ := exists_split_of_find hfind
    exact ⟨backup, pre, post, rfl, hbackup, hpre, rfl, rfl⟩

theorem changeNode_eq_of_find {tag : ByteString} (change : List VmNode → List VmNode)
    (h : nodes.find? (·.tag = tag) = some backup) :
    changeNode tag change nodes = .ok (change nodes, some backup) := by
  rw [changeNode, h]

theorem checkRemoval_eq_ok {a : Option VmNode} (h : checkRemoval nodes = .ok a) :
    1 < nodes.length := by
  rw [checkRemoval] at h
  split at h
  · cases h
  · omega

/-! ## Taking a change back -/

/-- The update of a node taken back. -/
theorem replaceNode_replaceNode {oldTag : ByteString} (hbackup : backup.tag = oldTag)
    (hpre : ∀ n ∈ pre, n.tag ≠ oldTag)
    (hunique : ∀ n ∈ pre ++ backup :: post, n.tag = node.tag → node.tag = oldTag) :
    replaceNode node.tag backup (replaceNode oldTag node (pre ++ backup :: post))
      = pre ++ backup :: post := by
  rw [replaceNode_split node hbackup hpre]
  exact replaceNode_split backup rfl (tag_ne_of_pre hpre hunique)

/-- An import taken back. -/
theorem dropTagged_concat : dropTagged node (nodes ++ [node]) = nodes := by
  have hlast : (nodes ++ [node]).getLast?.any (·.tag = node.tag) = true := by
    rw [List.getLast?_concat]
    exact decide_eq_true rfl
  rw [dropTagged, if_pos hlast, List.dropLast_concat]

/-! ## Edits keep a list sound -/

/-- **The step lemma.** Whatever the save answers. -/
theorem sound_execute (answer : Outcome Unit) (e : Edit) (h : Sound nodes isV5Core) :
    Sound ((transaction lib isV5Core answer e).execute nodes).1 isV5Core := by
  apply Transaction.execute_induction (I := fun nodes ↦ Sound nodes isV5Core) h
  intro a nodes' u hcheck hchange
  cases e with
  | addNode node =>
    obtain ⟨rfl, hvalid, -⟩ := checkNode_eq_ok hcheck
    have hfresh := tag_free_of_checkNode hcheck
    obtain ⟨rfl, rfl⟩ := Prod.mk.inj (Except.ok.inj hchange)
    refine ⟨h.concat hvalid hfresh, ?_⟩
    change Sound (nodes ++ [node]).dropLast isV5Core
    rwa [List.dropLast_concat]
  | updateNode oldTag node =>
    obtain ⟨rfl, hvalid, hunique⟩ := checkNode_eq_ok hcheck
    obtain ⟨backup, pre, post, rfl, hbackup, hpre, rfl, rfl⟩ := changeNode_eq_ok hchange
    constructor
    · rw [replaceNode_split node hbackup hpre]
      exact h.replace hvalid (tag_free_of_split h hbackup hunique)
    · change Sound (replaceNode node.tag backup (replaceNode oldTag node _)) isV5Core
      rwa [replaceNode_replaceNode hbackup hpre hunique]
  | removeNode tag =>
    have hlength := checkRemoval_eq_ok hcheck
    obtain ⟨backup, pre, post, rfl, hbackup, hpre, rfl, rfl⟩ := changeNode_eq_ok hchange
    rw [eraseP_split hbackup hpre]
    -- the node that is put back comes last
    exact ⟨h.remove hlength,
      h.perm (List.perm_middle.trans (List.perm_append_singleton backup _).symm)⟩
  | importFromLink vmessLink =>
    obtain ⟨node, -, rfl, hvalid⟩ := checkLink_eq_ok hcheck
    obtain ⟨rfl, rfl⟩ := Prod.mk.inj (Except.ok.inj hchange)
    refine ⟨h.concat hvalid (generateAutoTag_free (ofNodes nodes isV5Core)), ?_⟩
    change Sound (dropTagged (tagged nodes isV5Core node) (nodes ++ [_])) isV5Core
    rwa [dropTagged_concat]

/-! ## What an edit does not touch -/

/-- Only the list and the two files are different. -/
structure Framed (s t : NodeStore) : Prop where
  activeNodeTag : t.activeNodeTag = s.activeNodeTag
  isV5Core : t.isV5Core = s.isV5Core

theorem framed_saveToConfig (nodes : List VmNode) :
    Framed s (saveToConfig disk { s with nodes := nodes }).2 := by
  rw [saveToConfig]
  split
  · exact ⟨rfl, rfl⟩
  · simp only
    split_ifs <;> exact ⟨rfl, rfl⟩

theorem framed_of_save {t : NodeStore} {o : Outcome Unit}
    (h : saveToConfig disk { s with nodes := nodes } = (o, t)) (nodes' : List VmNode) :
    Framed s { t with nodes := nodes' } := by
  have hframed : Framed s (saveToConfig disk { s with nodes := nodes }).2 :=
    framed_saveToConfig nodes
  rw [h] at hframed
  exact ⟨hframed.activeNodeTag, hframed.isV5Core⟩

theorem framed_edit (e : Edit) : Framed s (s.edit lib disk e).2 := by
  have hsame : Framed s s := ⟨rfl, rfl⟩
  cases e with
  | addNode node =>
    change Framed s (s.addNode disk node).2
    rw [NodeStore.addNode]
    split
    · exact hsame
    · split
      · exact hsame
      · split
        · rename_i hsave
          exact framed_of_save hsave _
        · exact framed_saveToConfig _
  | updateNode oldTag node =>
    change Framed s (s.updateNode disk oldTag node).2
    rw [NodeStore.updateNode]
    split
    · exact hsame
    · split
      · exact hsame
      · split
        · exact hsame
        · split
          · rename_i hsave
            exact framed_of_save hsave _
          · exact framed_saveToConfig _
  | removeNode tag =>
    change Framed s (s.removeNode disk tag).2
    rw [NodeStore.removeNode]
    split
    · exact hsame
    · split
      · exact hsame
      · split
        · rename_i hsave
          exact framed_of_save hsave _
        · exact framed_saveToConfig _
  | importFromLink vmessLink =>
    change Framed s (s.importFromLink lib disk vmessLink).2
    rw [NodeStore.importFromLink]
    split
    · exact hsame
    · exact hsame
    · simp only
      split
      · exact hsame
      · split
        · rename_i hsave
          exact framed_of_save hsave _
        · rename_i hsave
          exact framed_of_save hsave _
        · rename_i hsave
          exact framed_of_save hsave _

/-! ## Runs of edits -/

/-- The nodes of a store are sound. -/
def SoundStore (s : NodeStore) : Prop := Sound s.nodes s.isV5Core

theorem SoundStore.edit (h : SoundStore s) (e : Edit) : SoundStore (s.edit lib disk e).2 := by
  have hnodes : (s.edit lib disk e).2.nodes = (executed lib disk s e).1 := by
    rw [edit_eq_execute]
  rw [SoundStore, (framed_edit e).isV5Core, hnodes]
  exact sound_execute _ e h

/-- The steps of a run of edits. Before each of them the configuration may have been replaced, so
that the save can be answered with anything. -/
def editStep (lib : LinkLibrary) (s : NodeStore) (e : Edit × DiskAnswer × FileContent) :
    Except Empty NodeStore :=
  .ok (edit lib e.2.1 { s with config := e.2.2 } e.1).2

/-- **Edits keep the store sound.** After any run of edits the tags are distinct, the nodes valid,
and there is a node. -/
theorem soundStore_of_edits (lib : LinkLibrary) {s t : NodeStore}
    {es : List (Edit × DiskAnswer × FileContent)} (hs : SoundStore s)
    (hrun : run (editStep lib) s es = .ok t) : SoundStore t := by
  refine run_induction (C := fun _ _ ↦ True) ?_ hs along_true hrun
  intro s e t h _ hstep
  obtain rfl := Except.ok.inj hstep
  have hfile : SoundStore { s with config := e.2.2 } := h
  exact hfile.edit e.1

/-- A removal whose save fails, and then a node under the tag that was nearly free. -/
def removalAndAddition : List (Edit × DiskAnswer × FileContent) := [
  (.removeNode (ofString "vmess-1"), { renames := false }, .json twoNodeConfig),
  (.addNode (vmessNode "vmess-1"), {}, .absent)]

theorem soundStore_after_removalAndAddition :
    ∃ t, run (editStep noLibrary) twoNodeStore removalAndAddition = .ok t ∧ SoundStore t := by
  have hsound : SoundStore twoNodeStore :=
    ⟨by decide +kernel, validate_twoNodeStore, by decide +kernel⟩
  rcases hrun : run (editStep noLibrary) twoNodeStore removalAndAddition with x | t
  · exact x.elim
  · exact ⟨t, rfl, soundStore_of_edits noLibrary hsound hrun⟩

end NodeStore

end LanProxyGateway
