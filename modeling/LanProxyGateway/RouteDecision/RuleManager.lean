import LanProxyGateway.RouteDecision.Choice
import LanProxyGateway.Foundation.Run
import Mathlib.Data.List.Sort

/-!
# Rules that come and go

`add_custom_rule` and `remove_custom_rule` change the list of custom rules and nothing else: the
index stays as `init` built it. `rule_manager` saves the custom rules after every change, in the
order of the list, and loading the file gives that list again (`parseRules_savedRules`).

`std::sort` puts rules of equal priority into some order, which the library does not promise. Every
`PrioritySort` is such an order.
-/

open Foundation ByteString

namespace LanProxyGateway

/-- `std::sort` with `a.priority > b.priority`. -/
structure PrioritySort where
  sort : List RouteRule → List RouteRule
  perm : ∀ rules, (sort rules).Perm rules
  sorted : ∀ rules, (sort rules).Pairwise fun a b ↦ b.priority ≤ a.priority

/-- Rules of equal priority stay as they are. -/
def PrioritySort.stable : PrioritySort where
  sort := List.insertionSort fun a b ↦ b.priority ≤ a.priority
  perm := List.perm_insertionSort _
  sorted := by
    have htotal : Std.Total fun a b : RouteRule ↦ b.priority ≤ a.priority :=
      ⟨fun a b ↦ Int32.le_total b.priority a.priority⟩
    have htrans : IsTrans RouteRule fun a b ↦ b.priority ≤ a.priority :=
      ⟨fun _ _ _ hab hbc ↦ Int32.le_trans hbc hab⟩
    exact List.pairwise_insertionSort _

namespace RouteEngine

/-- `route_engine::add_custom_rule`. -/
def addCustomRule (std : PrioritySort) (e : RouteEngine) (rule : RouteRule) : RouteEngine :=
  { e with customRules := std.sort (e.customRules ++ [rule]) }

/-- `route_engine::remove_custom_rule`: the first rule with the id, if it is not a builtin one. -/
def removeCustomRule (e : RouteEngine) (ruleId : ByteString) : Bool × RouteEngine :=
  match e.customRules.find? (·.ruleId.bytes = ruleId) with
  | some rule =>
    if rule.isBuiltin then (false, e)
    else (true, { e with customRules := e.customRules.eraseP (·.ruleId.bytes = ruleId) })
  | none => (false, e)

/-- `route_engine::get_all_rules`. -/
def getAllRules (e : RouteEngine) : List RouteRule := e.builtinRules ++ e.customRules

/-- A change of the custom rules. -/
inductive Change
  | addCustomRule (rule : RouteRule)
  | removeCustomRule (ruleId : ByteString)

/-- A change is made. -/
def change (std : PrioritySort) (e : RouteEngine) : Change → RouteEngine
  | .addCustomRule rule => e.addCustomRule std rule
  | .removeCustomRule ruleId => (e.removeCustomRule ruleId).2

end RouteEngine

namespace RuleManager

open RouteEngine

/-- The text for an action. -/
def actionText : RouteAction → ByteString
  | .direct => ofString "direct"
  | .proxy => ofString "proxy"

/-- A rule as `save_to_file` writes it. -/
def ruleJson (rule : RouteRule) : Json := .ofFields [
  ("rule_id", .string rule.ruleId.bytes),
  ("rule_type", .string rule.ruleType.bytes),
  ("pattern", .string rule.pattern.bytes),
  ("action", .string (actionText rule.action)),
  ("priority", .integer rule.priority.toInt),
  ("enabled", .boolean rule.enabled)]

/-- The content of the file that is written for the rules of an engine. -/
def savedRules (e : RouteEngine) : Json := .ofFields [
  ("rules", .array ((e.getAllRules.filter (!·.isBuiltin)).map ruleJson))]

/-- What the file system answers to a save. -/
structure SaveAnswer where
  opensTmp : Bool := true
  renames : Bool := true
  deriving DecidableEq, Repr

/-- `rule_manager::save_to_file`: whether it succeeds, and what is in the file afterwards. -/
def saveToFile (answer : SaveAnswer) (e : RouteEngine) (file : FileContent) : Bool × FileContent :=
  if answer.opensTmp && answer.renames then (true, .json (savedRules e)) else (false, file)

/-- A custom rule: the flag of the builtin ones is not set, as no caller sets it. -/
structure CustomRule extends RouteRule where
  unflagged : toRouteRule.isBuiltin = false

/-- The engine and the file of the custom rules. -/
structure Rules where
  engine : RouteEngine
  customFile : FileContent

variable (std : PrioritySort) (savePath : ByteString) (answer : SaveAnswer)

/-- An engine that has changed, and what is in the file now. -/
def Rules.saved (s : Rules) (e : RouteEngine) : Rules :=
  ⟨e, if savePath.isEmpty then s.customFile else (saveToFile answer e s.customFile).2⟩

/-- `rule_manager::add_rule`. -/
def addRule (s : Rules) (rule : RouteRule) : Bool × Rules :=
  (true, s.saved savePath answer (s.engine.addCustomRule std rule))

/-- `rule_manager::remove_rule`. -/
def removeRule (s : Rules) (ruleId : ByteString) : Bool × Rules :=
  match s.engine.removeCustomRule ruleId with
  | (true, e) => (true, s.saved savePath answer e)
  | (false, _) => (false, s)

/-- A call of the rule manager. -/
inductive Call
  | addRule (rule : CustomRule)
  | removeRule (ruleId : ByteString)

/-- A call, and what its save meets. -/
def callStep (s : Rules) (c : Call × SaveAnswer) : Except Empty Rules :=
  .ok (match c.1 with
    | .addRule rule => (addRule std savePath c.2 s rule.toRouteRule).2
    | .removeRule ruleId => (removeRule savePath c.2 s ruleId).2)

/-- The call saves to a path, and its save succeeds. -/
def Saves (c : Call × SaveAnswer) : Prop := savePath ≠ [] ∧ c.2.opensTmp = true ∧ c.2.renames = true

/-! ## The file -/

/-- Rules carry the flag of the file they come from. -/
theorem isBuiltin_of_mem_rulesIn {isBuiltin : Bool} {file : FileContent} {rule : RouteRule}
    (h : rule ∈ rulesIn isBuiltin file) : rule.isBuiltin = isBuiltin := by
  have key : ∀ rs : List Json, rule ∈ parseRules isBuiltin rs → rule.isBuiltin = isBuiltin := by
    intro rs
    induction rs with
    | nil => exact fun h ↦ absurd h List.not_mem_nil
    | cons r rs ih =>
      intro hmem
      rw [parseRules] at hmem
      rcases hr : parseRule isBuiltin r with _ | first
      · rw [hr] at hmem
        exact absurd hmem List.not_mem_nil
      · rw [hr] at hmem
        rcases List.mem_cons.mp hmem with rfl | hmem
        · simp only [parseRule, Option.bind_eq_bind, Option.bind_eq_some_iff,
            Option.some.injEq] at hr
          obtain ⟨_, -, _, -, _, -, _, -, _, -, _, -, rfl⟩ := hr
          rfl
        · exact ih hmem
  cases file with
  | json j => exact key _ h
  | absent => exact absurd h List.not_mem_nil
  | malformed => exact absurd h List.not_mem_nil

theorem actionOfString_actionText (action : RouteAction) :
    actionOfString (actionText action) = action := by
  cases action <;> decide

theorem ofInt_castInt_toInt (n : Int32) : Int32.ofInt (Json.castInt n.toInt) = n := by
  have hlo := n.le_toInt
  have hhi := n.toInt_lt
  rw [Json.castInt_of_bounds (by omega) (by omega), Int32.ofInt_toInt]

/-- A rule that was written is read again. -/
theorem parseRule_ruleJson {rule : RouteRule} (h : rule.isBuiltin = false) :
    parseRule false (ruleJson rule) = some rule := by
  have haction : Utf8 (actionText rule.action) := by
    cases rule.action
    · exact utf8_ofString _
    · exact utf8_ofString _
  simp only [parseRule, ruleJson, Json.value_ofFields, Json.member?_ofFields_cons, String.reduceEq,
    if_false, if_true, Option.elim_some, Json.getText_string rule.ruleId.utf8,
    Json.getText_string rule.ruleType.utf8, Json.getText_string rule.pattern.utf8,
    Json.getText_string haction, Json.getInt_integer, Json.getBool_boolean, Option.bind_eq_bind,
    Option.bind_some, actionOfString_actionText, ofInt_castInt_toInt]
  rw [← h]

theorem parseRules_ruleJson {rules : List RouteRule} (h : ∀ rule ∈ rules, rule.isBuiltin = false) :
    parseRules false (rules.map ruleJson) = rules := by
  induction rules with
  | nil => rfl
  | cons rule rules ih =>
    rw [List.forall_mem_cons] at h
    rw [List.map_cons, parseRules, parseRule_ruleJson h.1, ih h.2]

/-- Loading the file that was saved gives the custom rules, in their order. -/
theorem rulesIn_savedRules {e : RouteEngine} (hbuiltin : ∀ rule ∈ e.builtinRules, rule.isBuiltin)
    (hcustom : ∀ rule ∈ e.customRules, rule.isBuiltin = false) :
    rulesIn false (.json (savedRules e)) = e.customRules := by
  have hfilter : e.getAllRules.filter (!·.isBuiltin) = e.customRules := by
    rw [getAllRules, List.filter_append, List.filter_eq_nil_iff.mpr fun rule hrule ↦ by
        simpa using hbuiltin rule hrule, List.nil_append,
      List.filter_eq_self.mpr fun rule hrule ↦ by simpa using hcustom rule hrule]
  rw [rulesIn, savedRules, hfilter, Json.member?_ofFields_cons, if_pos rfl]
  exact parseRules_ruleJson hcustom

end RuleManager

end LanProxyGateway
