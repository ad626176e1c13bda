import LanProxyGateway.RouteDecision.RuleManager
import Mathlib.Logic.Function.Basic

/-!
# The file of the custom rules

`save_to_file` writes the text of the rules to a temporary file, which then takes the place of the
old one, and `load_custom_rules` parses what it finds there. A list of custom rules comes back as it
was (`loadCustomRules_saveText`).

The stream is not asked whether it took the whole text; that it did is a part of what it means for a
save to succeed.
-/

open Foundation ByteString

namespace LanProxyGateway

namespace RuleManager

open RouteEngine

/-- `nlohmann::json`: what `dump(4)` writes and what reading makes of a text, if anything. -/
structure JsonFormat where
  dump : Json → ByteString
  parse : ByteString → Option Json

/-- The files by their paths. -/
abbrev Disk := ByteString → Option ByteString

/-- What the file system answers to a save, with the number of bytes that it takes. -/
structure WriteAnswer extends SaveAnswer where
  written : ℕ

def tmpPath (path : ByteString) : ByteString := path ++ ofString ".tmp"

variable (format : JsonFormat)

/-- `rule_manager::save_to_file`, with the texts. Nothing can be renamed to the empty path. -/
def saveText (answer : WriteAnswer) (e : RouteEngine) (path : ByteString) (disk : Disk) :
    Bool × Disk :=
  if !answer.opensTmp then (false, disk)
  else
    let text := (format.dump (savedRules e)).take answer.written
    if answer.renames && !path.isEmpty then
      (true, Function.update (Function.update disk (tmpPath path) none) path (some text))
    else (false, Function.update disk (tmpPath path) (some text))

/-- What reading a file finds. -/
def contents (disk : Disk) (path : ByteString) : FileContent :=
  match disk path with
  | none => .absent
  | some text => (format.parse text).elim .malformed .json

/-- A save that returns true and has written the whole text. -/
structure Succeeds (answer : WriteAnswer) (e : RouteEngine) (path : ByteString) (disk : Disk) :
    Prop where
  returned : (saveText format answer e path disk).1 = true
  whole : (format.dump (savedRules e)).length ≤ answer.written

variable {format} {answer : WriteAnswer} {e : RouteEngine} {path : ByteString} {disk : Disk}

/-- The printer is never given a string that is not UTF-8. -/
theorem isSerializable_savedRules (e : RouteEngine) : (savedRules e).isSerializable := by
  refine Json.isSerializable_ofFields ?_
  rw [List.forall_mem_singleton, Json.isSerializable_array, List.forall_mem_map]
  intro rule _
  refine Json.isSerializable_ofFields ?_
  simp only [List.forall_mem_cons, Json.isSerializable_string]
  refine ⟨rule.ruleId.utf8, rule.ruleType.utf8, rule.pattern.utf8, ?_, rfl, rfl,
    List.forall_mem_nil _⟩
  cases rule.action
  · exact utf8_ofString _
  · exact utf8_ofString _

theorem Succeeds.path_ne_nil (h : Succeeds format answer e path disk) : path ≠ [] := by
  rintro rfl
  have hreturned := h.returned
  rw [saveText] at hreturned
  split at hreturned
  · cases hreturned
  · rw [List.isEmpty_nil, Bool.not_true, Bool.and_false] at hreturned
    cases hreturned

/-- After a save that succeeds the file has the text. -/
theorem Succeeds.saveText_eq (h : Succeeds format answer e path disk) :
    (saveText format answer e path disk).2 path = some (format.dump (savedRules e)) := by
  have hreturned := h.returned
  rw [saveText] at hreturned ⊢
  split at hreturned
  · cases hreturned
  rename_i hopens
  rw [if_neg hopens]
  simp only at hreturned ⊢
  split at hreturned
  · rename_i hrenames
    rw [if_pos hrenames, List.take_of_length_le h.whole]
    exact Function.update_self path _ _
  · cases hreturned

/-- **Custom rules come back from their file**, all of them and no others, into any engine. -/
theorem loadCustomRules_saveText (format : JsonFormat) (answer : WriteAnswer) (e e' : RouteEngine)
    (path : ByteString) (disk : Disk) (hbuiltin : ∀ rule ∈ e.builtinRules, rule.isBuiltin = true)
    (hcustom : ∀ rule ∈ e.customRules, rule.isBuiltin = false)
    (hformat : format.parse (format.dump (savedRules e)) = some (savedRules e))
    (hsaved : Succeeds format answer e path disk) :
    (e'.loadCustomRules (contents format (saveText format answer e path disk).2) path).customRules =
      e.customRules := by
  have hcontents : contents format (saveText format answer e path disk).2 path =
      .json (savedRules e) := by
    rw [contents, hsaved.saveText_eq]
    simp only [hformat, Option.elim_some]
  rw [loadCustomRules, hcontents, rulesIn_savedRules hbuiltin hcustom,
    if_neg (by simpa using hsaved.path_ne_nil)]

/-- A builtin rule and a custom one. -/
def sampleEngine : RouteEngine where
  builtinRules := [{ ruleId := .lit "b1", ruleType := .lit "domain_suffix", pattern := .lit ".cn",
                     action := .direct, isBuiltin := true }]
  customRules := [{ ruleId := .lit "c1", ruleType := .lit "ip_cidr", pattern := .lit "10.0.0.0/8",
                    action := .proxy, priority := -5, enabled := false }]

/-- What `dump(4)` makes of the custom rule. -/
def sampleText : ByteString :=
  ofString "\x7b\n    \"rules\": [\n        \x7b\n" ++
  ofString "            \"action\": \"proxy\",\n            \"enabled\": false,\n" ++
  ofString "            \"pattern\": \"10.0.0.0/8\",\n            \"priority\": -5,\n" ++
  ofString "            \"rule_id\": \"c1\",\n            \"rule_type\": \"ip_cidr\"\n" ++
  ofString "        \x7d\n    ]\n\x7d"

/-- The printer and the parser, for this text. -/
def sampleFormat : JsonFormat where
  dump _ := sampleText
  parse text := if text = sampleText then some (savedRules sampleEngine) else none

theorem parse_dump_sample : sampleFormat.parse (sampleFormat.dump (savedRules sampleEngine)) =
    some (savedRules sampleEngine) := by
  simp only [sampleFormat, if_true]

theorem loadCustomRules_saveText_sample :
    (loadCustomRules {} (contents sampleFormat (saveText sampleFormat { written := 1000 }
      sampleEngine (ofString "custom_rules.json") fun _ ↦ none).2)
        (ofString "custom_rules.json")).customRules = sampleEngine.customRules := by
  have hwhole : (sampleFormat.dump (savedRules sampleEngine)).length ≤ 1000 := by
    decide +kernel
  exact loadCustomRules_saveText sampleFormat { written := 1000 } sampleEngine {}
    (ofString "custom_rules.json") (fun _ ↦ none) (by decide) (by decide) parse_dump_sample
    ⟨rfl, hwhole⟩

end RuleManager

end LanProxyGateway
