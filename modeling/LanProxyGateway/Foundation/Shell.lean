import LanProxyGateway.Foundation.Text

/-!
# The words of a command line

How a shell takes a line apart, byte by byte: words, which may be quoted in part or as a whole, and
operators of one character. Quotes are removed on the way. What would be expanded or escaped, and
comments, are beyond this lexer, so a line that it takes has none of them; a line whose quotes do
not end is not taken either.

Between double quotes a byte that is none of the four special ones stands for itself
(`foldl_doubleQuoted`).
-/

namespace Foundation

namespace Shell

open ByteString

inductive Token
  | word (text : ByteString)
  /-- Digits directly in front of a redirection. -/
  | ioNumber (digits : ByteString)
  | operator (c : UInt8)
  deriving DecidableEq, Repr

inductive Mode
  | between
  | word (text : ByteString) (quoted : Bool)
  | doubleQuoted (text : ByteString)
  | singleQuoted (text : ByteString)
  | beyond
  deriving DecidableEq, Repr

structure Lexer where
  tokens : List Token := []
  mode : Mode := .between
  deriving DecidableEq, Repr

def isBlank (c : UInt8) : Bool := c == 32 || c == 9

/-- One of `|&;<>()` or the end of a line. -/
def isOperator (c : UInt8) : Bool := c ∈ ([124, 38, 59, 60, 62, 40, 41, 10] : ByteString)

/-- The dollar sign, the backquote or the backslash. -/
def isSpecial (c : UInt8) : Bool := c ∈ ([36, 96, 92] : ByteString)

/-- A word goes on with a byte. -/
def extend (text : ByteString) (quoted : Bool) (c : UInt8) : Mode :=
  if c = 34 then .doubleQuoted text
  else if c = 39 then .singleQuoted text
  else if isSpecial c then .beyond
  else .word (text ++ [c]) quoted

/-- A word that ends with an operator. -/
def beforeOperator (text : ByteString) (quoted : Bool) (c : UInt8) : Token :=
  if !quoted && text.all isDigit && (c == 60 || c == 62) then .ioNumber text else .word text

def step (l : Lexer) (c : UInt8) : Lexer :=
  match l.mode with
  | .between =>
    if isBlank c then l
    else if isOperator c then ⟨l.tokens ++ [.operator c], .between⟩
    else if c = 35 then { l with mode := .beyond }
    else { l with mode := extend [] false c }
  | .word text quoted =>
    if isBlank c then ⟨l.tokens ++ [.word text], .between⟩
    else if isOperator c then
      ⟨l.tokens ++ [beforeOperator text quoted c, .operator c], .between⟩
    else { l with mode := extend text quoted c }
  | .doubleQuoted text =>
    if c = 34 then { l with mode := .word text true }
    else if isSpecial c then { l with mode := .beyond }
    else { l with mode := .doubleQuoted (text ++ [c]) }
  | .singleQuoted text =>
    if c = 39 then { l with mode := .word text true }
    else { l with mode := .singleQuoted (text ++ [c]) }
  | .beyond => l

/-- The tokens at the end of the line. -/
def Lexer.finish (l : Lexer) : Option (List Token) :=
  match l.mode with
  | .between => some l.tokens
  | .word text _ => some (l.tokens ++ [.word text])
  | _ => none

/-- The tokens of a line, if it is one that the lexer takes. -/
def tokens (line : ByteString) : Option (List Token) := (line.foldl step {}).finish

/-- A text that stands for itself between double quotes. -/
def Plain (s : ByteString) : Prop := ∀ c ∈ s, c ≠ 34 ∧ isSpecial c = false

instance : DecidablePred Plain := List.decidableBAll fun c ↦ c ≠ 34 ∧ isSpecial c = false

variable {s t : ByteString}

theorem Plain.append (hs : Plain s) (ht : Plain t) : Plain (s ++ t) :=
  List.forall_mem_append.mpr ⟨hs, ht⟩

theorem foldl_doubleQuoted (ts : List Token) (text : ByteString) (hs : Plain s) :
    s.foldl step ⟨ts, .doubleQuoted text⟩ = ⟨ts, .doubleQuoted (text ++ s)⟩ := by
  induction s generalizing text with
  | nil => rw [List.foldl_nil, List.append_nil]
  | cons c s ih =>
    rw [Plain, List.forall_mem_cons] at hs
    have hstep : step ⟨ts, .doubleQuoted text⟩ c = ⟨ts, .doubleQuoted (text ++ [c])⟩ := by
      simp only [step, if_neg hs.1.1, hs.1.2, Bool.false_eq_true, if_false]
    rw [List.foldl_cons, hstep, ih (text ++ [c]) hs.2, List.append_assoc, List.singleton_append]

end Shell

end Foundation
