import LanProxyGateway.Foundation.AsciiCase
import LanProxyGateway.Foundation.Text

/-!
# The tokens of a line of Python

Names, numbers, string literals and operators of one character, read byte by byte. A literal with an
escape, a prefix or three quotes, a comment, a second line and anything that is not ASCII are beyond
this lexer.

Tokens are only added (`foldl_step`), so a line can be read in parts, and what stands between two
quotes is one literal, if it has no quote, no backslash and no end of a line in it (`lex_literal`).
-/

namespace Foundation

namespace Python

open ByteString

inductive Token
  | name (text : ByteString)
  | number (text : ByteString)
  | string (text : ByteString)
  | operator (c : UInt8)
  deriving DecidableEq, Repr

inductive Mode
  | between
  | name (text : ByteString)
  | number (text : ByteString)
  | string (quote : UInt8) (text : ByteString)
  /-- Behind two quotes, where a third one would begin a long literal. -/
  | emptied (quote : UInt8)
  | beyond
  deriving DecidableEq, Repr

structure Lexer where
  tokens : List Token := []
  mode : Mode := .between
  deriving DecidableEq, Repr

/-- The first byte of a name. -/
def startsName (c : UInt8) : Bool := isLetter c || c == 95

def isQuote (c : UInt8) : Bool := c == 39 || c == 34

/-- A control character, `#`, a backslash or a byte that is not ASCII. -/
def isOutside (c : UInt8) : Bool := c < 32 || c == 35 || c == 92 || 127 ≤ c

/-- A byte where no token has begun. -/
def start (ts : List Token) (c : UInt8) : Lexer :=
  if c == 32 then ⟨ts, .between⟩
  else if startsName c then ⟨ts, .name [c]⟩
  else if isDigit c then ⟨ts, .number [c]⟩
  else if isQuote c then ⟨ts, .string c []⟩
  else if isOutside c then ⟨ts, .beyond⟩
  else ⟨ts ++ [.operator c], .between⟩

def step (l : Lexer) (c : UInt8) : Lexer :=
  match l.mode with
  | .between => start l.tokens c
  | .name text =>
    if startsName c || isDigit c then { l with mode := .name (text ++ [c]) }
    else if isQuote c then { l with mode := .beyond }
    else start (l.tokens ++ [.name text]) c
  | .number text =>
    if startsName c || isDigit c || c == 46 then { l with mode := .number (text ++ [c]) }
    else start (l.tokens ++ [.number text]) c
  | .string quote text =>
    if c = quote then
      ⟨l.tokens ++ [.string text], if text = [] then .emptied quote else .between⟩
    else if c = 92 ∨ c = 10 then { l with mode := .beyond }
    else { l with mode := .string quote (text ++ [c]) }
  | .emptied quote => if c = quote then { l with mode := .beyond } else start l.tokens c
  | .beyond => l

def lex (line : ByteString) : Lexer := line.foldl step {}

/-- The tokens of a line, if it is one that the lexer takes. -/
def tokens (line : ByteString) : Option (List Token) :=
  match (lex line).mode with
  | .between | .emptied _ => some (lex line).tokens
  | .name text => some ((lex line).tokens ++ [.name text])
  | .number text => some ((lex line).tokens ++ [.number text])
  | _ => none

/-- The token without the content of a literal. -/
def Token.shape : Token → Token
  | .string _ => .string []
  | t => t

/-! ## Reading in parts -/

variable {ts us : List Token} {m : Mode} {a b s : ByteString}

theorem start_append (ts us : List Token) (c : UInt8) :
    start (ts ++ us) c = ⟨ts ++ (start us c).tokens, (start us c).mode⟩ := by
  simp only [start]
  split_ifs
  all_goals first | rfl | exact congrArg (Lexer.mk · _) (List.append_assoc _ _ _)

theorem step_append (ts us : List Token) (m : Mode) (c : UInt8) :
    step ⟨ts ++ us, m⟩ c = ⟨ts ++ (step ⟨us, m⟩ c).tokens, (step ⟨us, m⟩ c).mode⟩ := by
  cases m with
  | between => exact start_append ts us c
  | name text =>
    simp only [step, List.append_assoc, start_append ts]
    split_ifs <;> rfl
  | number text =>
    simp only [step, List.append_assoc, start_append ts]
    split_ifs <;> rfl
  | string quote text =>
    simp only [step, List.append_assoc]
    split_ifs <;> rfl
  | emptied quote =>
    simp only [step, start_append ts]
    split_ifs <;> rfl
  | beyond => rfl

/-- What has been read stays. -/
theorem foldl_step (ts us : List Token) (m : Mode) (s : ByteString) : s.foldl step ⟨ts ++ us, m⟩ =
    ⟨ts ++ (s.foldl step ⟨us, m⟩).tokens, (s.foldl step ⟨us, m⟩).mode⟩ := by
  induction s generalizing us m with
  | nil => rfl
  | cons c s ih => rw [List.foldl_cons, List.foldl_cons, step_append, ih]

theorem lex_append (ha : (lex a).mode = .between) :
    lex (a ++ b) = ⟨(lex a).tokens ++ (lex b).tokens, (lex b).mode⟩ := by
  have hlex : lex a = ⟨(lex a).tokens ++ [], .between⟩ := by
    rw [List.append_nil, ← ha]
  have happend : lex (a ++ b) = b.foldl step (lex a) := List.foldl_append
  rw [happend, hlex, foldl_step, List.append_nil]
  rfl

/-- A text that stands for itself between two quotes. -/
def Plain (quote : UInt8) (s : ByteString) : Prop := ∀ c ∈ s, c ≠ quote ∧ c ≠ 92 ∧ c ≠ 10

theorem foldl_string {quote : UInt8} (ts : List Token) (text : ByteString) (hs : Plain quote s) :
    s.foldl step ⟨ts, .string quote text⟩ = ⟨ts, .string quote (text ++ s)⟩ := by
  induction s generalizing text with
  | nil => rw [List.foldl_nil, List.append_nil]
  | cons c s ih =>
    rw [Plain, List.forall_mem_cons] at hs
    have hstep : step ⟨ts, .string quote text⟩ c = ⟨ts, .string quote (text ++ [c])⟩ := by
      simp only [step, if_neg hs.1.1, hs.1.2.1, hs.1.2.2, or_self, if_false]
    rw [List.foldl_cons, hstep, ih (text ++ [c]) hs.2, List.append_assoc, List.singleton_append]

/-- The quote that ends a literal, and a byte that is none. -/
theorem foldl_close {quote c : UInt8} (ts : List Token) (text : ByteString) (hc : c ≠ quote) :
    (quote :: c :: b).foldl step ⟨ts, .string quote text⟩ =
      (c :: b).foldl step ⟨ts ++ [.string text], .between⟩ := by
  have hquote : step ⟨ts, .string quote text⟩ quote =
      ⟨ts ++ [.string text], if text = [] then .emptied quote else .between⟩ := if_pos rfl
  have hemptied : step ⟨ts ++ [.string text], .emptied quote⟩ c =
      step ⟨ts ++ [.string text], .between⟩ c := if_neg hc
  rw [List.foldl_cons, hquote]
  split
  · rw [List.foldl_cons, List.foldl_cons, hemptied]
  · rfl

/-- **What stands between two quotes is one literal.** -/
theorem lex_literal {c : UInt8} (ha : (lex a).mode = .between) (hs : Plain 39 s)
    (hb : b.head? = some c) (hc : c ≠ 39) :
    lex (a ++ 39 :: (s ++ 39 :: b)) =
      ⟨(lex a).tokens ++ .string s :: (lex b).tokens, (lex b).mode⟩ := by
  have hopen : step {} 39 = ⟨[], .string 39 []⟩ := rfl
  obtain ⟨b, rfl⟩ := List.head?_eq_some_iff.mp hb
  have hlex : lex (39 :: (s ++ 39 :: c :: b)) =
      ⟨.string s :: (lex (c :: b)).tokens, (lex (c :: b)).mode⟩ := by
    rw [lex, List.foldl_cons, hopen, List.foldl_append, foldl_string [] [] hs, List.nil_append,
      foldl_close [] s hc]
    exact foldl_step [.string s] [] .between (c :: b)
  rw [lex_append ha, hlex]

theorem tokens_of_between (ha : (lex a).mode = .between) : tokens a = some (lex a).tokens := by
  rw [tokens, ha]

end Python

end Foundation
