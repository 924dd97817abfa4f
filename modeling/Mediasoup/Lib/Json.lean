/-
JSON texts (RFC 8259) and their values.

`parse` is a reference parser.  It reads the whole grammar; numbers are kept as they are
written, and all members of an object are kept.  `print` writes a value without spaces.
-/
import Mathlib.Data.Nat.Notation

namespace Json

abbrev Text := List Char

inductive Value where
  | null
  | bool (b : Bool)
  | number (literal : Text)
  | string (text : Text)
  | array (items : List Value)
  | object (members : List (Text × Value))

def Value.isObject : Value → Bool
  | .object _ => true
  | _ => false

def Value.isStructured : Value → Bool
  | .object _ | .array _ => true
  | _ => false

/-! ### The parser -/

def isSpace (c : Char) : Bool := c = ' ' || c = '\t' || c = '\n' || c = '\r'

def isDigit (c : Char) : Bool := '0' ≤ c && c ≤ '9'

def skip (t : Text) : Text := t.dropWhile isSpace

def expect (c : Char) : Text → Option Text
  | [] => none
  | d :: t => if d = c then some t else none

def hexDigit (c : Char) : Option ℕ :=
  if isDigit c then some (c.toNat - '0'.toNat)
  else if 'a' ≤ c ∧ c ≤ 'f' then some (c.toNat - 'a'.toNat + 10)
  else if 'A' ≤ c ∧ c ≤ 'F' then some (c.toNat - 'A'.toNat + 10)
  else none

def hex4 : Text → Option (ℕ × Text)
  | a :: b :: c :: d :: t => do
    let a ← hexDigit a
    let b ← hexDigit b
    let c ← hexDigit c
    let d ← hexDigit d
    return (((a * 16 + b) * 16 + c) * 16 + d, t)
  | _ => none

/-- The escapes of one letter. -/
def escape (c : Char) : Option Char :=
  if c = '"' ∨ c = '\\' ∨ c = '/' then some c
  else if c = 'b' then some '\x08'
  else if c = 'f' then some '\x0c'
  else if c = 'n' then some '\n'
  else if c = 'r' then some '\r'
  else if c = 't' then some '\t'
  else none

/-- The second half of a character that is not in the basic plane. -/
def lowSurrogate (high : ℕ) (t : Text) : Option (Char × Text) := do
  let t ← expect '\\' t
  let t ← expect 'u' t
  let (low, t) ← hex4 t
  if 0xDC00 ≤ low ∧ low < 0xE000 then
    return (Char.ofNat (0x10000 + (high - 0xD800) * 0x400 + (low - 0xDC00)), t)
  else none

/-- What follows a backslash. -/
def escaped : Text → Option (Char × Text)
  | [] => none
  | c :: t =>
    if c = 'u' then do
      let (n, t) ← hex4 t
      if 0xD800 ≤ n ∧ n < 0xDC00 then lowSurrogate n t
      else if 0xDC00 ≤ n ∧ n < 0xE000 then none
      else return (Char.ofNat n, t)
    else do
      let c ← escape c
      return (c, t)

/-- A string after its first quotation mark. -/
def string : ℕ → Text → Option (Text × Text)
  | 0, _ => none
  | _, [] => none
  | fuel + 1, c :: t =>
    if c = '"' then some ([], t)
    else if c = '\\' then do
      let (c, t) ← escaped t
      let (s, t) ← string fuel t
      return (c :: s, t)
    else if c < ' ' then none
    else do
      let (s, t) ← string fuel t
      return (c :: s, t)

def digits (t : Text) : Text × Text := (t.takeWhile isDigit, t.dropWhile isDigit)

def sign : Text → Text × Text
  | [] => ([], [])
  | c :: t => if c = '-' then (['-'], t) else ([], c :: t)

def integer : Text → Option (Text × Text)
  | [] => none
  | c :: t =>
    if c = '0' then some (['0'], t)
    else if isDigit c then some (digits (c :: t)) else none

def fraction : Text → Option (Text × Text)
  | [] => some ([], [])
  | c :: t =>
    if c = '.' then
      if (digits t).1 = [] then none else some ('.' :: (digits t).1, (digits t).2)
    else some ([], c :: t)

def exponentSign : Text → Text × Text
  | [] => ([], [])
  | c :: t => if c = '-' ∨ c = '+' then ([c], t) else ([], c :: t)

def exponent : Text → Option (Text × Text)
  | [] => some ([], [])
  | c :: t =>
    if c = 'e' ∨ c = 'E' then
      let (s, t) := exponentSign t
      if (digits t).1 = [] then none else some (c :: s ++ (digits t).1, (digits t).2)
    else some ([], c :: t)

def number (t : Text) : Option (Text × Text) := do
  let (s, t) := sign t
  let (i, t) ← integer t
  let (f, t) ← fraction t
  let (e, t) ← exponent t
  return (s ++ i ++ f ++ e, t)

def keyword : Text → Text → Option Text
  | [], t => some t
  | c :: word, t => do
    let t ← expect c t
    keyword word t

mutual

def value : ℕ → Text → Option (Value × Text)
  | 0, _ => none
  | _, [] => none
  | fuel + 1, c :: t =>
    if c = '\x7b' then
      if (skip t).head? = some '\x7d' then some (.object [], (skip t).tail)
      else do
        let (ms, t) ← members fuel (skip t)
        return (.object ms, t)
    else if c = '[' then
      if (skip t).head? = some ']' then some (.array [], (skip t).tail)
      else do
        let (vs, t) ← items fuel (skip t)
        return (.array vs, t)
    else if c = '"' then do
      let (s, t) ← string fuel t
      return (.string s, t)
    else if c = 't' then do
      let t ← keyword ['r', 'u', 'e'] t
      return (.bool true, t)
    else if c = 'f' then do
      let t ← keyword ['a', 'l', 's', 'e'] t
      return (.bool false, t)
    else if c = 'n' then do
      let t ← keyword ['u', 'l', 'l'] t
      return (.null, t)
    else do
      let (l, t) ← number (c :: t)
      return (.number l, t)

def items : ℕ → Text → Option (List Value × Text)
  | 0, _ => none
  | fuel + 1, t => do
    let (v, t) ← value fuel t
    if (skip t).head? = some ',' then do
      let (vs, t) ← items fuel (skip (skip t).tail)
      return (v :: vs, t)
    else do
      let t ← expect ']' (skip t)
      return ([v], t)

def members : ℕ → Text → Option (List (Text × Value) × Text)
  | 0, _ => none
  | fuel + 1, t => do
    let t ← expect '"' t
    let (name, t) ← string fuel t
    let t ← expect ':' (skip t)
    let (v, t) ← value fuel (skip t)
    if (skip t).head? = some ',' then do
      let (ms, t) ← members fuel (skip (skip t).tail)
      return ((name, v) :: ms, t)
    else do
      let t ← expect '\x7d' (skip t)
      return ([(name, v)], t)

end

/-- The value of a text, which ends at its end or at a NUL character. -/
def parse (t : Text) : Option Value := do
  let (v, t) ← value (t.length + 1) (skip t)
  if (skip t).head? = none ∨ (skip t).head? = some '\x00' then return v else none

/-! ### The printer -/

/-- A character in a string. -/
def quoteChar (c : Char) : Text :=
  match [('"', '"'), ('\\', '\\'), ('\x08', 'b'), ('\x0c', 'f'), ('\n', 'n'), ('\r', 'r'),
    ('\t', 't')].lookup c with
  | some d => ['\\', d]
  | none =>
    if c < ' ' then
      ['\\', 'u', '0', '0', Nat.digitChar (c.toNat / 16), Nat.digitChar (c.toNat % 16)]
    else [c]

def quote (t : Text) : Text := '"' :: t.flatMap quoteChar ++ ['"']

theorem length_quote_le (t : Text) : (quote t).length ≤ 2 + 6 * t.length := by
  have hchar : ∀ c, (quoteChar c).length ≤ 6 := by
    intro c
    rw [quoteChar]
    split
    · simp
    · split <;> simp
  induction t with
  | nil => exact Nat.le_refl _
  | cons c t ih =>
    have := hchar c
    simp only [quote, List.flatMap_cons, List.cons_append, List.length_cons,
      List.length_append] at ih ⊢
    omega

mutual

def print : Value → Text
  | .null => ['n', 'u', 'l', 'l']
  | .bool true => ['t', 'r', 'u', 'e']
  | .bool false => ['f', 'a', 'l', 's', 'e']
  | .number literal => literal
  | .string text => quote text
  | .array items => '[' :: printItems items ++ [']']
  | .object members => '\x7b' :: printMembers members ++ ['\x7d']

def printItems : List Value → Text
  | [] => []
  | [v] => print v
  | v :: vs => print v ++ ',' :: printItems vs

def printMembers : List (Text × Value) → Text
  | [] => []
  | [(name, v)] => quote name ++ ':' :: print v
  | (name, v) :: ms => quote name ++ ':' :: print v ++ ',' :: printMembers ms

end

end Json
