import TunnelFirewall.Text.Numeral

/-!
# JSON tokens

A JSON text is a row of tokens with blanks between them. Strings are decoded here: each
character or escape names a code unit, and a text results unless half of a surrogate pair
stands alone.
-/
namespace TunnelFirewall.PlainJson

inductive Token
  | openArray
  | closeArray
  | openObject
  | closeObject
  | comma
  | colon
  | string (text : Option String)
  | null
  | bool (value : Bool)
  | count (value : Nat)
  | number (lexeme : String)
deriving DecidableEq

namespace Token

/-- Characters that may stand between tokens. -/
def isBlank (c : Char) : Bool := c == ' ' || c == '\t' || c == '\n' || c == '\r'

/-- Splits a text behind the opening quote at the closing quote. A backslash keeps the character
behind it from closing. `body` is what has been read, backwards. -/
def closeQuote? (body : List Char) : List Char → Option (List Char × List Char)
  | [] => none
  | '"' :: rest => some (body.reverse, rest)
  | '\\' :: c :: rest => closeQuote? (c :: '\\' :: body) rest
  | c :: rest => closeQuote? (c :: body) rest

theorem length_closeQuote? {text : List Char} {body front back : List Char}
    (h : closeQuote? body text = some (front, back)) : back.length < text.length := by
  fun_induction closeQuote? body text <;> grind

/-- The number that four hexadecimal digits write. -/
def fourDigits? (a b c d : Char) : Option Nat := Numeral.digits? 16 [a, b, c, d]

/-- The code units that the inside of a quoted string names. Control characters are refused. -/
def codeUnits? : List Char → Option (List Nat)
  | [] => some []
  | '\\' :: 'u' :: a :: b :: c :: d :: rest =>
    match fourDigits? a b c d, codeUnits? rest with
    | some unit, some units => some (unit :: units)
    | _, _ => none
  | '\\' :: c :: rest =>
    let unit? :=
      match c with
      | '"' => some 0x22
      | '\\' => some 0x5C
      | '/' => some 0x2F
      | 'b' => some 0x08
      | 'f' => some 0x0C
      | 'n' => some 0x0A
      | 'r' => some 0x0D
      | 't' => some 0x09
      | _ => none
    match unit?, codeUnits? rest with
    | some unit, some units => some (unit :: units)
    | _, _ => none
  | c :: rest => if c.toNat < 0x20 ∨ c = '\\' then none else (codeUnits? rest).map (c.toNat :: ·)

/-- The first half of a surrogate pair. -/
def isHighSurrogate (unit : Nat) : Bool := 0xD800 ≤ unit && unit ≤ 0xDBFF

/-- The second half of a surrogate pair. -/
def isLowSurrogate (unit : Nat) : Bool := 0xDC00 ≤ unit && unit ≤ 0xDFFF

/-- The characters that code units name, surrogate pairs joined. -/
def characters? : List Nat → Option (List Char)
  | [] => some []
  | high :: low :: rest =>
    if isHighSurrogate high then
      if isLowSurrogate low then
        let code := 0x10000 + (high - 0xD800) * 0x400 + (low - 0xDC00)
        (characters? rest).map (Char.ofNat code :: ·)
      else none
    else if isLowSurrogate high then none
    else (characters? (low :: rest)).map (Char.ofNat high :: ·)
  | [unit] =>
    if isHighSurrogate unit || isLowSurrogate unit then none else some [Char.ofNat unit]

/-- The string token with a given inside. -/
def ofQuoted? (body : List Char) : Option Token :=
  (codeUnits? body).map fun units => .string ((characters? units).map String.ofList)

/-- Characters that a number may be made of. -/
def isNumeric (c : Char) : Bool :=
  c.isDigit || c == '-' || c == '+' || c == '.' || c == 'e' || c == 'E'

/-- A nonempty row of decimal digits. -/
def isDigits (row : List Char) : Bool := !row.isEmpty && row.all Char.isDigit

/-- A whole part: digits without a leading zero, unless it is zero itself. -/
def isWhole (row : List Char) : Bool := isDigits row && (row.head? != some '0' || row.length == 1)

/-- A row that starts with a digit, without its leading digits. -/
def dropDigits? : List Char → Option (List Char)
  | [] => none
  | c :: rest => if c.isDigit then some (rest.dropWhile Char.isDigit) else none

/-- An exponent behind its letter: an optional sign and digits up to the end. -/
def isExponent : List Char → Bool
  | '+' :: row => isDigits row
  | '-' :: row => isDigits row
  | row => isDigits row

/-- An exponent, or nothing. -/
def isExponentPart : List Char → Bool
  | [] => true
  | c :: row => (c == 'e' || c == 'E') && isExponent row

/-- What may follow the whole part of a number: a fraction and an exponent, each optional. -/
def isNumberTail : List Char → Bool
  | '.' :: row =>
    match dropDigits? row with
    | some rest => isExponentPart rest
    | none => false
  | row => isExponentPart row

/-- The token of a row of numeric characters. -/
def ofNumeric? (row : List Char) : Option Token :=
  if isWhole row then (Numeral.digits? 10 row).map .count
  else
    let unsigned := if row.head? = some '-' then row.drop 1 else row
    let whole := unsigned.takeWhile Char.isDigit
    if isWhole whole && isNumberTail (unsigned.drop whole.length) then
      some (.number (String.ofList row))
    else none

/-- The token of a row of letters. -/
def ofWord? (row : List Char) : Option Token :=
  match String.ofList row with
  | "null" => some .null
  | "true" => some (.bool true)
  | "false" => some (.bool false)
  | _ => none

/-- The token that is a single character. -/
def ofMark? : Char → Option Token
  | '[' => some .openArray
  | ']' => some .closeArray
  | '\x7b' => some .openObject
  | '\x7d' => some .closeObject
  | ',' => some .comma
  | ':' => some .colon
  | _ => none

/-- The first token of a text without leading blanks, and what follows it. -/
def next? (first : Char) (rest : List Char) : Option (Token × List Char) :=
  if first = '"' then
    match closeQuote? [] rest with
    | some (body, behind) => (ofQuoted? body).map (·, behind)
    | none => none
  else if isNumeric first then
    (ofNumeric? (first :: rest.takeWhile isNumeric)).map (·, rest.dropWhile isNumeric)
  else if first.isAlpha then
    (ofWord? (first :: rest.takeWhile Char.isAlpha)).map (·, rest.dropWhile Char.isAlpha)
  else (ofMark? first).map (·, rest)

theorem length_next? {first : Char} {rest behind : List Char} {token : Token}
    (h : next? first rest = some (token, behind)) : behind.length ≤ rest.length := by
  unfold next? at h
  split at h
  · split at h
    · rename_i quoted
      have := length_closeQuote? quoted
      simp only [Option.map_eq_some_iff, Prod.mk.injEq] at h
      obtain ⟨_, _, _, rfl⟩ := h
      omega
    · simp at h
  · split at h
    · simp only [Option.map_eq_some_iff, Prod.mk.injEq] at h
      obtain ⟨_, _, _, rfl⟩ := h
      exact (List.dropWhile_sublist _).length_le
    · split at h
      · simp only [Option.map_eq_some_iff, Prod.mk.injEq] at h
        obtain ⟨_, _, _, rfl⟩ := h
        exact (List.dropWhile_sublist _).length_le
      · simp only [Option.map_eq_some_iff, Prod.mk.injEq] at h
        obtain ⟨_, _, _, rfl⟩ := h
        exact Nat.le_refl _

/-- The tokens of a text, on top of those read so far, which are kept backwards. -/
def splitAfter? (tokens : List Token) : List Char → Option (List Token)
  | [] => some tokens.reverse
  | c :: rest =>
    if isBlank c then splitAfter? tokens rest
    else
      match _found : next? c rest with
      | some (token, behind) => splitAfter? (token :: tokens) behind
      | none => none
termination_by text => text.length
decreasing_by
  · simp
  · have := length_next? _found
    simp only [List.length_cons]
    omega

def split? (text : List Char) : Option (List Token) := splitAfter? [] text

end Token

end TunnelFirewall.PlainJson
