import BufferBridge.Json.Fault

/-! Reading JSON from the front of a text: each function takes its part off and gives back what
follows. Values that nobody asks for are skipped; they have to be well formed, but their numbers may
be of any size and their strings may hold halves of surrogate pairs. -/
namespace BufferBridge.Json

/-- What follows the blanks at the front. -/
def skipBlanks : List Char → List Char
  | ' ' :: rest | '\n' :: rest | '\t' :: rest | '\r' :: rest => skipBlanks rest
  | text => text

/-- What follows a word that has to stand at the front. -/
def expect : (word : List Char) → (text : List Char) → Except Fault (List Char)
  | [], text => .ok text
  | c :: word, d :: text => if c = d then expect word text else .error .malformed
  | _ :: _, [] => .error .malformed

/-- What follows the colon after a key. -/
def skipColon (text : List Char) : Except Fault (List Char) :=
  match skipBlanks text with
  | ':' :: rest => .ok rest
  | _ => .error .malformed

/-! ## Strings -/

/-- The value of a hexadecimal digit. -/
def hexDigit? (c : Char) : Option Nat :=
  if '0' ≤ c ∧ c ≤ '9' then some (c.toNat - 48)
  else if 'a' ≤ c ∧ c ≤ 'f' then some (c.toNat - 87)
  else if 'A' ≤ c ∧ c ≤ 'F' then some (c.toNat - 55)
  else none

/-- The value of four hexadecimal digits. -/
def hexWord? (a b c d : Char) : Option Nat := do
  return (((← hexDigit? a) * 16 + (← hexDigit? b)) * 16 + (← hexDigit? c)) * 16 + (← hexDigit? d)

/-- The character that a letter after a backslash stands for. -/
def escaped? : Char → Option Char
  | '"' => some '"'
  | '\\' => some '\\'
  | '/' => some '/'
  | 'b' => some '\x08'
  | 'f' => some '\x0c'
  | 'n' => some '\n'
  | 'r' => some '\r'
  | 't' => some '\t'
  | _ => none

/-- The string whose opening quote was taken off, after the characters `before`, the last one first. -/
def readChars (before : List Char) (text : List Char) : Except Fault (String × List Char) :=
  match text with
  | [] => .error .malformed
  | '"' :: rest => .ok (String.ofList before.reverse, rest)
  | '\\' :: 'u' :: a :: b :: c :: d :: rest =>
    match hexWord? a b c d with
    | none => .error .malformed
    | some high =>
      if 0xDC00 ≤ high ∧ high < 0xE000 then .error .malformed
      else if 0xD800 ≤ high ∧ high < 0xDC00 then
        match rest with
        | '\\' :: 'u' :: a :: b :: c :: d :: rest =>
          match hexWord? a b c d with
          | none => .error .malformed
          | some low =>
            if 0xDC00 ≤ low ∧ low < 0xE000 then
              let char := Char.ofNat (0x10000 + (high - 0xD800) * 0x400 + (low - 0xDC00))
              readChars (char :: before) rest
            else .error .malformed
        | _ => .error .malformed
      else readChars (Char.ofNat high :: before) rest
  | '\\' :: letter :: rest =>
    match escaped? letter with
    | some char => readChars (char :: before) rest
    | none => .error .malformed
  | char :: rest => if char.toNat < 32 then .error .malformed else readChars (char :: before) rest

/-- The string whose opening quote was taken off. -/
def readString (text : List Char) : Except Fault (String × List Char) := readChars [] text

/-- What follows a string whose opening quote was taken off. -/
def skipString : List Char → Except Fault (List Char)
  | [] => .error .malformed
  | '"' :: rest => .ok rest
  | '\\' :: 'u' :: a :: b :: c :: d :: rest =>
    if (hexWord? a b c d).isSome then skipString rest else .error .malformed
  | '\\' :: letter :: rest =>
    if (escaped? letter).isSome then skipString rest else .error .malformed
  | char :: rest => if char.toNat < 32 then .error .malformed else skipString rest

/-! ## Numbers -/

/-- A number as it is written. -/
structure Numeral where
  negative : Bool
  /-- The digits before the point. -/
  whole : List Char
  /-- The digits after the point, none if there is no point. -/
  fraction : List Char
  /-- The sign and the digits of the exponent. -/
  exponent : Option (Bool × List Char)

/-- The digits at the front and what follows them. -/
def spanDigits (text : List Char) : List Char × List Char := text.span Char.isDigit

/-- The digits at the front, of which there has to be one. -/
def someDigits (text : List Char) : Except Fault (List Char × List Char) :=
  match spanDigits text with
  | ([], _) => .error .malformed
  | found => .ok found

/-- The digits before the point: a zero stands alone. -/
def wholeDigits (text : List Char) : Except Fault (List Char × List Char) := do
  let (digits, rest) ← someDigits text
  if digits.head? = some '0' ∧ 1 < digits.length then .error .malformed
  return (digits, rest)

/-- The fraction at the front, if there is a point. -/
def fractionDigits : List Char → Except Fault (List Char × List Char)
  | '.' :: rest => someDigits rest
  | text => .ok ([], text)

/-- The exponent at the front, if there is one: whether it is negative, and its digits. -/
def exponentPart (text : List Char) : Except Fault (Option (Bool × List Char) × List Char) :=
  match text with
  | 'e' :: rest | 'E' :: rest => do
    let (negative, rest) := match rest with
      | '-' :: rest => (true, rest)
      | '+' :: rest => (false, rest)
      | rest => (false, rest)
    let (digits, rest) ← someDigits rest
    return (some (negative, digits), rest)
  | text => .ok (none, text)

/-- The number at the front. -/
def readNumeral (text : List Char) : Except Fault (Numeral × List Char) := do
  let (negative, text) := match text with
    | '-' :: rest => (true, rest)
    | text => (false, text)
  let (whole, text) ← wholeDigits text
  let (fraction, text) ← fractionDigits text
  let (exponent, text) ← exponentPart text
  return (⟨negative, whole, fraction, exponent⟩, text)

/-! ## Values that are passed over -/

mutual

/-- What follows the value at the front. The fuel bounds the number of values and commas passed. -/
def skipValue : (fuel : Nat) → List Char → Except Fault (List Char)
  | 0, _ => .error .malformed
  | fuel + 1, text =>
    match skipBlanks text with
    | 'n' :: rest => expect ['u', 'l', 'l'] rest
    | 't' :: rest => expect ['r', 'u', 'e'] rest
    | 'f' :: rest => expect ['a', 'l', 's', 'e'] rest
    | '"' :: rest => skipString rest
    | '[' :: rest =>
      match skipBlanks rest with
      | ']' :: rest => .ok rest
      | rest => skipItems fuel rest
    | '\x7b' :: rest =>
      match skipBlanks rest with
      | '\x7d' :: rest => .ok rest
      | rest => skipMembers fuel rest
    | rest => (readNumeral rest).map Prod.snd

/-- What follows an array of which at least one value is left. -/
def skipItems : (fuel : Nat) → List Char → Except Fault (List Char)
  | 0, _ => .error .malformed
  | fuel + 1, text => do
    match skipBlanks (← skipValue fuel text) with
    | ',' :: rest => skipItems fuel rest
    | ']' :: rest => .ok rest
    | _ => .error .malformed

/-- What follows an object of which at least one member is left. -/
def skipMembers : (fuel : Nat) → List Char → Except Fault (List Char)
  | 0, _ => .error .malformed
  | fuel + 1, text => do
    match skipBlanks text with
    | '"' :: rest =>
      match skipBlanks (← skipValue fuel (← skipColon (← skipString rest))) with
      | ',' :: rest => skipMembers fuel rest
      | '\x7d' :: rest => .ok rest
      | _ => .error .malformed
    | _ => .error .malformed

end

/-- What follows the value at the front. -/
def skip (text : List Char) : Except Fault (List Char) := skipValue (text.length + 1) text

end BufferBridge.Json
