import BufferBridge.Bytes

/-! UTF-8: text as bytes and bytes as text. Where bytes are not text, the fault tells how far they
were, and how long the longest start of a character is that cannot be continued. -/
namespace BufferBridge.Utf8

/-- Why bytes are not text. -/
inductive Fault
  /-- After `index` good bytes, `length` bytes start a character and are not followed by more of it. -/
  | invalid (index length : Nat)
  /-- After `index` good bytes, the bytes end inside a character. -/
  | incomplete (index : Nat)
  deriving Repr, DecidableEq

def Fault.message : Fault → String
  | invalid index length => s!"invalid utf-8 sequence of {length} bytes from index {index}"
  | incomplete index => s!"incomplete utf-8 byte sequence from index {index}"

/-- The bytes of a text. -/
def encode (text : String) : Bytes := text.toList.flatMap String.utf8EncodeChar

/-- Whether a byte lies between two others. -/
def within (low high byte : UInt8) : Bool := low ≤ byte && byte ≤ high

/-- Whether a byte can stand inside a character. -/
def isContinuation (byte : UInt8) : Bool := within 0x80 0xBF byte

/-- The six bits that a byte inside a character carries. -/
def payload (byte : UInt8) : Nat := byte.toNat % 64

/-- Whether `second` may follow `first` at the start of a character of three bytes: neither shorter
forms nor surrogates are let through. -/
def opensThree (first second : UInt8) : Bool :=
  if first = 0xE0 then within 0xA0 0xBF second
  else if first = 0xED then within 0x80 0x9F second
  else isContinuation second

/-- Whether `second` may follow `first` at the start of a character of four bytes: neither shorter
forms nor numbers above the last character are let through. -/
def opensFour (first second : UInt8) : Bool :=
  if first = 0xF0 then within 0x90 0xBF second
  else if first = 0xF4 then within 0x80 0x8F second
  else isContinuation second

/-- The text that `bytes` are, after `before`, the characters of the first `index` bytes with the last
one first. -/
def decodeFrom (index : Nat) (before : List Char) (bytes : Bytes) : Except Fault (List Char) :=
  match bytes with
  | [] => .ok before.reverse
  | first :: rest =>
    if first < 0x80 then
      decodeFrom (index + 1) (Char.ofNat first.toNat :: before) rest
    else if within 0xC2 0xDF first then
      match rest with
      | [] => .error (.incomplete index)
      | second :: rest =>
        if isContinuation second then
          let char := Char.ofNat (first.toNat % 32 * 64 + payload second)
          decodeFrom (index + 2) (char :: before) rest
        else .error (.invalid index 1)
    else if within 0xE0 0xEF first then
      match rest with
      | [] => .error (.incomplete index)
      | second :: rest =>
        if opensThree first second then
          match rest with
          | [] => .error (.incomplete index)
          | third :: rest =>
            if isContinuation third then
              let char := Char.ofNat
                (first.toNat % 16 * 4096 + payload second * 64 + payload third)
              decodeFrom (index + 3) (char :: before) rest
            else .error (.invalid index 2)
        else .error (.invalid index 1)
    else if within 0xF0 0xF4 first then
      match rest with
      | [] => .error (.incomplete index)
      | second :: rest =>
        if opensFour first second then
          match rest with
          | [] => .error (.incomplete index)
          | third :: rest =>
            if isContinuation third then
              match rest with
              | [] => .error (.incomplete index)
              | fourth :: rest =>
                if isContinuation fourth then
                  let char := Char.ofNat (first.toNat % 8 * 262144 + payload second * 4096 +
                    payload third * 64 + payload fourth)
                  decodeFrom (index + 4) (char :: before) rest
                else .error (.invalid index 3)
            else .error (.invalid index 2)
        else .error (.invalid index 1)
    else .error (.invalid index 1)

/-- The text that `bytes` are. -/
def decode (bytes : Bytes) : Except Fault String :=
  (decodeFrom 0 [] bytes).map String.ofList

end BufferBridge.Utf8
