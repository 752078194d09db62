import BufferBridge.Config
import BufferBridge.Failure
import BufferBridge.Json.Number

/-! Reading a configuration, or an element type, from JSON. Faults are found in reading order: what
stands after the first one is not looked at. -/
namespace BufferBridge.Config

open Json

/-- The value with a given name. -/
def lookup {α : Type} (choices : List (String × α)) (name : String) : Except Fault α :=
  match choices.lookup name with
  | some value => .ok value
  | none => .error (.unknownVariant name (choices.map Prod.fst))

/-- One of a few names: a string, or an object with the name as its one key and null as its value. -/
def readChoice {α : Type} (choices : List (String × α)) (text : List Char) :
    Except Fault (α × List Char) :=
  match skipBlanks text with
  | '"' :: rest => do
    let (name, rest) ← readString rest
    return (← lookup choices name, rest)
  | '\x7b' :: rest =>
    match skipBlanks rest with
    | '"' :: rest => do
      let (name, rest) ← readString rest
      let value ← lookup choices name
      match skipBlanks (← skipColon rest) with
      | 'n' :: rest =>
        match skipBlanks (← expect ['u', 'l', 'l'] rest) with
        | '\x7d' :: rest => return (value, rest)
        | _ => .error .malformed
      | rest => .error (wrongType "unit" rest)
    | rest => .error (wrongType "variant identifier" rest)
  | _ => .error .malformed

def readInt32 (text : List Char) : Except Fault (Int32 × List Char) :=
  match skipBlanks text with
  | c :: rest =>
    if c = '-' ∨ c.isDigit then do
      let (number, rest) ← readNumber (c :: rest)
      match number with
      | .integer value =>
        match hostInt? value with
        | some value => return (value, rest)
        | none => .error (.invalidValue (.number number) "i32")
      | .float _ => .error (.invalidType (.number number) "i32")
    else .error (wrongType "i32" (c :: rest))
  | [] => .error .malformed

def readBool (text : List Char) : Except Fault (Bool × List Char) :=
  match skipBlanks text with
  | 't' :: rest => (expect ['r', 'u', 'e'] rest).map fun rest => (true, rest)
  | 'f' :: rest => (expect ['a', 'l', 's', 'e'] rest).map fun rest => (false, rest)
  | rest => .error (wrongType "a boolean" rest)

/-- The settings found so far. -/
structure Partial where
  codec : Option CodecKind := none
  level : Option Int32 := none
  remainder : Option RemainderPolicy := none
  overlap : Option Bool := none
  deriving Repr, DecidableEq

/-- The configuration that agrees with the settings found and is the default elsewhere. -/
def Partial.complete (found : Partial) : Config where
  codec := found.codec.getD .snappy
  level := found.level.getD 3
  remainder := found.remainder.getD .reject
  overlap := found.overlap.getD true

def codecChoices : List (String × CodecKind) := CodecKind.all.map fun kind => (kind.key, kind)

def remainderChoices : List (String × RemainderPolicy) :=
  RemainderPolicy.all.map fun policy => (policy.key, policy)

/-- A setting that is found for the first time. -/
def once {α : Type} (name : String) (before : Option α) (text : List Char)
    (read : List Char → Except Fault (α × List Char)) : Except Fault (Option α × List Char) :=
  if before.isSome then .error (.duplicateField name)
  else do
    let (value, rest) ← read (← skipColon text)
    return (some value, rest)

/-- The member with a given key, from the colon on. Keys that name no setting are passed over. -/
def readMember (name : String) (found : Partial) (text : List Char) :
    Except Fault (Partial × List Char) :=
  if name = "codec" then do
    let (codec, rest) ← once name found.codec text (readChoice codecChoices)
    return ({ found with codec }, rest)
  else if name = "zstd_level" then do
    let (level, rest) ← once name found.level text readInt32
    return ({ found with level }, rest)
  else if name = "shuffle_remainder" then do
    let (remainder, rest) ← once name found.remainder text (readChoice remainderChoices)
    return ({ found with remainder }, rest)
  else if name = "allow_overlapping_copy" then do
    let (overlap, rest) ← once name found.overlap text readBool
    return ({ found with overlap }, rest)
  else do
    return (found, ← skip (← skipColon text))

/-- The members of an object of which at least one is left, up to its closing brace. The fuel bounds
their number. -/
def readMembers (found : Partial) : (fuel : Nat) → List Char → Except Fault (Partial × List Char)
  | 0, _ => .error .malformed
  | fuel + 1, text =>
    match skipBlanks text with
    | '"' :: rest => do
      let (name, rest) ← readString rest
      let (found, rest) ← readMember name found rest
      match skipBlanks rest with
      | ',' :: rest => readMembers found fuel rest
      | '\x7d' :: rest => return (found, rest)
      | _ => .error .malformed
    | _ => .error .malformed

/-- Whether one more value follows in an array, and the text from there on. -/
def nextItem (first : Bool) (text : List Char) : Except Fault (Bool × List Char) :=
  match skipBlanks text with
  | ']' :: rest => .ok (false, ']' :: rest)
  | ',' :: rest =>
    if first then .ok (true, ',' :: rest)
    else
      match skipBlanks rest with
      | ']' :: _ | [] => .error .malformed
      | rest => .ok (true, rest)
  | [] => .error .malformed
  | rest => if first then .ok (true, rest) else .error .malformed

/-- The settings in an array, in the order of the fields; those that are missing stay open. -/
def readItems (text : List Char) : Except Fault (Partial × List Char) := do
  let (more, text) ← nextItem true text
  if !more then return ({}, text)
  let (codec, text) ← readChoice codecChoices text
  let found : Partial := { codec := some codec }
  let (more, text) ← nextItem false text
  if !more then return (found, text)
  let (level, text) ← readInt32 text
  let found := { found with level := some level }
  let (more, text) ← nextItem false text
  if !more then return (found, text)
  let (remainder, text) ← readChoice remainderChoices text
  let found := { found with remainder := some remainder }
  let (more, text) ← nextItem false text
  if !more then return (found, text)
  let (overlap, text) ← readBool text
  return ({ found with overlap := some overlap }, text)

/-- The settings at the front. -/
def readPartial (text : List Char) : Except Fault (Partial × List Char) :=
  match skipBlanks text with
  | '[' :: rest => do
    let (found, rest) ← readItems rest
    match skipBlanks rest with
    | ']' :: rest => return (found, rest)
    | _ => .error .malformed
  | '\x7b' :: rest =>
    match skipBlanks rest with
    | '\x7d' :: rest => .ok ({}, rest)
    | rest => readMembers {} rest.length rest
  | rest => .error (wrongType "struct BridgeConfig" rest)

/-- A value that is all there is in a text. -/
def whole {α : Type} (read : List Char → Except Fault (α × List Char)) (text : String) :
    Except Fault α := do
  let (value, rest) ← read text.toList
  if (skipBlanks rest).isEmpty then return value else .error .malformed

/-- The configuration that a text describes. -/
def parse (text : String) : Except Fault Config := (whole readPartial text).map Partial.complete

/-- The configuration that a text describes, for a caller that wants to go on with it. -/
def ofJson (text : String) : Except Failure Config :=
  (parse text).mapError fun fault => .invalid (.badConfig fault.message)

/-- The element type that a text names. -/
def parseElementType (text : String) : Except Fault ElementType :=
  whole (readChoice (ElementType.all.map fun type => (type.key, type))) text

end BufferBridge.Config
