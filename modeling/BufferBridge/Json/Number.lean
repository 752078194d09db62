import BufferBridge.Bytes
import BufferBridge.Json.Scan

/-! The machine number that a written number stands for: an integer where one fits into 64 bits, and
else the double that comes from scaling the leading digits, as many as fit into 64 bits, by a power
of ten. -/
namespace BufferBridge.Json

/-- The value of a decimal digit. -/
def digitValue (c : Char) : Nat := c.toNat - 48

/-- Leading digits of a number and the power of ten they are scaled by. -/
structure Leading where
  significand : Nat
  exponent : Int

namespace Leading

/-- Appends digits before the point. Those that do not fit are counted only. -/
def addWhole (leading : Leading) : List Char → Leading
  | [] => leading
  | c :: rest =>
    let next := leading.significand * 10 + digitValue c
    if leading.exponent = 0 ∧ next ≤ maxSize then addWhole ⟨next, 0⟩ rest
    else addWhole ⟨leading.significand, leading.exponent + 1⟩ rest

/-- Appends digits after the point, up to the first that does not fit. -/
def addFraction (leading : Leading) : List Char → Leading
  | [] => leading
  | c :: rest =>
    let next := leading.significand * 10 + digitValue c
    if next ≤ maxSize then addFraction ⟨next, leading.exponent - 1⟩ rest else leading

end Leading

/-- A value scaled down by powers of ten in steps that a double can hold. -/
def scaleDown (value : Float) : (steps : Nat) → (exponent : Nat) → Float
  | 0, _ => value
  | steps + 1, exponent =>
    if exponent ≤ 308 then value / Float.ofScientific 1 false exponent
    else if value == 0 then value
    else scaleDown (value / Float.ofScientific 1 false 308) steps (exponent - 308)

/-- The double of scaled digits, unless it is above every double. -/
def Leading.toFloat? (leading : Leading) : Option Float :=
  let value := leading.significand.toUInt64.toFloat
  if 0 ≤ leading.exponent then
    let exponent := leading.exponent.toNat
    if exponent ≤ 308 then
      let scaled := value * Float.ofScientific 1 false exponent
      if scaled.isInf then none else some scaled
    else if leading.significand = 0 then some value else none
  else
    let exponent := (-leading.exponent).toNat
    some (scaleDown value (exponent / 308 + 1) exponent)

/-- The value of a digit string. -/
def natOfDigits (digits : List Char) : Nat :=
  digits.foldl (fun n c => n * 10 + digitValue c) 0

namespace Numeral

/-- The double of a number, unless it is above every double. -/
def toFloat? (numeral : Numeral) : Option Float :=
  let leading := (Leading.addWhole ⟨0, 0⟩ numeral.whole).addFraction numeral.fraction
  let magnitude := match numeral.exponent with
    | none => leading.toFloat?
    | some (negative, digits) =>
      let shift := natOfDigits digits
      if maxHostInt < shift then
        if leading.significand ≠ 0 ∧ !negative then none else some 0
      else
        let exponent := if negative then leading.exponent - shift else leading.exponent + shift
        Leading.toFloat? ⟨leading.significand, exponent⟩
  if numeral.negative then magnitude.map Float.neg else magnitude

/-- The machine number of a number, unless it is above every double. -/
def toNumber? (numeral : Numeral) : Option Number :=
  let whole := natOfDigits numeral.whole
  if numeral.fraction.isEmpty ∧ numeral.exponent.isNone then
    if !numeral.negative ∧ whole ≤ maxSize then some (.integer whole)
    else if numeral.negative ∧ 0 < whole ∧ whole ≤ 0x8000000000000000 then some (.integer (-whole))
    else numeral.toFloat?.map .float
  else numeral.toFloat?.map .float

end Numeral

/-- The machine number at the front. -/
def readNumber (text : List Char) : Except Fault (Number × List Char) := do
  let (numeral, rest) ← readNumeral text
  match numeral.toNumber? with
  | some number => return (number, rest)
  | none => .error .malformed

/-- Why the value at the front is not of the expected type. -/
def wrongType (expected : String) (text : List Char) : Fault :=
  let found : Except Fault Found :=
    match skipBlanks text with
    | 'n' :: rest => (expect ['u', 'l', 'l'] rest).map fun _ => .null
    | 't' :: rest => (expect ['r', 'u', 'e'] rest).map fun _ => .bool true
    | 'f' :: rest => (expect ['a', 'l', 's', 'e'] rest).map fun _ => .bool false
    | '"' :: rest => (readString rest).map fun (value, _) => .text value
    | '[' :: _ => .ok .sequence
    | '\x7b' :: _ => .ok .map
    | rest => (readNumber rest).map fun (value, _) => .number value
  match found with
  | .ok found => .invalidType found expected
  | .error fault => fault

end BufferBridge.Json
