/-! The decimal text of a binary floating-point number: the fewest digits that read back as the same
number and, among those, the ones nearest to it. The search is in exact arithmetic on the number's
significand and exponent. -/
namespace BufferBridge.Decimal

/-- A number `digits * 10 ^ exponent`. -/
structure Scaled where
  digits : Nat
  exponent : Int
  deriving Repr, DecidableEq

/-- A positive binary number `significand * 2 ^ exponent`, with the step down to its lower neighbour
half as large where `narrow` is set. -/
structure Binary where
  significand : Nat
  exponent : Int
  narrow : Bool
  deriving Repr, DecidableEq

/-- The bit of the significand that a float leaves out. -/
def hiddenBit : Nat := 0x10000000000000

/-- The binary number of a positive finite float. -/
def Binary.ofFloat (value : Float) : Binary :=
  let bits := value.toBits.toNat
  let field : Nat := bits / hiddenBit % 2048
  let fraction : Nat := bits % hiddenBit
  if field = 0 then ⟨fraction, -1074, false⟩
  else ⟨fraction + hiddenBit, (field : Int) - 1075, fraction = 0 ∧ 1 < field⟩

/-- A fraction of natural numbers, its denominator above zero. -/
structure Ratio where
  num : Nat
  den : Nat

/-- `n * 2 ^ exponent / 4`. -/
def Ratio.quarters (n : Nat) (exponent : Int) : Ratio :=
  if 2 ≤ exponent then ⟨n * Nat.pow 2 (exponent - 2).toNat, 1⟩ else ⟨n, Nat.pow 2 (2 - exponent).toNat⟩

/-- Whether a decimal number lies between two fractions, the ends included where `closed` is set. -/
def Scaled.between (x : Scaled) (low high : Ratio) (closed : Bool) : Bool :=
  let num := x.digits * Nat.pow 10 x.exponent.toNat
  let den := Nat.pow 10 (-x.exponent).toNat
  let below := low.num * den
  let here := num * low.den
  let there := num * high.den
  let above := high.num * den
  if closed then below ≤ here && there ≤ above else below < here && there < above

/-- The multiples of a power of ten next to a fraction, the nearer one first, the even one at equal
distance. -/
def neighbours (value : Ratio) (exponent : Int) : List Scaled :=
  let num := value.num * Nat.pow 10 (-exponent).toNat
  let den := value.den * Nat.pow 10 exponent.toNat
  let down := num / den
  let low : Scaled := ⟨down, exponent⟩
  let high : Scaled := ⟨down + 1, exponent⟩
  let twice := 2 * (num % den)
  if twice < den ∨ (twice = den ∧ down % 2 = 0) then [low, high] else [high, low]

/-- The first number on ever finer decimal grids that reads back, from the grid `10 ^ exponent` on. -/
def searchGrids (value low high : Ratio) (closed : Bool) : (grids : Nat) → (exponent : Int) → Scaled
  | 0, exponent => ⟨0, exponent⟩
  | grids + 1, exponent =>
    match (neighbours value exponent).find? fun x => x.digits ≠ 0 && x.between low high closed with
    | some found => found
    | none => searchGrids value low high closed grids (exponent - 1)

/-- The shortest decimal number that reads back as a positive binary number. -/
def Binary.shortest (x : Binary) : Scaled :=
  let value := Ratio.quarters (4 * x.significand) x.exponent
  let low := Ratio.quarters (4 * x.significand - if x.narrow then 1 else 2) x.exponent
  let high := Ratio.quarters (4 * x.significand + 2) x.exponent
  searchGrids value low high (x.significand % 2 = 0) 700 310

/-- The text of a decimal number whose digits do not end in zero: positional from a hundred-thousandth
up to sixteen digits before the point, and else with one digit before the point and an exponent. -/
def Scaled.text (x : Scaled) : String :=
  let digits := Nat.toDigits 10 x.digits
  let length : Int := digits.length
  let point := length + x.exponent
  if 0 ≤ x.exponent ∧ point ≤ 16 then
    String.ofList (digits ++ List.replicate x.exponent.toNat '0') ++ ".0"
  else if 0 < point ∧ point ≤ 16 then
    String.ofList (digits.take point.toNat) ++ "." ++ String.ofList (digits.drop point.toNat)
  else if -5 < point ∧ point ≤ 0 then
    "0." ++ String.ofList (List.replicate (-point).toNat '0' ++ digits)
  else
    let tail := digits.drop 1
    String.ofList (digits.take 1) ++ (if tail.isEmpty then "" else "." ++ String.ofList tail) ++
      "e" ++ toString (point - 1)

/-- The text of a finite float. -/
def render (value : Float) : String :=
  let sign := if value.toBits.toNat < 0x8000000000000000 then "" else "-"
  let magnitude := value.abs
  if magnitude == 0 then sign ++ "0.0" else sign ++ (Binary.ofFloat magnitude).shortest.text

end BufferBridge.Decimal
