import Schemata.Number.Rounding
/-!
# Decimal — numbers as decimal text

Reading is one correct rounding: the text is an exact decimal, and `Decimal.nearest` is the number of a format nearest
to it.  Writing is the shortest text that reads back.  `Magnitude.reach` is the interval of reals that round to a
magnitude; on the grid of decimals with one, two, … significant digits only the two neighbours of the exact value can
be the first to fall inside it, the nearer of two is taken, and the upper of two equally near.  The text is always
positional, however long that makes it.
-/
namespace Schemata

/-- An exact decimal, `± coefficient * 10 ^ exponent`. -/
structure Decimal where
  negative : Bool
  coefficient : Nat
  exponent : Int
  deriving DecidableEq

namespace Decimal

/-- The number that a run of digits writes. -/
def ofDigits (digits : List Char) : Nat := digits.foldl (fun n c => 10 * n + (c.toNat - '0'.toNat)) 0

/-- How many digits a positive number has. -/
def digitCount (n : Nat) : Nat := (Nat.toDigits 10 n).length

/-- A leading sign, if there is one. -/
def readSign : List Char → Bool × List Char
  | '-' :: rest => (true, rest)
  | '+' :: rest => (false, rest)
  | rest => (false, rest)

/-- The exponent part up to the end of the text: nothing, or `e`, a sign if wanted, and digits. -/
def readExponent : List Char → Option Int
  | [] => some 0
  | mark :: rest =>
    let (negative, digits) := readSign rest
    if (mark = 'e' ∨ mark = 'E') ∧ digits ≠ [] ∧ digits.all Char.isDigit then
      some (Number.signed negative (ofDigits digits))
    else none

/-- Digits with at most one point among or around them, and at least one digit. -/
def readUnsigned (negative : Bool) (cs : List Char) : Option Decimal :=
  let whole := cs.takeWhile Char.isDigit
  let (fraction, rest) := match cs.dropWhile Char.isDigit with
    | '.' :: tail => (tail.takeWhile Char.isDigit, tail.dropWhile Char.isDigit)
    | tail => ([], tail)
  if whole ++ fraction = [] then none
  else (readExponent rest).map fun e => ⟨negative, ofDigits (whole ++ fraction), e - fraction.length⟩

/-- **The number of a format nearest to a decimal.**  Beyond `10 ^ 309` and below `10 ^ -325` no power is computed:
there every format has only its infinity and its zero. -/
def nearest (f : Number.Format) (d : Decimal) : Number :=
  if d.coefficient = 0 then .finite d.negative .zero
  else if 309 ≤ d.exponent then .infinite d.negative
  else if d.exponent + digitCount d.coefficient < -324 then .finite d.negative .zero
  else if 0 ≤ d.exponent then f.nearest d.negative (d.coefficient * Nat.pow 10 d.exponent.toNat) 1
  else f.nearest d.negative d.coefficient (Nat.pow 10 (-d.exponent).toNat)

end Decimal

namespace Number

/-- Reads a number of a format: a decimal, or one of the words for the values that have no digits, in any case. -/
def read? (f : Format) (text : String) : Option Number :=
  let (negative, rest) := Decimal.readSign text.toList
  let word := rest.map Char.toLower
  if word = "nan".toList then some .nan
  else if word = "inf".toList ∨ word = "infinity".toList then some (.infinite negative)
  else (Decimal.readUnsigned negative rest).map (·.nearest f)

/-- **The reals that round to a magnitude**, in quarters of a unit: halfway to each neighbour, the ends included when
the last significant bit is zero. -/
structure Reach where
  low : Nat
  high : Nat
  closed : Bool

/-- Below a power of two the neighbour is half as far away as above it. -/
def Magnitude.reach (m : Magnitude) : Reach :=
  let e := m.units.log2 - 52
  let step := Nat.pow 2 e
  let down := if m.units = Nat.pow 2 (52 + e) ∧ 0 < e then step else 2 * step
  { low := 4 * m.units - down, high := 4 * m.units + 2 * step, closed := m.units / step % 2 = 0 }

/-- The decimal exponent of the leading digit of a positive magnitude. -/
def Magnitude.leadingExponent (m : Magnitude) : Int :=
  if unitsPerOne ≤ m.units then (Decimal.digitCount (m.units / unitsPerOne) : Int) - 1
  else -(Decimal.digitCount ((unitsPerOne - 1) / m.units) : Int)

/-- **The multiple of `10 ^ exponent` that reads back as the magnitude**, if one of the value's two neighbours on that
grid does: the nearer of two, the upper of two equally near. -/
def Magnitude.onGrid? (m : Magnitude) (exponent : Int) : Option Nat :=
  let step := Nat.pow 10 exponent.toNat * (4 * unitsPerOne)
  let scale := Nat.pow 10 (-exponent).toNat
  let value := 4 * m.units * scale
  let reach := m.reach
  let inside (n : Nat) : Bool :=
    let point := n * step
    if reach.closed then reach.low * scale ≤ point && point ≤ reach.high * scale
    else reach.low * scale < point && point < reach.high * scale
  let lower := value / step
  let upper := lower + 1
  if inside upper && (upper * step - value ≤ value - lower * step || !inside lower) then some upper
  else if inside lower then some lower
  else none

/-- **The shortest decimal that reads back**, over one to seventeen digits; seventeen always do. -/
def Magnitude.shortest (negative : Bool) (m : Magnitude) : Decimal :=
  let lead := m.leadingExponent
  let found := (List.range 17).findSome? fun (more : Nat) =>
    (m.onGrid? (lead - more)).map fun n => ⟨negative, n, lead - more⟩
  found.getD ⟨negative, m.units, 0⟩

end Number

/-- **Positional text**: no exponent, no point after a whole number, no zeros at the end of a fraction. -/
def Decimal.text (d : Decimal) : String :=
  let digits := Nat.toDigits 10 d.coefficient ++ List.replicate d.exponent.toNat '0'
  let places := (-d.exponent).toNat
  let padded := List.replicate (places + 1 - digits.length) '0' ++ digits
  let whole := padded.take (padded.length - places)
  let fraction := (padded.drop (padded.length - places)).reverse.dropWhile (· = '0') |>.reverse
  let body := if fraction.isEmpty then whole else whole ++ '.' :: fraction
  String.ofList (if d.negative then '-' :: body else body)

/-- **The text of a number**: the shortest decimal that reads back, written positionally. -/
def Number.text : Number → String
  | .nan => "NaN"
  | .infinite negative => if negative then "-inf" else "inf"
  | .finite negative magnitude =>
    if magnitude.units = 0 then (if negative then "-0" else "0") else (magnitude.shortest negative).text

end Schemata
