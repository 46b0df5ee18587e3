import DicePool.Digest.Sha2

/-!
# Signature/Ed25519 — signatures on the twisted Edwards curve

Coordinates are numbers modulo `2 ^ 255 - 19`.  A point is written as its second coordinate, with the
sign of the first one in the last bit.  A signature is a point `R` and a scalar `S`; it is valid for a
message and a key `A` if `S · B = R + h · A`, where `B` is the base point and `h` the digest of `R`, `A`
and the message.  Spellings that are not the least ones, and keys and points `R` of small order, are
refused.
-/

namespace DicePool.Ed25519

/-- The modulus of coordinates. -/
def modulus : Nat := Nat.pow 2 255 - 19

theorem modulus_ne_zero : modulus ≠ 0 := by decide

instance : @NeZero Nat Zero.ofOfNat0 modulus := ⟨modulus_ne_zero⟩

/-- A coordinate. -/
abbrev Coordinate := Fin modulus

/-- The order of the base point. -/
def order : Nat := Nat.pow 2 252 + 27742317777372353535851937790883648493

/-- A number as a coordinate. -/
def coordinate (n : Nat) : Coordinate := Fin.ofNat modulus n

/-- The binary digits of a number, least first, `count` of them. -/
def bits (count n : Nat) : List Bool :=
  (List.range count).map n.testBit

/-- A power of a coordinate, by squaring. -/
def power (x : Coordinate) (n : Nat) : Coordinate :=
  ((bits 255 n).foldr (fun b acc => let acc := acc * acc; if b then acc * x else acc) 1)

/-- The inverse of a coordinate that is not zero. -/
def inverse (x : Coordinate) : Coordinate := power x (modulus - 2)

/-- The constant of the curve `y² - x² = 1 + d · x² · y²`. -/
def d : Coordinate := (0 - coordinate 121665) * inverse (coordinate 121666)

/-- A square root of minus one. -/
def rootOfMinusOne : Coordinate := power 2 ((modulus - 1) / 4)

/-- A point `(x / z, y / z)`, with `t = x · y / z`. -/
structure Point where
  /-- The first coordinate, scaled. -/
  x : Coordinate
  /-- The second coordinate, scaled. -/
  y : Coordinate
  /-- The scale. -/
  z : Coordinate
  /-- The product of the coordinates, scaled. -/
  t : Coordinate

namespace Point

/-- The point of coordinates. -/
def ofCoordinates (x y : Coordinate) : Point := ⟨x, y, 1, x * y⟩

/-- The neutral point. -/
def zero : Point := ofCoordinates 0 1

/-- The sum of two points. -/
def add (p q : Point) : Point :=
  let a := (p.y - p.x) * (q.y - q.x)
  let b := (p.y + p.x) * (q.y + q.x)
  let c := p.t * 2 * d * q.t
  let e := b - a
  let f := p.z * 2 * q.z - c
  let g := p.z * 2 * q.z + c
  let h := b + a
  ⟨e * f, g * h, f * g, e * h⟩

/-- The opposite of a point. -/
def neg (p : Point) : Point := ⟨0 - p.x, p.y, p.z, 0 - p.t⟩

/-- A multiple of a point, by doubling. -/
def multiple (n : Nat) (p : Point) : Point :=
  (bits 256 n).foldr (fun b acc => let acc := acc.add acc; if b then acc.add p else acc) zero

/-- Whether eight times the point is the neutral point. -/
def isSmall (p : Point) : Bool :=
  let q := p.multiple 8
  q.x == 0 && q.y == q.z

/-- The number that a point is written as. -/
def toNat (p : Point) : Nat :=
  let scale := inverse p.z
  let x := p.x * scale
  let y := p.y * scale
  y.val + (x.val % 2) * Nat.pow 2 255

/-- A first coordinate for a second one. -/
def firstCoordinate? (y : Coordinate) : Option Coordinate :=
  let u := y * y - 1
  let v := d * (y * y) + 1
  let v3 := v * v * v
  let root := u * v3 * power (u * v3 * v3 * v) ((modulus - 5) / 8)
  let check := v * (root * root)
  if check == u then some root
  else if check == 0 - u then some (root * rootOfMinusOne)
  else none

/-- The point that a number stands for. -/
def ofNat? (n : Nat) : Option Point :=
  let y := coordinate (n % Nat.pow 2 255)
  (firstCoordinate? y).map fun x =>
    if x.val % 2 = n / Nat.pow 2 255 % 2 then ofCoordinates x y else ofCoordinates (0 - x) y

/-- The base point: its second coordinate is four fifths, its first one is even. -/
def base : Point :=
  (ofNat? (coordinate 4 * inverse (coordinate 5)).val).getD zero

end Point

/-- The number that bytes spell, least significant first. -/
def number (bytes : List UInt8) : Nat :=
  bytes.foldr (fun b n => 256 * n + b.toNat) 0

/-- Whether a point of a signature or a key is spelled by its least number. -/
def isLeast (n : Nat) : Bool :=
  n % Nat.pow 2 255 < modulus

/-- Whether a signature is valid for a message and a key. -/
def verify (key message signature : List UInt8) : Bool :=
  if key.length ≠ 32 ∨ signature.length ≠ 64 then false
  else
    let rBytes := signature.take 32
    let r := number rBytes
    let s := number (signature.drop 32)
    match Point.ofNat? (number key), Point.ofNat? r with
    | some a, some rPoint =>
      let h := number (Sha2.sha512 (rBytes ++ key ++ message)) % order
      s < order && isLeast (number key) && !a.isSmall && !rPoint.isSmall
        && ((Point.base.multiple s).add (a.neg.multiple h)).toNat == r
    | _, _ => false

end DicePool.Ed25519
