/-! # The curve P-256

Arithmetic in the field and the group of NIST P-256. Points are kept in Jacobian coordinates, in which
neither adding nor doubling divides. -/

namespace PasskeySession.P256

def fieldSize : Nat := 0xffffffff00000001000000000000000000000000ffffffffffffffffffffffff

def order : Nat := 0xffffffff00000000ffffffffffffffffbce6faada7179e84f3b9cac2fc632551

/-- A power of a number, by a modulus, with an exponent of at most so many bits. -/
def powMod (modulus base : Nat) : (bits exponent : Nat) → Nat
  | 0, _ => 1 % modulus
  | bits + 1, exponent =>
    let half := powMod modulus base bits (exponent / 2)
    let square := half * half % modulus
    if exponent % 2 = 1 then square * base % modulus else square

/-- The inverse of a number by a prime modulus. -/
def invert (modulus a : Nat) : Nat := powMod modulus (a % modulus) 256 (modulus - 2)

def sub (a b : Nat) : Nat := (a + fieldSize - b % fieldSize) % fieldSize

/-- A point with the coordinates `x / z ^ 2` and `y / z ^ 3`; the neutral point has no `z`. -/
structure Point where
  x : Nat
  y : Nat
  z : Nat

namespace Point

def neutral : Point := ⟨1, 1, 0⟩

def generator : Point :=
  ⟨0x6b17d1f2e12c4247f8bce6e563a440f277037d812deb33a0f4a13945d898c296,
    0x4fe342e2fe1a7f9b8ee7eb4a7c0f9e162bce33576b315ececbb6406837bf51f5, 1⟩

def double (p : Point) : Point :=
  let delta := p.z * p.z % fieldSize
  let gamma := p.y * p.y % fieldSize
  let beta := p.x * gamma % fieldSize
  let alpha := 3 * sub p.x delta * (p.x + delta) % fieldSize
  let x := sub (alpha * alpha) (8 * beta)
  let z := 2 * p.y * p.z % fieldSize
  let y := sub (alpha * sub (4 * beta) x) (8 * gamma * gamma)
  ⟨x, y, z⟩

def add (p q : Point) : Point :=
  if p.z = 0 then q
  else if q.z = 0 then p
  else
    let pz := p.z * p.z % fieldSize
    let qz := q.z * q.z % fieldSize
    let u1 := p.x * qz % fieldSize
    let u2 := q.x * pz % fieldSize
    let s1 := p.y * q.z * qz % fieldSize
    let s2 := q.y * p.z * pz % fieldSize
    if u1 = u2 then
      if s1 = s2 then double p else neutral
    else
      let h := sub u2 u1
      let r := sub s2 s1
      let hh := h * h % fieldSize
      let hhh := h * hh % fieldSize
      let v := u1 * hh % fieldSize
      let x := sub (sub (r * r) hhh) (2 * v)
      let y := sub (r * sub v x) (s1 * hhh)
      ⟨x, y, p.z * q.z * h % fieldSize⟩

/-- A multiple of a point, by a number of at most so many bits. -/
def multiple (p : Point) : (bits n : Nat) → Point
  | 0, _ => neutral
  | bits + 1, n =>
    let twice := (multiple p bits (n / 2)).double
    if n % 2 = 1 then twice.add p else twice

/-- The two coordinates of a point that is not neutral. -/
def affine (p : Point) : Nat × Nat :=
  let inv := invert fieldSize p.z
  let inv2 := inv * inv % fieldSize
  (p.x * inv2 % fieldSize, p.y * (inv2 * inv % fieldSize) % fieldSize)

end Point
end PasskeySession.P256
