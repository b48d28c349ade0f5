/-
Numbers in the bytes of a file. The first byte weighs most, and behind the end of the bytes there
are zeros. A number of variable length takes seven bits of each byte while the eighth bit is set;
a ninth byte, the last there can be, counts whole.
-/
namespace RowSieve.Store.Bytes

/-- The byte at a place. -/
def byte (b : ByteArray) (i : Nat) : Nat := if h : i < b.size then b[i].toNat else 0

/-- The number in `count` bytes from a place on. -/
def number (b : ByteArray) (i : Nat) : (count : Nat) → Nat
  | 0 => 0
  | count + 1 => number b i count * 256 + byte b (i + count)

/-- The number in `count` bytes, of which the first bit is the sign. -/
def signed (b : ByteArray) (i count : Nat) : Int :=
  let n := number b i count
  if 128 ≤ byte b i then (n : Int) - Nat.pow 256 count else n

/-- The rest of a number of variable length behind `acc`, of which `more` bytes are followed by
others, and the place behind it. -/
def varyingFrom (b : ByteArray) (i acc : Nat) : (more : Nat) → Nat × Nat
  | 0 => (acc * 256 + byte b i, i + 1)
  | more + 1 =>
    let x := byte b i
    if x < 128 then (acc * 128 + x, i + 1)
    else varyingFrom b (i + 1) (acc * 128 + (x - 128)) more

/-- The number of variable length at a place, and the place behind it. -/
def varying (b : ByteArray) (i : Nat) : Nat × Nat := varyingFrom b i 0 8

/-- The number of 64 bits whose bits another one has. -/
def wrapped (n : Nat) : Int :=
  if n < 0x8000000000000000 then n else (n : Int) - 0x10000000000000000

/-- The bytes from a place up to another. -/
def slice (b : ByteArray) (i stop : Nat) : List UInt8 := (b.extract i stop).toList

end RowSieve.Store.Bytes
