/-
UTF-8 at the edges of the program: the number of bytes a text takes, and the reading of bytes
that may be malformed. Each maximal start of a character that its continuation does not complete
reads as one U+FFFD.
-/
namespace RowSieve.Text.Utf8

/-- The number of bytes the text takes. -/
def byteLength : List Char → Nat
  | [] => 0
  | c :: cs => c.utf8Size + byteLength cs

/-- The bytes of a text. -/
def encode (s : List Char) : List UInt8 := (String.ofList s).toUTF8.toList

/-- The ranges the bytes after a leading byte have to lie in; `none` when no character of more
than one byte starts with it. -/
def continuation? (lead : Nat) : Option (List (Nat × Nat)) :=
  if 0xC2 ≤ lead ∧ lead ≤ 0xDF then some [(0x80, 0xBF)]
  else if lead = 0xE0 then some [(0xA0, 0xBF), (0x80, 0xBF)]
  else if lead = 0xED then some [(0x80, 0x9F), (0x80, 0xBF)]
  else if 0xE1 ≤ lead ∧ lead ≤ 0xEF then some [(0x80, 0xBF), (0x80, 0xBF)]
  else if lead = 0xF0 then some [(0x90, 0xBF), (0x80, 0xBF), (0x80, 0xBF)]
  else if lead = 0xF4 then some [(0x80, 0x8F), (0x80, 0xBF), (0x80, 0xBF)]
  else if 0xF1 ≤ lead ∧ lead ≤ 0xF3 then some [(0x80, 0xBF), (0x80, 0xBF), (0x80, 0xBF)]
  else none

/-- The leading bytes that lie in the given ranges, one range a byte. -/
def matching : List (Nat × Nat) → List UInt8 → List UInt8
  | (lo, hi) :: ranges, b :: bs =>
    if lo ≤ b.toNat ∧ b.toNat ≤ hi then b :: matching ranges bs else []
  | _, _ => []

/-- The character of a leading byte and all its continuation bytes. -/
def assemble (lead : Nat) (rest : List UInt8) : Char :=
  let start := match rest.length with
    | 1 => lead - 0xC0
    | 2 => lead - 0xE0
    | _ => lead - 0xF0
  Char.ofNat (rest.foldl (fun acc b => acc * 64 + (b.toNat - 0x80)) start)

/-- The character that stands for bytes that are none. -/
def replacement : Char := Char.ofNat 0xFFFD

/-- The text of the bytes, malformed parts replaced. -/
def decodeLossy : List UInt8 → List Char
  | [] => []
  | b :: rest =>
    if b.toNat < 0x80 then Char.ofNat b.toNat :: decodeLossy rest
    else match continuation? b.toNat with
      | none => replacement :: decodeLossy rest
      | some ranges =>
        let found := matching ranges rest
        let c := if found.length = ranges.length then assemble b.toNat found else replacement
        c :: decodeLossy (rest.drop found.length)
termination_by bytes => bytes.length
decreasing_by all_goals simp; try omega

end RowSieve.Text.Utf8
