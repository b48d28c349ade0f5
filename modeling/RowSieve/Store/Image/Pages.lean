/-
The pages of tables and indexes. Each is a tree of pages: a leaf of a table holds cells with a row
each, and a branch holds cells with a page each, and one page more behind them. The cells of an
index hold an entry each, in its branches too. The start of a long record stands in its cell and
the rest in a chain of other pages. Rows and entries come in order, up to the first damage.
-/
import RowSieve.Store.Image.Record

namespace RowSieve.Store

/-- A row of a table: its number and its record. -/
structure ImageRow where
  key : Int
  record : ByteArray

namespace Image

/-! ## Pages -/

/-- The place of a page. -/
def placeOf (f : Image) (page : Nat) : Nat := (page - 1) * f.pageSize

/-- The size of the header of the file, which stands on the first page. -/
def headerSize : Nat := 100

/-- The distance from the start of a page to what it tells about itself. -/
def headOffset (page : Nat) : Nat := if page = 1 then headerSize else 0

/-- The number in `count` bytes of what a page tells about itself. -/
def head (f : Image) (page i count : Nat) : Nat :=
  f.number (f.placeOf page + headOffset page + i) count

inductive PageKind where
  | branch
  | leaf
deriving DecidableEq

/-- What a tree of pages holds. -/
inductive TreeKind where
  | rows
  | entries
deriving DecidableEq

/-- The number that a page gives for its kind. -/
def TreeKind.mark : TreeKind → PageKind → Nat
  | rows, .branch => 5
  | rows, .leaf => 13
  | entries, .branch => 2
  | entries, .leaf => 10

/-- The size of what a page tells about itself. -/
def PageKind.headSize : PageKind → Nat
  | branch => 12
  | leaf => 8

def cellCount (f : Image) (page : Nat) : Nat := f.head page 3 2

/-- The kind of a page of a tree; `isRoot` when it is the root. Only a root may be without
cells, and of the branches only the first page. -/
def pageKind (f : Image) (tree : TreeKind) (page : Nat) (isRoot : Bool) :
    Except Problem PageKind := do
  let told := f.head page 0 1
  let kind ← if told = tree.mark .branch then .ok .branch
    else if told = tree.mark .leaf then .ok .leaf
    else .error .malformed
  let mayBeEmpty := isRoot && (kind == .leaf || page == 1)
  let count := f.cellCount page
  if page = 0 ∨ f.pages < page ∨ (f.pageSize - 8) / 6 < count then throw .malformed
  if count = 0 ∧ !mayBeEmpty then throw .malformed
  return kind

/-- The distances of the cells from the start of the page. -/
def cellOffsets (f : Image) (page : Nat) (kind : PageKind) : List Nat :=
  (List.range (f.cellCount page)).map fun i =>
    f.head page (kind.headSize + 2 * i) 2 % f.pageSize

/-! ## Records -/

/-- At most `size` bytes of a chain of pages, which takes at most `steps` pages. -/
def chained (f : Image) (size page : Nat) : (steps : Nat) → Except Problem ByteArray
  | 0 => if size = 0 then .ok .empty else .error .malformed
  | steps + 1 => do
    if size = 0 then return .empty
    if page = 0 ∨ f.pages < page then throw .malformed
    let place := f.placeOf page
    let here := min size (f.usableSize - 4)
    let rest ← f.chained (size - here) (f.number place 4) steps
    return f.bytes.extract (place + 4) (place + 4 + here) ++ rest

/-- The greatest size of a record that stands in its cell as a whole. -/
def wholeSize (f : Image) : TreeKind → Nat
  | .rows => f.usableSize - 35
  | .entries => (f.usableSize - 12) * 64 / 255 - 23

/-- The number of bytes of a record that stand in its cell. -/
def localSize (f : Image) (tree : TreeKind) (size : Nat) : Nat :=
  let least := (f.usableSize - 12) * 32 / 255 - 23
  let filled := least + (size - least) % (f.usableSize - 4)
  if size ≤ f.wholeSize tree then size
  else if filled ≤ f.wholeSize tree then filled
  else least

/-- The record of a size that begins at a place in a page. -/
def recordAt (f : Image) (tree : TreeKind) (page i size : Nat) : Except Problem ByteArray := do
  let here := f.localSize tree size
  let isCut := f.placeOf page + f.pageSize < i + here
  if isCut ∨ size = 0 ∧ f.byte i ≠ 0 then throw .malformed
  let padded := f.bytes.extract i (i + here) ++
    ⟨Array.replicate (here - (f.bytes.extract i (i + here)).size) 0⟩
  let rest ← f.chained (size - here) (f.number (i + here) 4) (size / (f.usableSize - 4) + 1)
  return padded ++ rest

/-- A size of a record; it takes four bytes at most. -/
def sizeAt (f : Image) (i : Nat) : Nat × Nat :=
  let (size, i) := Bytes.varying f.bytes i
  (size % 0x100000000, i)

/-- The greatest number of pages on the way to a cell. -/
def depthLimit : Nat := 20

/-- All that the parts give, up to the first that gives damage. -/
def untilDamage {α β : Type} (read : β → List (Except Problem α)) : List β → List (Except Problem α)
  | [] => []
  | part :: rest =>
    let found := read part
    if found.all Except.isOk then found ++ untilDamage read rest else found

/-! ## Rows -/

/-- The row in a cell of a leaf. -/
def rowAt (f : Image) (page offset : Nat) : Except Problem ImageRow := do
  let (size, i) := f.sizeAt (f.placeOf page + offset)
  let (key, i) := Bytes.varying f.bytes i
  return ⟨Bytes.wrapped key, ← f.recordAt .rows page i size⟩

/-- The rows of a tree of pages, in order. -/
def rowsBelow (f : Image) (page : Nat) (isRoot : Bool) :
    (depth : Nat) → List (Except Problem ImageRow)
  | 0 => [.error .malformed]
  | depth + 1 =>
    match f.pageKind .rows page isRoot with
    | .error problem => [.error problem]
    | .ok .leaf => (f.cellOffsets page .leaf).map (f.rowAt page)
    | .ok .branch =>
      let left := (f.cellOffsets page .branch).map fun offset =>
        f.number (f.placeOf page + offset) 4
      untilDamage (fun child => f.rowsBelow child false depth) (left ++ [f.head page 8 4])

/-- The rows of the table with a root. -/
def rows (f : Image) (root : Nat) : List (Except Problem ImageRow) :=
  f.rowsBelow root true depthLimit

/-! ## Entries -/

/-- The entry at a place in a page. -/
def entryAt (f : Image) (page i : Nat) : Except Problem ByteArray := do
  let (size, i) := f.sizeAt i
  f.recordAt .entries page i size

/-- The entries of a tree of pages, in order. -/
def entriesBelow (f : Image) (page : Nat) (isRoot : Bool) :
    (depth : Nat) → List (Except Problem ByteArray)
  | 0 => [.error .malformed]
  | depth + 1 =>
    match f.pageKind .entries page isRoot with
    | .error problem => [.error problem]
    | .ok .leaf => (f.cellOffsets page .leaf).map fun offset =>
        f.entryAt page (f.placeOf page + offset)
    | .ok .branch =>
      let cell (offset : Nat) : Nat × Option Nat :=
        let place := f.placeOf page + offset
        (f.number place 4, some (place + 4))
      let below (part : Nat × Option Nat) : List (Except Problem ByteArray) :=
        f.entriesBelow part.1 false depth ++ part.2.toList.map (f.entryAt page)
      untilDamage below ((f.cellOffsets page .branch).map cell ++ [(f.head page 8 4, none)])

/-- The entries of the index with a root. -/
def entries (f : Image) (root : Nat) : List (Except Problem ByteArray) :=
  f.entriesBelow root true depthLimit

/-! ## Room for new rows -/

/-- The last leaf of a table. -/
def lastLeaf (f : Image) (page : Nat) (isRoot : Bool) : (depth : Nat) → Except Problem Nat
  | 0 => .error .malformed
  | depth + 1 => do
    match ← f.pageKind .rows page isRoot with
    | .leaf => return page
    | .branch => f.lastLeaf (f.head page 8 4) false depth

/-- The free space in the blocks of a page from one at `offset` on, in ascending order and inside
the page. -/
def blockSpace (f : Image) (page offset : Nat) : (steps : Nat) → Except Problem Nat
  | 0 => .error .malformed
  | steps + 1 => do
    if f.usableSize < offset + 4 then throw .malformed
    let next := f.number (f.placeOf page + offset) 2
    let size := f.number (f.placeOf page + offset + 2) 2
    if offset + size + 3 < next then return size + (← f.blockSpace page next steps)
    else if next ≠ 0 ∨ f.usableSize < offset + size then throw .malformed
    else return size

/-- Checks that what a leaf tells about its free space can be so. -/
def checkSpace (f : Image) (page : Nat) : Except Problem Unit := do
  let told := f.head page 5 2
  let top := if told = 0 then 65536 else told
  let block := f.head page 1 2
  let cellsStart := headOffset page + PageKind.leaf.headSize + 2 * f.cellCount page
  if block ≠ 0 ∧ block < top then throw .malformed
  let inBlocks ← if block = 0 then .ok 0 else f.blockSpace page block f.pageSize
  let free := f.head page 7 1 + top + inBlocks
  if f.usableSize < free ∨ free < cellsStart then throw .malformed

/-- Checks `count` pages of the list of free pages from `page` on. Each lists others, which are
taken before it is. -/
def checkFree (f : Image) (page : Nat) : (count : Nat) → Except Problem Unit
  | 0 => .ok ()
  | count + 1 => do
    let isUsable (page : Nat) : Bool := 2 ≤ page && page ≤ f.pages
    if !isUsable page then throw .malformed
    let place := f.placeOf page
    let listed := f.number (place + 4) 4
    if f.usableSize / 4 - 2 < listed then throw .malformed
    let taken := (List.range (min listed (count + 1))).map fun i => f.number (place + 8 + 4 * i) 4
    if !taken.all isUsable then throw .malformed
    f.checkFree (f.number place 4) (count - listed)

/-- Whether a page tells where others belong, in a file that keeps its roots together. -/
def isMap (f : Image) (page : Nat) : Bool :=
  2 ≤ page && (page - 2) % (f.usableSize / 5 + 1) == 0

/-- Checks that the file can be changed. One that keeps its roots together and drops its free pages
does not end in a page that tells where others belong. -/
def checkChange (f : Image) : Except Problem Unit :=
  if f.greatestRoot ≠ 0 ∧ !f.keepsFree ∧ f.isMap f.pages then .error .malformed else .ok ()

/-- Checks that the file can get a new table. -/
def checkRoom (f : Image) : Except Problem Unit := do
  if f.pages ≤ f.freePages then throw .malformed
  f.checkFree f.firstFree f.freePages
  if f.greatestRoot ≠ 0 then
    let next := f.greatestRoot + 1
    let next := if f.isMap next then next + 1 else next
    if f.pages < f.greatestRoot ∨ next ≤ f.pages then throw .malformed
  f.checkSpace (← f.lastLeaf 1 true depthLimit)

end Image

end RowSieve.Store
