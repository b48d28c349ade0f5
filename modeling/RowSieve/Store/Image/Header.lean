/-
Database files and the header on their first page. A file is a row of pages of one size, which are
numbered from one; the last one may be cut off. Every page ends in bytes that are reserved for
other use.
-/
import RowSieve.Store.Error
import RowSieve.Store.Image.Bytes

namespace RowSieve.Store

/-- The contents of a database file. -/
structure Image where
  bytes : ByteArray

namespace Image

/-- The number in `count` bytes from a place on. -/
def number (f : Image) (i count : Nat) : Nat := Bytes.number f.bytes i count

def byte (f : Image) (i : Nat) : Nat := Bytes.byte f.bytes i

/-- Whether nothing has been written to the file; a single byte is not counted. -/
def isBlank (f : Image) : Bool := f.bytes.size ≤ 1

/-! ## Fields of the header -/

/-- What a database file begins with. -/
def start : List UInt8 := "SQLite format 3\x00".toUTF8.toList

/-- The number of bytes of a page; the greatest size is written as one. -/
def pageSize (f : Image) : Nat := f.byte 16 * 256 + f.byte 17 * 65536

/-- The sizes that pages can have. -/
def pageSizes : List Nat := [512, 1024, 2048, 4096, 8192, 16384, 32768, 65536]

/-- The version that a program has to know in order to write the file. -/
def writeVersion (f : Image) : Nat := f.byte 18

/-- The version that a program has to know in order to read the file. -/
def readVersion (f : Image) : Nat := f.byte 19

/-- The latest version of files, in which changes are written ahead to another file. -/
def aheadVersion : Nat := 2

/-- The bytes of a page that are not reserved. -/
def usableSize (f : Image) : Nat := f.pageSize - f.byte 20

/-- The number of pages in the file, with the one that is cut off. -/
def filePages (f : Image) : Nat := (f.bytes.size + f.pageSize - 1) / f.pageSize

/-- The number of pages; the header tells it if it was written together with the last change. -/
def pages (f : Image) : Nat :=
  let told := f.number 28 4
  if told = 0 ∨ f.number 24 4 ≠ f.number 92 4 then f.filePages else told

/-- The first page of the list of free pages. -/
def firstFree (f : Image) : Nat := f.number 32 4

def freePages (f : Image) : Nat := f.number 36 4

/-- The version of the way in which tables are written; only its last byte counts. -/
def tableFormat (f : Image) : Nat := f.byte 47

def latestTableFormat : Nat := 4

/-- The greatest number of a page that is the root of a table, in a file that keeps its roots
together; zero in any other file. -/
def greatestRoot (f : Image) : Nat := f.number 52 4

/-- Whether free pages stay in a file that keeps its roots together. -/
def keepsFree (f : Image) : Bool := f.number 64 4 != 0

/-- How texts are written. -/
inductive Encoding where
  | utf8
  | utf16 (greatFirst : Bool)
deriving DecidableEq

def encoding (f : Image) : Encoding :=
  match f.number 56 4 % 4 with
  | 2 => .utf16 false
  | 3 => .utf16 true
  | _ => .utf8

/-! ## Checks -/

/-- Checks the header of a file that is not blank. -/
def checkHeader (f : Image) : Except Problem Unit := do
  let isDatabase := Bytes.slice f.bytes 0 start.length == start &&
    f.readVersion ≤ aheadVersion && f.number 21 3 == 0x402020 && pageSizes.contains f.pageSize
  if !isDatabase then throw .notADatabase
  if f.filePages < f.pages then throw .malformed
  if f.usableSize < 480 then throw .notADatabase

/-- Checks that the tables are written in a known way. -/
def checkFormat (f : Image) : Except Problem Unit :=
  if latestTableFormat < f.tableFormat then .error .unknownFormat else .ok ()

def isWritable (f : Image) : Bool := f.writeVersion ≤ aheadVersion

/-- Whether changes to the file are written ahead. -/
def isAhead (f : Image) : Bool := f.readVersion = aheadVersion

end Image

end RowSieve.Store
