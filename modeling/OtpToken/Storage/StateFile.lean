import OtpToken.Storage.Table
import OtpToken.Storage.Varint

/-!
# State files

A state file holds a whole table: the number of its entries, then the key and the
value of each, both with their length in front. Whatever follows the last entry is
ignored, entries may stand in any order, and of two with the same key the later one
counts.
-/

namespace OtpToken.StateFile

/-- Writes a byte string with its length in front. -/
def writeBytes (bytes : Bytes) : Bytes := Varint.write bytes.length ++ bytes

/-- Writes a table. -/
def write (table : Table) : Bytes :=
  Varint.write table.length ++
    table.flatMap fun entry => writeBytes entry.1 ++ writeBytes entry.2

/-- Reads a byte string with its length in front, and hands out the bytes after it. -/
def readBytes (bytes : Bytes) : Except FormatError (Bytes × Bytes) := do
  let (length, rest) ← Varint.read bytes
  if length ≤ rest.length then return (rest.take length, rest.drop length)
  else throw .endOfBuffer

/-- Reads `count` entries into a table. -/
def readEntries : (count : Nat) → Bytes → Table → Except FormatError Table
  | 0, _, table => .ok table
  | count + 1, bytes, table => do
    let (key, bytes) ← readBytes bytes
    let (value, bytes) ← readBytes bytes
    readEntries count bytes (table.insert key value)

/-- Reads a table. -/
def read (bytes : Bytes) : Except FormatError Table := do
  let (count, bytes) ← Varint.read bytes
  readEntries count bytes []

end OtpToken.StateFile
