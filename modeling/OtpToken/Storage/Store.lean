import OtpToken.Storage.Disk
import OtpToken.Storage.StateFile

/-!
# Stores

A store keeps a table in memory, or in a state file that every write replaces as a
whole. Only a write that reaches the file becomes visible. A store can be made
read-only, and counts the writes that succeeded since it was opened.
-/

namespace OtpToken

/-- Why a store cannot be opened or written. -/
inductive StoreError
  | io
  | format (error : FormatError)
  | readOnly
  deriving DecidableEq, Repr

/-- The wording of a store error. What the system says of a failed file operation is left out. -/
def StoreError.message : StoreError → String
  | io => "state file"
  | format error => "state file is not a valid store: " ++ error.message
  | readOnly => "store is read-only"

/-- Where a store keeps its table. -/
inductive Medium
  | memory
  | file (path : String) (disk : Disk)

/-- A table with its place and its state. -/
structure Store where
  table : Table
  medium : Medium
  readOnly : Bool
  writes : Nat

namespace Store

/-- An empty store in memory. -/
def inMemory : Store := ⟨[], .memory, false, 0⟩

/-- Writes a table to the medium, if it can be written. -/
def flush? (table : Table) : Medium → Option Medium
  | .memory => some .memory
  | .file path disk => (disk.write? path (StateFile.write table)).map (.file path)

/-- Opens the store of a state file, made empty if there is none. -/
def openFile (path : String) (disk : Disk) : Except StoreError Store :=
  match disk.read path with
  | .ok content =>
    match StateFile.read content with
    | .ok table => .ok ⟨table, .file path disk, false, 0⟩
    | .error error => .error (.format error)
  | .error .notFound =>
    match flush? [] (.file path disk) with
    | some medium => .ok ⟨[], medium, false, 0⟩
    | none => .error .io
  | .error .refused => .error .io

/-- The value of a key. -/
def get? (store : Store) (key : Bytes) : Option Bytes := store.table.get? key

/-- Gives a key a value. -/
def put (store : Store) (key value : Bytes) : Except StoreError Store :=
  if store.readOnly then .error .readOnly
  else
    match flush? (store.table.insert key value) store.medium with
    | some medium =>
      .ok { store with
        table := store.table.insert key value
        medium := medium
        writes := store.writes + 1 }
    | none => .error .io

/-- The store, refusing writes from now on or accepting them again. -/
def setReadOnly (store : Store) (readOnly : Bool) : Store := { store with readOnly := readOnly }

/-- The disk that a store keeps its state file on. -/
def disk? (store : Store) : Option Disk :=
  match store.medium with
  | .memory => none
  | .file _ disk => some disk

/-- The store with its disk changed behind its back. -/
def mapDisk (store : Store) (change : Disk → Disk) : Store :=
  match store.medium with
  | .memory => store
  | .file path disk => { store with medium := .file path (change disk) }

end Store

end OtpToken
