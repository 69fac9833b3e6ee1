import OtpToken.Program

/-!
# The executable

Gathers what a run starts from, runs the program, and carries out what it leaves:
files are written, text is printed, and the exit status is handed back.
-/

namespace OtpToken.Executable

/-- The name that the system has for a place. -/
def nameOf (place : Place) : String := "/" ++ "/".intercalate place

/-- What is found at a place; what is there but cannot be read is taken for a folder. -/
def lookAt (place : Place) : IO Node := do
  try
    let content ← IO.FS.readBinFile (nameOf place)
    return .file content.toList
  catch
    | .noFileOrDirectory .. => return .vacant
    | _ => return .folder

/-- Whether a file can be made at a place, which is tried out. -/
def canMake (place : Place) : IO Bool := do
  try
    let _ ← IO.FS.Handle.mk (nameOf place) .writeNew
    IO.FS.removeFile (nameOf place)
    return true
  catch _ => return false

/-- The disk with what is found along a path, and at its end. -/
def lookAlong (disk : Disk) (path : String) : IO Disk := do
  let places := Path.places disk.working path
  let disk ← places.foldlM (fun disk place => return disk.set place (← lookAt place)) disk
  match disk.find path with
  | .ok place =>
    if disk.node place == .vacant && !(← canMake place) then return disk.set place .barred
    else return disk
  | .error _ => return disk

/-- The disk of the system, as far as some paths lead into it. -/
def lookAround (paths : List String) : IO Disk := do
  let working := ((← IO.currentDir).toString.splitOn "/").filter (· != "")
  paths.foldlM lookAlong ⟨working, fun _ => .vacant⟩

/-- The paths that a command line names. -/
def pathsOf (arguments : List String) : List String :=
  match CommandLine.read arguments with
  | .ok invocation => [invocation.value .stateFile, invocation.value .keyFile]
  | .error _ => []

/-- Whether a command line asks for something that reads standard input. -/
def readsInput (arguments : List String) : Bool :=
  match CommandLine.read arguments with
  | .ok invocation => invocation.subcommand == .run
  | .error _ => false

/-- Writes the file that a path leads to where it has changed. -/
def writeBack (before after : Disk) (path : String) : IO Unit := do
  if let .ok place := after.find path then
    if before.node place != after.node place then
      if let .file content := after.node place then
        IO.FS.writeBinFile (nameOf place) ⟨content.toArray⟩

/-- Reads standard input to its end. -/
partial def readAll (stream : IO.FS.Stream) (bytes : ByteArray) : IO ByteArray := do
  let more ← stream.read 4096
  if more.isEmpty then return bytes else readAll stream (bytes ++ more)

/-- Draws random bytes. -/
def drawBlock (size : Nat) : IO (Block size) := do
  return Block.padded size (← IO.getRandomBytes (USize.ofNat size)).toList

/-- Draws nonces, one for every secret that may be sealed; each takes a byte of input at least, save
for those of the start and of the command line. -/
def drawNonces (input : Bytes) : IO (Nat → Nonce) := do
  let nonces ← (List.range (input.length + 2)).mapM fun _ => drawBlock ChaCha20.nonceSize
  return fun number => nonces.getD number (Block.zero _)

/-- Runs the program on the files and streams of the system. -/
def runOn (arguments : List String) : IO UInt32 := do
  let paths := pathsOf arguments
  let input ← if readsInput arguments then readAll (← IO.getStdin) .empty else pure .empty
  let input := input.toList
  let disk ← lookAround paths
  let outcome := Program.run {
    arguments := arguments
    input := input
    disk := disk
    drawnKey := ← drawBlock ChaCha20.keySize
    nonces := ← drawNonces input }
  for path in paths do
    writeBack disk outcome.disk path
  IO.print outcome.printed
  if let some error := outcome.error then
    IO.eprintln error
  return UInt32.ofNat outcome.status

end OtpToken.Executable

/-- The entry of the executable. -/
def main (arguments : List String) : IO UInt32 := OtpToken.Executable.runOn arguments
