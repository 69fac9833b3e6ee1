import OtpToken.Sealing
import OtpToken.Storage.Disk

/-!
# Key files

The key of a device is the whole content of a file. A missing key file is made with
a freshly drawn key, which the next start then finds there.
-/

namespace OtpToken

/-- Why there is no device key. -/
inductive KeyFileError
  | reading
  | wrongSize (size : Nat)
  | writing
  deriving DecidableEq, Repr

/-- The wording of a key file error. -/
def KeyFileError.message (path : String) : KeyFileError → String
  | reading => "reading " ++ path
  | wrongSize size =>
    path ++ " holds " ++ toString size ++ " bytes, expected " ++ toString ChaCha20.keySize
  | writing => "writing " ++ path

namespace KeyFile

/-- The key that bytes hold. -/
def keyOf (bytes : Bytes) : Except KeyFileError DeviceKey :=
  if fits : bytes.length = ChaCha20.keySize then .ok ⟨bytes, fits⟩
  else .error (.wrongSize bytes.length)

/-- Loads the key of a file. A missing file is made with a drawn key. -/
def load (path : String) (drawn : DeviceKey) (disk : Disk) :
    Except KeyFileError (DeviceKey × Disk) :=
  match disk.read path with
  | .ok content => do
    let key ← keyOf content
    return (key, disk)
  | .error .notFound =>
    match disk.write? path drawn.val with
    | some disk => .ok (drawn, disk)
    | none => .error .writing
  | .error .refused => .error .reading

end KeyFile

end OtpToken
