import OtpToken.Storage.Store

/-!
# Sessions with a store

A session opens a store in memory or in a state file and takes steps with it. There is
a folder for the state file in any case: the file can be looked at, replaced behind the
store's back, or lost together with its folder, and a session that began in memory goes
on in the file once the store has been reopened.
-/

namespace OtpToken.Bench

/-- A step with a store. -/
inductive StoreStep
  | put (key value : Bytes)
  | get (key : Bytes)
  | setReadOnly (readOnly : Bool)
  /-- Looks at the state file. -/
  | look
  /-- Replaces the state file. -/
  | replace (content : Bytes)
  /-- The folder of the state file vanishes. -/
  | breakStorage
  /-- The folder of the state file is back, and empty. -/
  | repairStorage
  | reopen

/-- What a step with a store hands out. -/
inductive StoreReply
  | taken
  | value (value : Option Bytes)
  | put (result : Except StoreError Unit)
  | opened (result : Except StoreError Unit)

/-- A store at the bench. -/
structure StoreSession where
  store : Store
  /-- The disk for the state file; that of the store in use comes first. -/
  disk : Disk

namespace StoreSession

/-- The path of the state file. -/
def statePath : String := "state.bin"

/-- The disk for the state file. -/
def currentDisk (session : StoreSession) : Disk := session.store.disk?.getD session.disk

/-- Changes the disk for the state file. -/
def changeDisk (session : StoreSession) (change : Disk → Disk) : StoreSession :=
  ⟨session.store.mapDisk change, change session.currentDisk⟩

/-- Goes on with another store if there is one, and with the old one otherwise. -/
def goOn (session : StoreSession) :
    Except StoreError Store → Except StoreError Unit × StoreSession
  | .ok store => (.ok (), ⟨store, session.currentDisk⟩)
  | .error error => (.error error, session)

/-- Takes a step. -/
def take (session : StoreSession) : StoreStep → StoreReply × StoreSession
  | .put key value =>
    let (result, session) := session.goOn (session.store.put key value)
    (.put result, session)
  | .get key => (.value (session.store.get? key), session)
  | .setReadOnly readOnly =>
    (.taken, { session with store := session.store.setReadOnly readOnly })
  | .look => (.value (session.currentDisk.content? statePath), session)
  | .replace content =>
    (.taken, session.changeDisk fun disk => (disk.write? statePath content).getD disk)
  | .breakStorage => (.taken, session.changeDisk fun disk => disk.removeFolder disk.working)
  | .repairStorage => (.taken, session.changeDisk fun disk => disk.makeFolder disk.working)
  | .reopen =>
    let (result, session) := session.goOn (Store.openFile statePath session.currentDisk)
    (.opened result, session)

/-- What a step leaves: its reply, and the store after it. -/
structure Line where
  reply : StoreReply
  store : Store

/-- Takes steps one after the other, each of which leaves a line. -/
def takeAll (session : StoreSession) : List StoreStep → List Line
  | [] => []
  | step :: rest =>
    let (reply, session) := session.take step
    ⟨reply, session.store⟩ :: takeAll session rest

/-- The disk that a session begins with: a folder with the given state file in it, if any. -/
def firstDisk (content : Option Bytes) : Disk :=
  match content with
  | some content => Disk.blank.set (Disk.blank.inWorking statePath) (.file content)
  | none => Disk.blank

/-- Opens a store and takes steps with it. -/
def run (onFile : Bool) (content : Option Bytes) (steps : List StoreStep) :
    Except StoreError (List Line) := do
  let disk := firstDisk content
  let store ← if onFile then Store.openFile statePath disk else .ok .inMemory
  return takeAll ⟨store, disk⟩ steps

end StoreSession

end OtpToken.Bench
