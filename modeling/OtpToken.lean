import OtpToken.Bench.CredentialSession
import OtpToken.Bench.DeviceSession
import OtpToken.Bench.Inventory
import OtpToken.Bench.StoreSession
import OtpToken.Main
import OtpToken.Proofs.Board.Job
import OtpToken.Proofs.Board.Soundness
import OtpToken.Proofs.Board.Service
import OtpToken.Proofs.Board.Schedule
import OtpToken.Proofs.Board.Guarded
import OtpToken.Proofs.Board.Waiting
import OtpToken.Proofs.Board.Ready
import OtpToken.Proofs.Act
import OtpToken.Proofs.Code
import OtpToken.Proofs.Blocking.Calls
import OtpToken.Proofs.Device.Ends
import OtpToken.Proofs.Credential
import OtpToken.Proofs.Records
import OtpToken.Proofs.Sealing
import OtpToken.Proofs.RoundTrip
import OtpToken.Proofs.Storage.Store
import OtpToken.Proofs.Blocking.Deliver
import OtpToken.Proofs.Blocking.KeyedHash
import OtpToken.Proofs.Blocking.Roaming
import OtpToken.Proofs.Blocking.Supply
import OtpToken.Proofs.Blocking.Limit
import OtpToken.Proofs.Blocking.Idle
import OtpToken.Proofs.Blocking.Release
import OtpToken.Proofs.Blocking.Refusal
import OtpToken.Proofs.Device.Chronicle
import OtpToken.Proofs.Device.Emit
import OtpToken.Proofs.Keystore
import OtpToken.Proofs.Device.Program
import OtpToken.Proofs.Blocking.Input
import OtpToken.Proofs.Board.Rest
import OtpToken.Proofs.Board.Reachable
import OtpToken.Proofs.Board.Precedence
import OtpToken.Proofs.Device.Reached
import OtpToken.Proofs.Device.PowerLoss
import OtpToken.Proofs.Device.Ledger
import OtpToken.Proofs.Script
import OtpToken.Proofs.Blocking.Presses
import OtpToken.Proofs.Board.Turning
import OtpToken.Proofs.Blocking.Listening
import OtpToken.Proofs.Blocking.Classification
import OtpToken.Proofs.Device.Interpreter
import OtpToken.Proofs.Device.Running
import OtpToken.Proofs.Device.Telling
import OtpToken.Proofs.Device.Booting
import OtpToken.Proofs.Device.Serving
import OtpToken.Proofs.Device.Life
import OtpToken.Proofs.Device.Untrusted
import OtpToken.Proofs.Blocking.Lights
import OtpToken.Proofs.Device.Proceeding
import OtpToken.Proofs.Blocking.Ending
import OtpToken.Proofs.Device.Availability
import OtpToken.Proofs.Device.Counting
import OtpToken.Proofs.Device.Dark
import OtpToken.Proofs.Device.Outcomes
import OtpToken.Proofs.Device.Programming
import OtpToken.Proofs.Storage.Repair
import OtpToken.Proofs.Blocking.StoreAccess
import OtpToken.Proofs.Blocking.StoreMap
import OtpToken.Proofs.Device.Repairing
import OtpToken.Proofs.Board.Twins
import OtpToken.Proofs.Blocking.Twins
import OtpToken.Proofs.Device.Twins
import OtpToken.Proofs.Device.Invisible
import OtpToken.Proofs.Bits
import OtpToken.Proofs.Base32
import OtpToken.Proofs.Blocking.SecretLine
import OtpToken.Proofs.Blocking.Intake
import OtpToken.Proofs.Blocking.Typing
import OtpToken.Proofs.Board.Handles
import OtpToken.Proofs.Gesture
import OtpToken.Proofs.Board.GestureLines
import OtpToken.Proofs.Blocking.Elapse
import OtpToken.Proofs.Storage.StateFile
import OtpToken.Proofs.Storage.FileStore
import OtpToken.Proofs.RefusedRequest
