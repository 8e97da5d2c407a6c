import Librarian.Agent.BrowserFill
import Librarian.Agent.Committing
import Librarian.Agent.Creation
import Librarian.Agent.CreationParts
import Librarian.Agent.CreationPhases
import Librarian.Agent.CreationRuns
import Librarian.Agent.CredentialRuns
import Librarian.Agent.Credentials
import Librarian.Agent.Disclosure
import Librarian.Agent.Dispatch
import Librarian.Agent.DurableWrites
import Librarian.Agent.Filling
import Librarian.Agent.Frames
import Librarian.Agent.GateSections
import Librarian.Agent.Guards
import Librarian.Agent.Handlers
import Librarian.Agent.Idempotency
import Librarian.Agent.Lifecycle
import Librarian.Agent.LifecycleGuards
import Librarian.Agent.LocalState
import Librarian.Agent.Outcome
import Librarian.Agent.Ownership
import Librarian.Agent.Paging
import Librarian.Agent.PasskeyHistory
import Librarian.Agent.PasskeyListings
import Librarian.Agent.PasskeyRuns
import Librarian.Agent.Permits
import Librarian.Agent.RequestGuards
import Librarian.Agent.Runtime
import Librarian.Agent.Sessions
import Librarian.Agent.Storage
import Librarian.Agent.Unlocking
import Librarian.Agent.VaultAgent
import Librarian.Agent.Waiting
import Librarian.Agent.WindowsHello
import Librarian.Agent.Writers
import Librarian.Browser.Content
import Librarian.Browser.ContentRuns
import Librarian.Browser.ControllerRuns
import Librarian.Browser.Document
import Librarian.Browser.Fill
import Librarian.Browser.FillController
import Librarian.Browser.FillNative
import Librarian.Browser.Forms
import Librarian.Browser.Pairing
import Librarian.Core.Assertions
import Librarian.Core.Clock
import Librarian.Core.Folds
import Librarian.Core.Lifecycle
import Librarian.Core.Listings
import Librarian.Core.Mutations
import Librarian.Core.Origins
import Librarian.Core.Prepared
import Librarian.Core.Primitives
import Librarian.Core.Readout
import Librarian.Core.Reads
import Librarian.Core.Refinement
import Librarian.Core.Sealing
import Librarian.Core.Separation
import Librarian.Core.Session
import Librarian.Core.Signing
import Librarian.Core.Snapshot
import Librarian.Core.Steps
import Librarian.Core.VaultMap
import Librarian.Core.VaultRun
import Librarian.Core.WindowsHello
import Librarian.Desktop.Agreement
import Librarian.Desktop.Bodies
import Librarian.Desktop.Cbor
import Librarian.Desktop.Closing
import Librarian.Desktop.Codec
import Librarian.Desktop.Shell
import Librarian.Desktop.ShellCalls
import Librarian.Desktop.ShellRuns
import Librarian.Desktop.Transport
import Librarian.Format.Header
import Librarian.Format.Manifest
import Librarian.Format.Protector
import Librarian.Format.Records
import Librarian.Format.Secret
import Librarian.Format.Wire
import Librarian.Ipc.ListenerPool
import Librarian.Lib.Buffer
import Librarian.Lib.Bytes
import Librarian.Lib.Cbor
import Librarian.Lib.Chronicle
import Librarian.Lib.Codec
import Librarian.Lib.Conc.Deadlock
import Librarian.Lib.Conc.Environment
import Librarian.Lib.Conc.Logic
import Librarian.Lib.Conc.Program
import Librarian.Lib.Conc.Rely
import Librarian.Lib.Cursor
import Librarian.Lib.Fallible
import Librarian.Lib.Json
import Librarian.Lib.JsonText
import Librarian.Lib.Keyed
import Librarian.Lib.Runs
import Librarian.NativeHost.Exchange
import Librarian.NativeHost.Protocol
import Librarian.NativeHost.Requests
import Librarian.PasskeyAgent.Eligibility
import Librarian.Protocol.Accounting
import Librarian.Protocol.Browser
import Librarian.Protocol.Capacity
import Librarian.Protocol.Connection
import Librarian.Protocol.Frame
import Librarian.Protocol.Handshake
import Librarian.Protocol.Messages
import Librarian.Protocol.Requests
import Librarian.Protocol.Responses
import Librarian.Protocol.Types
import Librarian.Protocol.Wire
import Librarian.Provider.Commits
import Librarian.Provider.Custody
import Librarian.Provider.Phases
import Librarian.Provider.Programs
import Librarian.Provider.Responses
import Librarian.Provider.Runs
import Librarian.Provider.Steps
import Librarian.Provider.World
import Librarian.WindowsHello.Cancellation
import Librarian.WindowsHello.Client
import Librarian.WindowsHello.Custody
import Librarian.WindowsHello.Enrollments
import Librarian.WindowsHello.Platform
import Librarian.WindowsHello.Validation
import Librarian.Lib.Files
