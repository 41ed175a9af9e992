import PqBleHandshake.Foundation.Bytes
import PqBleHandshake.Foundation.Transition
import PqBleHandshake.Foundation.Crypto
import PqBleHandshake.Resumption.Wire
import PqBleHandshake.Primitives
import PqBleHandshake.Resumption.KeySchedule
import PqBleHandshake.Resumption.Peripheral
import PqBleHandshake.Resumption.TicketLifetime
import PqBleHandshake.Resumption.PeripheralModel
import PqBleHandshake.Resumption.Refinement
import PqBleHandshake.Resumption.Central
import PqBleHandshake.Resumption.Agreement
import PqBleHandshake.V1Frame
import PqBleHandshake.Application.Cp4
import PqBleHandshake.Application.Central
import PqBleHandshake.Application.Ledger
import PqBleHandshake.Link
import PqBleHandshake.Resumption.Service
import PqBleHandshake.Resumption.Channel
import PqBleHandshake.CiphertextTransfer
import PqBleHandshake.FirmwareV1.Session
import PqBleHandshake.FirmwareV1.Main
import PqBleHandshake.FirmwareV1.Worker
import PqBleHandshake.Resumption.Binding
import PqBleHandshake.Resumption.Interoperability
import PqBleHandshake.Security.Machine
import PqBleHandshake.Security.Ceremony
import PqBleHandshake.FirmwareV1.Moves
import PqBleHandshake.FirmwareV1.Gate
import PqBleHandshake.FirmwareV1.Isolation
import PqBleHandshake.Handshake.Phase7
import PqBleHandshake.Handshake.Phase5
import PqBleHandshake.Handshake.Central
import PqBleHandshake.Handshake.Interoperability
import PqBleHandshake.Legacy.Session
import PqBleHandshake.Legacy.Main
import PqBleHandshake.Legacy.Worker
import PqBleHandshake.Legacy.Slot
import PqBleHandshake.Legacy.Isolation
import PqBleHandshake.Legacy.Ordering
import PqBleHandshake.Fragmentation
import PqBleHandshake.Handshake.DomainSeparation
import PqBleHandshake.Driver.Session
import PqBleHandshake.Driver.Policy
import PqBleHandshake.Driver.Runs
import PqBleHandshake.Resumption.Handover
import PqBleHandshake.SecureChannel
import PqBleHandshake.Legacy.Installation
import PqBleHandshake.Legacy.Resets
import PqBleHandshake.FirmwareV1.Resets
import PqBleHandshake.Foundation.SingleSlot
import PqBleHandshake.Legacy.Jobs
import PqBleHandshake.Legacy.SingleSlot
import PqBleHandshake.FirmwareV1.Jobs
import PqBleHandshake.FirmwareV1.SingleSlot
import PqBleHandshake.Builds
import PqBleHandshake.Resumption.Atomicity
import PqBleHandshake.Rejection
import PqBleHandshake.V1Codec
import PqBleHandshake.Foundation.Buffer
import PqBleHandshake.Application.Interoperability
import PqBleHandshake.Foundation.Codec
import PqBleHandshake.WireCodecs
import PqBleHandshake.SecureReceiver
import PqBleHandshake.Foundation.FailClosed
import PqBleHandshake.Handshake.Typestate
import PqBleHandshake.Foundation.Exchange
import PqBleHandshake.Legacy.Exchange
import PqBleHandshake.Driver.Buffers
import PqBleHandshake.Driver.Cleanup
import PqBleHandshake.FragmentSets
import PqBleHandshake.Resumption.Expiry
import PqBleHandshake.Foundation.Dict
import PqBleHandshake.StradaA.SessionStore
import PqBleHandshake.StradaA.StoreLimits
import PqBleHandshake.StradaA.StoreFile
import PqBleHandshake.StradaA.Resume
import PqBleHandshake.Driver.Pairing
import PqBleHandshake.Foundation.RefCount
import PqBleHandshake.ConnectionReferences
import PqBleHandshake.FirmwareV1.Ledger
import PqBleHandshake.FirmwareV1.Progress
import PqBleHandshake.Streams
import PqBleHandshake.FirmwareV1.Agreement
import PqBleHandshake.Resumption.TicketCalls
import PqBleHandshake.FirmwareV1.Tickets
import PqBleHandshake.DriverV1.Protocol
import PqBleHandshake.DriverV1.Tracking
import PqBleHandshake.DriverV1.Runs
import PqBleHandshake.DriverV1.Outcome
import PqBleHandshake.DriverV1.Transcript
import PqBleHandshake.DriverV1.Safety
import PqBleHandshake.DriverV07.Session
import PqBleHandshake.DriverV07.Trails
import PqBleHandshake.DriverV07.Opening
import PqBleHandshake.DriverV07.Authentication
import PqBleHandshake.DriverV07.Runs
import PqBleHandshake.Handshake.Phase5Central
import PqBleHandshake.Handshake.LegacyInteroperability
import PqBleHandshake.Foundation.Loops
import PqBleHandshake.Foundation.Splitting
import PqBleHandshake.Mlkem.Arithmetic
import PqBleHandshake.Mlkem.Ntt
import PqBleHandshake.Mlkem.Product
import PqBleHandshake.Mlkem.Compression
