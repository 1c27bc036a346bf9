import IrMachine.Address.Arithmetic
import IrMachine.Address.Basic
import IrMachine.Bytes
import IrMachine.Config.Basic
import IrMachine.Config.Json
import IrMachine.Config.Reader
import IrMachine.Debug.Frame
import IrMachine.Fault
import IrMachine.Foreign.Body
import IrMachine.Foreign.Call
import IrMachine.Foreign.Convert
import IrMachine.Foreign.Object
import IrMachine.Foreign.Query
import IrMachine.Foreign.Raw
import IrMachine.Foreign.Read
import IrMachine.Global.Basic
import IrMachine.Global.Finalize
import IrMachine.Load.Cache
import IrMachine.Load.Kind
import IrMachine.Load.Site
import IrMachine.Machine
import IrMachine.Memory.Buffer
import IrMachine.Memory.Image
import IrMachine.Memory.Native
import IrMachine.Number.Binary
import IrMachine.Number.Extended
import IrMachine.Number.Shortest
import IrMachine.Number.Text
import IrMachine.Number.VarInt
import IrMachine.Proofs.Address.Displacement
import IrMachine.Proofs.AliasChain
import IrMachine.Proofs.Computation
import IrMachine.Proofs.Faults
import IrMachine.Proofs.Finalize.AliasSearch
import IrMachine.Proofs.Finalize.Check
import IrMachine.Proofs.Finalize.Commit
import IrMachine.Proofs.Finalize.Initializer
import IrMachine.Proofs.Finalize.Outcome
import IrMachine.Proofs.Finalize.Storage
import IrMachine.Proofs.Foreign.Answer
import IrMachine.Proofs.Foreign.Crossing
import IrMachine.Proofs.Foreign.Outcome
import IrMachine.Proofs.Foreign.PointerPosition
import IrMachine.Proofs.Foreign.RoundTrip
import IrMachine.Proofs.Foreign.StackPointer
import IrMachine.Proofs.Globals
import IrMachine.Proofs.Host.Basic
import IrMachine.Proofs.Host.Coherent
import IrMachine.Proofs.Host.Finalize
import IrMachine.Proofs.Host.Frame
import IrMachine.Proofs.Host.Layout
import IrMachine.Proofs.Host.Lifecycle
import IrMachine.Proofs.Host.Naming
import IrMachine.Proofs.Host.Refusal
import IrMachine.Proofs.Host.Storage
import IrMachine.Proofs.Load.Caching
import IrMachine.Proofs.Load.Direct
import IrMachine.Proofs.Load.Element
import IrMachine.Proofs.Load.Global
import IrMachine.Proofs.Load.InlineCache
import IrMachine.Proofs.Load.Native
import IrMachine.Proofs.Load.StandardWidths
import IrMachine.Proofs.Load.Typing
import IrMachine.Proofs.Memory.Allocator
import IrMachine.Proofs.Memory.Buffer
import IrMachine.Proofs.Memory.Codec
import IrMachine.Proofs.NativeMemory
import IrMachine.Proofs.Number.Patterns
import IrMachine.Proofs.Number.Resizing
import IrMachine.Proofs.Number.TwosComplement
import IrMachine.Proofs.Number.Widening
import IrMachine.Proofs.StoredForms
import IrMachine.Scalar
import IrMachine.Session.Basic
import IrMachine.Text.Hex
import IrMachine.Text.Printable
import IrMachine.Text.Quoted
import IrMachine.Ty.Basic
import IrMachine.Ty.Layout
import IrMachine.Value
