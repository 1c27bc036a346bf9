import IrMachine.Fault

/-!
# Configuration

Where native memory lies, how large thread stacks are, and whether load sites remember the routine
they picked. A machine is only built from a configuration that passes `Config.validate`.
-/

namespace IrMachine

/-- The settings of a machine. -/
structure Config where
  /-- The lowest native address. -/
  memoryBase : UInt64 := 0x1000
  /-- The number of bytes of native memory. -/
  memorySize : UInt64 := 0x100000
  /-- The number of bytes of each thread's stack. -/
  stackSize : UInt64 := 0x10000
  /-- Whether load sites remember routines. -/
  inlineCaching : Bool := true
deriving DecidableEq, Inhabited

namespace Config

/-- Checks that there is memory, that stacks are not empty, and that the image ends within the
address space; the first failure is reported. -/
def validate (config : Config) : Except Fault Unit :=
  if config.memorySize = 0 then .error (.config .noMemory)
  else if config.stackSize = 0 then .error (.config .noStack)
  else if UInt64.size ≤ config.memoryBase.toNat + config.memorySize.toNat then
    .error (.config (.imageOverflow config.memoryBase))
  else .ok ()

end Config

end IrMachine
