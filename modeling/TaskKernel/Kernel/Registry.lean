import TaskKernel.Kernel.Basic

/-!
# The installed kernel

A machine has one kernel. It is installed before interrupts are taken, and stays.
-/

namespace TaskKernel.Kernel

/-- The place for the machine's kernel. -/
structure Registry where
  installed : Option Kernel

namespace Registry

/-- No kernel is installed. -/
def empty : Registry := ⟨none⟩

/-- Install a kernel where none is. -/
def install (registry : Registry) (kernel : Kernel) : Outcome Fault Notice Registry Unit :=
  match registry.installed with
  | none => .after [.installed] (.done ⟨some kernel⟩ ())
  | some _ => .stop registry .installedTwice

/-- The installed kernel. -/
def get (registry : Registry) : Except Fault Kernel :=
  match registry.installed with
  | some kernel => .ok kernel
  | none => .error .usedBeforeInstall

end Registry

end TaskKernel.Kernel
