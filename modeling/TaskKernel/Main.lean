import TaskKernel.Console

/-!
# The program on a host

Outside a machine of its own the kernel has nothing to boot; the program says so.
-/

def main : IO Unit := do
  IO.print (TaskKernel.Console.transcript TaskKernel.Console.hostedNotice)
