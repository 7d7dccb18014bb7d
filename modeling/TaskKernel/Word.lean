import TaskKernel.Fault

/-!
# Checked machine words

Counters, timeouts and addresses are 64-bit words, kept as natural numbers. The checked operations
give the exact result or a fault; nothing wraps.
-/

namespace TaskKernel.Word

/-- The number of values of a word of 64 bits. -/
def size : Nat := 0x10000000000000000

/-- The largest word. -/
def largest : Nat := size - 1

/-- The exact sum, or a fault if it does not fit a word. -/
def add (a b : Nat) : Except Fault Nat :=
  if a + b < size then .ok (a + b) else .error (.overflow .add)

/-- The exact difference, or a fault if it is negative. -/
def sub (a b : Nat) : Except Fault Nat :=
  if b ≤ a then .ok (a - b) else .error (.overflow .subtract)

/-- The exact product, or a fault if it does not fit a word. -/
def mul (a b : Nat) : Except Fault Nat :=
  if a * b < size then .ok (a * b) else .error (.overflow .multiply)

/-- The sum, or the largest word where the sum does not fit. -/
def saturatingAdd (a b : Nat) : Nat :=
  min (a + b) largest

/-- The greatest multiple of `alignment` that is not above `a`. -/
def alignDown (a alignment : Nat) : Nat :=
  a / alignment * alignment

theorem add_eq_ok {a b c : Nat} : add a b = .ok c ↔ a + b < size ∧ c = a + b := by
  unfold add; split <;> grind

theorem sub_eq_ok {a b c : Nat} : sub a b = .ok c ↔ b ≤ a ∧ c = a - b := by
  unfold sub; split <;> grind

theorem mul_eq_ok {a b c : Nat} : mul a b = .ok c ↔ a * b < size ∧ c = a * b := by
  unfold mul; split <;> grind

theorem alignDown_le (a alignment : Nat) : alignDown a alignment ≤ a :=
  Nat.div_mul_le_self a alignment

theorem alignDown_dvd (a alignment : Nat) : alignment ∣ alignDown a alignment :=
  Nat.dvd_mul_left alignment (a / alignment)

end TaskKernel.Word
