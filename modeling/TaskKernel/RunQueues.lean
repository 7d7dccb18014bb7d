import TaskKernel.Level

/-!
# Run queues

One queue of runnable tasks for each level, the next to run in front.
-/

namespace TaskKernel

/-- The runnable tasks of each level, in the order of their turns. -/
structure RunQueues where
  levels : Vector (List TaskId) 4
  deriving DecidableEq

namespace RunQueues

/-- No task is runnable. -/
def empty : RunQueues := ⟨Vector.replicate 4 []⟩

/-- The tasks of a level. -/
def get (q : RunQueues) (level : Level) : List TaskId := q.levels[level]

/-- Replace the tasks of a level. -/
def set (q : RunQueues) (level : Level) (ids : List TaskId) : RunQueues :=
  ⟨q.levels.set level ids⟩

/-- The next task of a level. -/
def head? (q : RunQueues) (level : Level) : Option TaskId := (q.get level).head?

/-- Add a task behind all others of the level. -/
def pushBack (q : RunQueues) (level : Level) (id : TaskId) : RunQueues :=
  q.set level (q.get level ++ [id])

/-- Add a task in front of all others of the level. -/
def pushFront (q : RunQueues) (level : Level) (id : TaskId) : RunQueues :=
  q.set level (id :: q.get level)

/-- Add a task behind the first of the level. -/
def pushSecond (q : RunQueues) (level : Level) (id : TaskId) : RunQueues :=
  q.set level ((q.get level).take 1 ++ id :: (q.get level).drop 1)

/-- Take the first task off a level. -/
def dropHead (q : RunQueues) (level : Level) : RunQueues :=
  q.set level (q.get level).tail

/-- Move the first task of a level behind all others there. -/
def rotate (q : RunQueues) (level : Level) : RunQueues :=
  q.set level ((q.get level).tail ++ (q.get level).take 1)

/-- Take a task out of a level. -/
def erase (q : RunQueues) (level : Level) (id : TaskId) : RunQueues :=
  q.set level ((q.get level).erase id)

/-- The highest level at which a task is runnable. -/
def highest? (q : RunQueues) : Option Level :=
  Level.descending.find? fun level => !(q.get level).isEmpty

/-- All runnable tasks, by descending level. -/
def toList (q : RunQueues) : List TaskId := Level.descending.flatMap q.get

@[simp] theorem get_empty (level : Level) : empty.get level = [] := by
  simp [empty, get]

theorem get_set (q : RunQueues) (level other : Level) (ids : List TaskId) :
    (q.set level ids).get other = if level = other then ids else q.get other := by
  simp only [get, set, Fin.getElem_fin, Vector.getElem_set, Fin.ext_iff]

@[simp] theorem get_set_self (q : RunQueues) (level : Level) (ids : List TaskId) :
    (q.set level ids).get level = ids := by
  rw [get_set, if_pos rfl]

theorem get_set_of_ne (q : RunQueues) {level other : Level} (ids : List TaskId)
    (h : level ≠ other) : (q.set level ids).get other = q.get other := by
  rw [get_set, if_neg h]

theorem ext_get {q r : RunQueues} (h : ∀ level, q.get level = r.get level) : q = r := by
  rcases q with ⟨a⟩
  rcases r with ⟨b⟩
  exact congrArg RunQueues.mk (Vector.ext fun i hi => h ⟨i, hi⟩)

end RunQueues

end TaskKernel
