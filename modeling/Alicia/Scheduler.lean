import Alicia.Collection.Cursor

/-!
# The scheduler

`Scheduler::Tick` executes at most one job, the first one from the iterator on that is due, and
erases it after it ran or threw.  The jobs are data here; the owner of the scheduler says what a
job does to its state, and the job is still in the list while that happens.
-/

namespace Alicia

/-- A job with the time point from which on it is due. -/
structure Job (T : Type) where
  due : Nat
  task : T
  deriving DecidableEq

structure Scheduler (T : Type) where
  jobs : Cursor (Job T) := {}
  deriving DecidableEq

namespace Scheduler

variable {T : Type}

/-- `Scheduler::Queue`. -/
def queue (scheduler : Scheduler T) (task : T) (due : Nat) : Scheduler T :=
  ⟨scheduler.jobs.push ⟨due, task⟩⟩

/-- Move the iterator to the job that this tick executes. -/
def select (scheduler : Scheduler T) (now : Nat) : Scheduler T :=
  ⟨scheduler.jobs.rewind.seek fun job => job.due ≤ now⟩

/-- The task of the job at the iterator. -/
def current? (scheduler : Scheduler T) : Option T := scheduler.jobs.current?.map Job.task

/-- Erase the job at the iterator. -/
def erase (scheduler : Scheduler T) : Scheduler T := ⟨scheduler.jobs.erase⟩

/-- The tasks that wait, in the order of the list. -/
def tasks (scheduler : Scheduler T) : List T := scheduler.jobs.toList.map Job.task

@[simp] theorem tasks_empty : ({} : Scheduler T).tasks = [] := rfl

@[simp] theorem tasks_queue (scheduler : Scheduler T) (task : T) (due : Nat) :
    (scheduler.queue task due).tasks = scheduler.tasks ++ [task] := by
  simp [tasks, queue]

theorem filterMap_tasks_queue {α : Type} (f : T → Option α) (scheduler : Scheduler T) (task : T)
    (due : Nat) :
    (scheduler.queue task due).tasks.filterMap f =
      scheduler.tasks.filterMap f ++ (f task).toList := by
  rw [tasks_queue, List.filterMap_append, List.filterMap_cons]
  cases f task <;> rfl

@[simp] theorem tasks_select (scheduler : Scheduler T) (now : Nat) :
    (scheduler.select now).tasks = scheduler.tasks := by
  simp [tasks, select]

/-- Erasing the job at the iterator takes its task out of the waiting tasks. -/
theorem tasks_eq_of_current {scheduler : Scheduler T} {task : T}
    (h : scheduler.current? = some task) :
    ∃ before after, scheduler.tasks = before ++ task :: after ∧
      scheduler.erase.tasks = before ++ after := by
  obtain ⟨job, hjob, rfl⟩ := Option.map_eq_some_iff.1 h
  obtain ⟨before, after, hlist, herase⟩ := Cursor.toList_eq_of_current hjob
  exact ⟨before.map Job.task, after.map Job.task, by simp [tasks, hlist],
    by simp [tasks, erase, herase]⟩

end Scheduler

end Alicia
