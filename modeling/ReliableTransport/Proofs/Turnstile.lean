import Mathlib.Data.List.Nodup
import ReliableTransport.Turnstile
/-!
This module says how the line before a turnstile moves. A task joins it at its end and may leave it
anywhere, and the one in front is inside.
-/

namespace ReliableTransport

namespace Turnstile

variable {Task : Type}

/-- The task that is inside and those that wait behind it, in the order in which they came. -/
def line (turnstile : Turnstile Task) : List Task := turnstile.inside.toList ++ turnstile.queue

/-- Nobody waits while nobody is inside. -/
def Tidy (turnstile : Turnstile Task) : Prop := turnstile.inside = none → turnstile.queue = []

variable {turnstile : Turnstile Task} {task : Task}

theorem line_of_idle (tidy : turnstile.Tidy) (idle : turnstile.inside = none) :
    turnstile.line = [] := by
  rw [line, idle, tidy idle]
  rfl

theorem enter_of_idle (idle : turnstile.inside = none) :
    turnstile.enter task = ({ turnstile with inside := some task }, true) := by
  rw [enter, idle]

theorem enter_of_busy {other : Task} (busy : turnstile.inside = some other) :
    turnstile.enter task = ({ turnstile with queue := turnstile.queue ++ [task] }, false) := by
  rw [enter, busy]

theorem tidy_enter : (turnstile.enter task).1.Tidy := by
  cases busy : turnstile.inside with
  | none =>
      rw [enter_of_idle busy]
      exact fun impossible => nomatch impossible
  | some other =>
      rw [enter_of_busy busy]
      exact fun idle => nomatch busy.symm.trans idle

theorem line_enter (tidy : turnstile.Tidy) :
    (turnstile.enter task).1.line = turnstile.line ++ [task] := by
  cases busy : turnstile.inside with
  | none =>
      rw [enter_of_idle busy, line_of_idle tidy busy, line, tidy busy]
      rfl
  | some other => rw [enter_of_busy busy, line, line, List.append_assoc]

variable [DecidableEq Task]

theorem Tidy.leave (tidy : turnstile.Tidy) : (turnstile.leave task).1.Tidy := by
  rw [Turnstile.leave]
  split
  · rw [exit]
    split
    · exact fun _ => rfl
    · exact fun impossible => nomatch impossible
  · intro idle
    rw [tidy idle]
    rfl

/-- Whoever is inside stays there when another task leaves. -/
theorem inside_leave_of_ne (outside : turnstile.inside ≠ some task) :
    (turnstile.leave task).1.inside = turnstile.inside := by rw [leave, if_neg outside]

theorem line_leave (tidy : turnstile.Tidy) :
    (turnstile.leave task).1.line = turnstile.line.erase task := by
  rw [leave]
  split
  · next inside =>
    have first : turnstile.line.erase task = turnstile.queue := by
      rw [line, inside]
      exact List.erase_cons_head task turnstile.queue
    rw [first, exit]
    split
    · next none => rw [none]; rfl
    · next next queue waits => rw [waits]; rfl
  · next outside =>
    cases busy : turnstile.inside with
    | none => simp [line, busy, tidy busy]
    | some other =>
        have different : other ≠ task := fun same => outside (busy.trans (congrArg some same))
        rw [line, line, busy]
        exact (List.erase_cons_tail (by simpa using different)).symm

end Turnstile

end ReliableTransport
