import WebDispatch.Exchange

namespace WebDispatch

variable {s α : Type}

namespace Run

/-- How a task ends on a worker. Of a panic there is only the text. -/
def report (m : Run s α) (x : s) : Except String (Except Failure α) × s :=
  match m x with
  | (.ok a, y) => (.ok (.ok a), y)
  | (.error f, y) => (.ok (.error f), y)
  | (.panic p, y) => (.error p.message, y)

/-- What a caller makes of the message of a worker, which does not come if the task is dropped. -/
def received : Option (Except String (Except Failure α)) → Except Error (Except Failure α)
  | some (.ok r) => .ok r
  | some (.error text) => .error (.worker text)
  | none => .error (.worker "worker dropped the task")

def offloaded (m : Run s α) (x : s) : Except Error (Except Failure α) × s :=
  let (message, y) := m.report x
  (received (some message), y)

theorem offloaded_eq_contained (m : Run s α) : m.offloaded = m.contained := by
  funext x
  simp only [offloaded, report, contained]
  cases m x with
  | mk o y => cases o <;> rfl

end Run

def Thread.run (t : Thread) (m : Run s α) (x : s) : Except Error (Except Failure α) × s :=
  match t with
  | .worker => m.offloaded x
  | .caller => m.contained x

theorem Thread.run_eq_contained (t : Thread) (m : Run s α) : t.run m = m.contained := by
  cases t with
  | worker => exact m.offloaded_eq_contained
  | caller => rfl

end WebDispatch
