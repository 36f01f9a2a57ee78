/-
# ThemeEditor.Proofs.Session.Turn -- a session among others

A session is not alone: between two operations others may write to its disk.  A
`Turn` is an operation or such a write, `Turn.run` is what comes of some turns, and
`Turn.trace` keeps every turn with the step that was taken.

What a session owes to its past is read off the trace: which turn of a kind was the
latest (`Turn.latest`), and which calls its subscribers got (`Turn.calls`).  Both
are known of a run as soon as they are known of one more turn.
-/
import ThemeEditor.Proofs.Session.Operation

namespace ThemeEditor

set_option autoImplicit false

open Session (Edited)

/-- What can happen to an open session. -/
inductive Turn where
  | operation (op : Operation)
  /-- Others have written to the disk. -/
  | written (disk : Disk)

namespace Turn

/-- The step of a turn. -/
def take (s : Session) : Turn → Edited Unit
  | operation op => op.perform s
  | written disk => Operation.quiet { s with world := { s.world with disk } }

/-- The session after some turns. -/
def run (s : Session) (turns : List Turn) : Session :=
  turns.foldl (fun s turn => (turn.take s).session) s

/-- Some turns with the steps that were taken, in order. -/
def trace : Session → List Turn → List (Turn × Edited Unit)
  | _, [] => []
  | s, turn :: turns => (turn, turn.take s) :: trace (turn.take s).session turns

variable (s : Session) (turns : List Turn) (turn : Turn)

theorem run_snoc : run s (turns ++ [turn]) = (turn.take (run s turns)).session := by
  simp only [run, List.foldl_append, List.foldl_cons, List.foldl_nil]

theorem trace_snoc :
    trace s (turns ++ [turn]) = trace s turns ++ [(turn, turn.take (run s turns))] := by
  induction turns generalizing s with
  | nil => rfl
  | cons first rest ih => exact congrArg ((first, first.take s) :: ·) (ih (first.take s).session)

/-! ## The latest turn of a kind -/

/-- The latest turn that counts, with its step. -/
def latest (counts : Turn → Bool) : Option (Turn × Edited Unit) :=
  (trace s turns).reverse.find? fun taken => counts taken.1

theorem latest_snoc (counts : Turn → Bool) :
    latest s (turns ++ [turn]) counts =
      if counts turn then some (turn, turn.take (run s turns)) else latest s turns counts := by
  simp only [latest, trace_snoc, List.reverse_append, List.reverse_singleton, List.singleton_append,
    List.find?_cons]
  split
  · next counted => rw [if_pos counted]
  · next uncounted => rw [if_neg (Bool.not_eq_true _ ▸ uncounted)]

/-! ## The calls of subscribers -/

/-- The calls of subscribers, in order. -/
def calls : List Notice :=
  (trace s turns).flatMap fun taken => taken.2.seen

theorem calls_snoc :
    calls s (turns ++ [turn]) = calls s turns ++ (turn.take (run s turns)).seen := by
  simp only [calls, trace_snoc, List.flatMap_append, List.flatMap_cons, List.flatMap_nil,
    List.append_nil]

end Turn

end ThemeEditor
