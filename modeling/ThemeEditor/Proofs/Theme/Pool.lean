/-
# ThemeEditor.Proofs.Theme.Pool -- calls that overlap

Any number of calls, each of one fetcher, work on one cache.  A `Pool` is the
cache, the fetchers and the calls with how far each has come; an `Event` begins a
call or lets one call act, so a list of events is an interleaving of the steps of
all calls, and `Pool.run` is what comes of it.

A call acts by a step of its own, by taking the answer to its request, or by being
dropped.  Each action brings its own random words: nothing is assumed of them.
What a pool holds is summed over its calls (`Pool.total`).  One event changes one
call, and with it one term of the sum (`total_put`).
-/
import Mathlib.Algebra.BigOperators.Group.List.Basic
import ThemeEditor.Theme.Fetch

namespace ThemeEditor

set_option autoImplicit false

open ThemeEditor.Random (WordSource)

/-! ## One call -/

/-- A call of a fetcher for a palette. -/
structure Call where
  fetcher : Nat
  mode : Mode
  /-- How far it has come, unless it was dropped. -/
  stage : Option Stage
  /-- The palettes that it has put into the cache. -/
  filled : List Palette

/-- A call that has not begun. -/
def Call.new (fetcher : Nat) (mode : Mode) : Call :=
  ⟨fetcher, mode, some .looking, []⟩

/-- What can become of a call next. -/
inductive Action where
  | step
  | settle (reply : Reply)
  | drop

namespace Stage

/-- Whether a call can be dropped: it has not begun, or waits for its answer. -/
def canDrop : Stage → Bool
  | looking => true
  | waiting _ => true
  | _ => false

/-- The palettes that a step from here puts into the cache. -/
def fills : Stage → List Palette
  | settled (.ok batch) => Batch.usable batch.palettes
  | _ => []

end Stage

namespace Action

/-- How far a call has come after an action, unless it was dropped. -/
def apply (mode : Mode) (stage : Stage) (s : Supply) : Action → Option Stage × Supply
  | step => ((stage.step mode s).1, (stage.step mode s).2)
  | settle reply => ((stage.settle mode reply s).1, (stage.settle mode reply s).2)
  | drop => if stage.canDrop then (none, stage.abandon mode s) else (stage, s)

/-- The palettes that an action puts into the cache. -/
def fills (stage : Stage) : Action → List Palette
  | step => stage.fills
  | _ => []

end Action

/-- A call and its supply after an action. -/
def Call.act (action : Action) (c : Call) (s : Supply) : Call × Supply :=
  match c.stage with
  | none => (c, s)
  | some stage =>
      ({ c with
          stage := (action.apply c.mode stage s).1
          filled := action.fills stage ++ c.filled },
        (action.apply c.mode stage s).2)

theorem Call.act_fetcher (action : Action) (c : Call) (s : Supply) :
    (c.act action s).1.fetcher = c.fetcher := by
  unfold act
  split <;> rfl

/-! ## All calls -/

/-- Calls that share a cache. -/
structure Pool where
  cache : PaletteCache
  fetchers : Nat → Fetcher
  calls : List Call

/-- What can happen in a pool. -/
inductive Event where
  /-- A call is made. -/
  | call (fetcher : Nat) (mode : Mode)
  /-- The call at a place acts. -/
  | act (place : Nat) (action : Action) (words : WordSource)

namespace Pool

/-- A pool before the first call. -/
def quiet (cache : PaletteCache) (fetchers : Nat → Fetcher) : Pool :=
  ⟨cache, fetchers, []⟩

/-- What a call of a fetcher works on. -/
def supply (p : Pool) (fetcher : Nat) (words : WordSource) : Supply :=
  ⟨p.cache, p.fetchers fetcher, words⟩

/-- The pool after the call at a place, and its supply, have changed. -/
def put (p : Pool) (place : Nat) (changed : Call × Supply) : Pool where
  cache := changed.2.cache
  fetchers := fun f => if f = changed.1.fetcher then changed.2.fetcher else p.fetchers f
  calls := p.calls.set place changed.1

/-- The pool after an event.  Nothing happens where there is no call. -/
def step (p : Pool) : Event → Pool
  | .call fetcher mode => { p with calls := p.calls ++ [.new fetcher mode] }
  | .act place action words =>
      match p.calls[place]? with
      | none => p
      | some c => p.put place (c.act action (p.supply c.fetcher words))

/-- The pool after some events. -/
def run (p : Pool) (events : List Event) : Pool :=
  events.foldl step p

theorem step_nobody {p : Pool} {place : Nat} (nobody : p.calls[place]? = none) (action : Action)
    (words : WordSource) : p.step (.act place action words) = p := by
  simp only [step, nobody]

theorem step_act {p : Pool} {place : Nat} {c : Call} (there : p.calls[place]? = some c)
    (action : Action) (words : WordSource) :
    p.step (.act place action words) = p.put place (c.act action (p.supply c.fetcher words)) := by
  simp only [step, there]

/-! ## Sums over the calls -/

section Total

variable {M : Type} [AddCommMonoid M] (weight : Call → M)

/-- The sum of what each call weighs. -/
def total (p : Pool) : M :=
  (p.calls.map weight).sum

theorem total_quiet (cache : PaletteCache) (fetchers : Nat → Fetcher) :
    (quiet cache fetchers).total weight = 0 := rfl

theorem total_call (p : Pool) (fetcher : Nat) (mode : Mode) :
    (p.step (.call fetcher mode)).total weight =
      p.total weight + weight (.new fetcher mode) := by
  simp [total, step]

theorem sum_map_set : ∀ {calls : List Call} {place : Nat} {c : Call} (changed : Call),
    calls[place]? = some c →
      ((calls.set place changed).map weight).sum + weight c =
        (calls.map weight).sum + weight changed
  | [], _, _, _, there => by cases there
  | d :: calls, 0, c, changed, there => by
      cases there
      simp only [List.set_cons_zero, List.map_cons, List.sum_cons]
      rw [add_right_comm, add_comm (weight changed), add_right_comm]
  | d :: calls, place + 1, c, changed, there => by
      have rest : ((calls.set place changed).map weight).sum + weight c =
          (calls.map weight).sum + weight changed := sum_map_set changed there
      simp only [List.set_cons_succ, List.map_cons, List.sum_cons, add_assoc, rest]

/-- A call that changes changes its own term. -/
theorem total_put {p : Pool} {place : Nat} {c : Call} (there : p.calls[place]? = some c)
    (changed : Call × Supply) :
    (p.put place changed).total weight + weight c = p.total weight + weight changed.1 :=
  sum_map_set weight changed.1 there

end Total

end Pool

end ThemeEditor
