/-
# ThemeEditor.Proofs.Theme.Conservation -- no palette is lost, made or moved

However calls overlap, a palette that a batch put into the cache is still there or
was returned by one call for the same mode.  For each mode the palettes returned
so far and those in the cache are, counted with multiplicity, those that were in
the cache at first and the usable ones of the batches filled since
(`returned_add_held`).

The law holds action by action: taking hands over what leaves the cache, and
filling puts in what the call is said to have filled (`Action.conserves`); the
palettes of the other mode stay where they are (`Action.held_other`).
-/
import Mathlib.Algebra.Order.Group.Multiset
import Mathlib.Tactic.Abel
import ThemeEditor.Proofs.Theme.Alone
import ThemeEditor.Proofs.Theme.Pool

namespace ThemeEditor

set_option autoImplicit false

open ThemeEditor.Random (WordSource)

variable {mode other : Mode}

/-! ## The cache -/

namespace PaletteCache

/-- The palettes that wait for a mode, in no order. -/
def held (cache : PaletteCache) (mode : Mode) : Multiset Palette :=
  (cache.get mode : List Palette)

theorem held_take (cache : PaletteCache) (mode : Mode) :
    ((cache.take mode).1.toList : Multiset Palette) + (cache.take mode).2.held mode =
      cache.held mode := by
  rw [take_fst, held, get_take, if_pos rfl, held]
  cases cache.get mode <;> simp

theorem held_take_other (cache : PaletteCache) (ne : other ≠ mode) :
    (cache.take mode).2.held other = cache.held other := by
  rw [held, get_take, if_neg ne, held]

end PaletteCache

namespace Supply

/-- The usable palettes of a batch come to those of its mode. -/
theorem held_refill (s : Supply) (mode : Mode) (batch : Batch) :
    (s.refill mode batch).cache.held mode =
      s.cache.held mode + (Batch.usable batch.palettes : Multiset Palette) := by
  obtain ⟨stack, words, stacked, filled⟩ := s.exists_refill mode batch
  have after : (s.cache.set mode (stack ++ s.cache.get mode)).get mode =
      stack ++ s.cache.get mode := by simp [PerMode.get_set]
  rw [filled, PaletteCache.held, PaletteCache.held, after, Multiset.coe_add]
  exact Multiset.coe_eq_coe.2 ((stacked.append_right _).trans List.perm_append_comm)

theorem held_refill_other (s : Supply) (batch : Batch) (ne : other ≠ mode) :
    (s.refill mode batch).cache.held other = s.cache.held other := by
  obtain ⟨stack, words, -, filled⟩ := s.exists_refill mode batch
  simp [filled, PaletteCache.held, PerMode.get_set, ne]

end Supply

/-! ## One action -/

/-- The palette that a call has returned, if it has. -/
def Stage.returned : Stage → Multiset Palette
  | done (.ok palette) => (palette.toList : Multiset Palette)
  | _ => 0

namespace Action

/-- What an action hands over has left the cache, and what it fills has come to it. -/
theorem conserves (action : Action) (mode : Mode) (stage : Stage) (s : Supply) :
    ((action.apply mode stage s).1.elim 0 Stage.returned) +
        (action.apply mode stage s).2.cache.held mode =
      stage.returned + s.cache.held mode + (action.fills stage : Multiset Palette) := by
  cases action with
  | settle reply => cases stage <;> simp [apply, fills, Stage.settle, Stage.returned]
  | drop =>
      cases stage <;> simp [apply, fills, Stage.canDrop, Stage.abandon, Stage.returned]
  | step =>
      cases stage with
      | looking =>
          have taken := s.cache.held_take mode
          simp only [apply, fills, Stage.fills, Stage.step]
          cases found : s.cache.take mode with
          | mk palette cache =>
              rw [found] at taken
              cases palette with
              | none => simp [Stage.returned]
              | some p => simpa [Stage.returned] using taken
      | missed => simp [apply, fills, Stage.fills, Stage.step, Stage.returned]
      | claimed index => simp [apply, fills, Stage.fills, Stage.step, Stage.returned]
      | waiting index => simp [apply, fills, Stage.fills, Stage.step, Stage.returned]
      | settled reply =>
          cases reply with
          | error e => simp [apply, fills, Stage.fills, Stage.step, Stage.returned]
          | ok batch =>
              simp [apply, fills, Stage.fills, Stage.step, Stage.returned, Supply.held_refill]
      | refilled =>
          have taken := s.cache.held_take mode
          simpa [apply, fills, Stage.fills, Stage.step, Stage.returned] using taken
      | done outcome => simp [apply, fills, Stage.fills, Stage.step, Stage.returned]

/-- An action leaves the palettes of the other mode where they are. -/
theorem held_other (action : Action) (stage : Stage) (s : Supply) (ne : other ≠ mode) :
    (action.apply mode stage s).2.cache.held other = s.cache.held other := by
  cases action with
  | settle reply => cases stage <;> rfl
  | drop => cases stage <;> rfl
  | step =>
      cases stage with
      | looking =>
          have taken := s.cache.held_take_other ne
          simp only [apply, Stage.step]
          cases found : s.cache.take mode with
          | mk palette cache =>
              rw [found] at taken
              cases palette with
              | none => rfl
              | some p => exact taken
      | missed => rfl
      | claimed index => rfl
      | waiting index => rfl
      | settled reply =>
          cases reply with
          | error e => rfl
          | ok batch => exact s.held_refill_other batch ne
      | refilled => exact s.cache.held_take_other ne
      | done outcome => cases outcome <;> rfl

end Action

/-! ## One call -/

namespace Call

/-- The palettes that a call has returned for a mode. -/
def returned (mode : Mode) (c : Call) : Multiset Palette :=
  if c.mode = mode then c.stage.elim 0 Stage.returned else 0

/-- The palettes that a call has put into the cache for a mode. -/
def delivered (mode : Mode) (c : Call) : Multiset Palette :=
  if c.mode = mode then (c.filled : Multiset Palette) else 0

theorem act_conserves (action : Action) (c : Call) (s : Supply) (mode : Mode) :
    (c.act action s).1.returned mode + (c.act action s).2.cache.held mode + c.delivered mode =
      c.returned mode + s.cache.held mode + (c.act action s).1.delivered mode := by
  unfold act
  cases reached : c.stage with
  | none => rfl
  | some stage =>
      by_cases same : c.mode = mode
      · have conserved := action.conserves c.mode stage s
        subst same
        simp only [returned, delivered, if_true, reached, Option.elim_some, ← Multiset.coe_add]
        rw [conserved, add_assoc]
      · have kept := action.held_other stage s (Ne.symm same)
        simp only [returned, delivered, same, if_false, kept]

end Call

/-! ## All calls -/

namespace Pool

/-- The palettes that have been returned for a mode. -/
def returned (mode : Mode) (p : Pool) : Multiset Palette :=
  p.total (Call.returned mode)

/-- The palettes that filled batches have put into the cache for a mode. -/
def delivered (mode : Mode) (p : Pool) : Multiset Palette :=
  p.total (Call.delivered mode)

/-- A call that keeps the law for itself keeps it for the pool. -/
theorem put_conserves {p : Pool} {place : Nat} {c : Call} {changed : Call × Supply}
    (there : p.calls[place]? = some c) (mode : Mode)
    (conserved : changed.1.returned mode + changed.2.cache.held mode + c.delivered mode =
      c.returned mode + p.cache.held mode + changed.1.delivered mode) :
    (p.put place changed).returned mode + (p.put place changed).cache.held mode +
        p.delivered mode =
      p.returned mode + p.cache.held mode + (p.put place changed).delivered mode := by
  have returned : (p.put place changed).returned mode + c.returned mode =
      p.returned mode + changed.1.returned mode := total_put (Call.returned mode) there changed
  have delivered : (p.put place changed).delivered mode + c.delivered mode =
      p.delivered mode + changed.1.delivered mode := total_put (Call.delivered mode) there changed
  have after : (p.put place changed).cache = changed.2.cache := rfl
  rw [after]
  -- what the one call had returned and delivered stands on both sides
  refine add_right_cancel (b := c.returned mode + changed.1.delivered mode) ?_
  calc (p.put place changed).returned mode + changed.2.cache.held mode + p.delivered mode +
        (c.returned mode + changed.1.delivered mode)
      = ((p.put place changed).returned mode + c.returned mode) + changed.2.cache.held mode +
          (p.delivered mode + changed.1.delivered mode) := by abel
    _ = (p.returned mode + changed.1.returned mode) + changed.2.cache.held mode +
          ((p.put place changed).delivered mode + c.delivered mode) := by rw [returned, delivered]
    _ = p.returned mode + (changed.1.returned mode + changed.2.cache.held mode +
          c.delivered mode) + (p.put place changed).delivered mode := by abel
    _ = p.returned mode + (c.returned mode + p.cache.held mode + changed.1.delivered mode) +
          (p.put place changed).delivered mode := by rw [conserved]
    _ = p.returned mode + p.cache.held mode + (p.put place changed).delivered mode +
          (c.returned mode + changed.1.delivered mode) := by abel

theorem step_conserves (p : Pool) (event : Event) (mode : Mode) :
    (p.step event).returned mode + (p.step event).cache.held mode + p.delivered mode =
      p.returned mode + p.cache.held mode + (p.step event).delivered mode := by
  cases event with
  | call fetcher called =>
      have returned : (p.step (.call fetcher called)).returned mode = p.returned mode := by
        rw [Pool.returned, total_call, Call.returned]
        split <;> exact add_zero _
      have delivered : (p.step (.call fetcher called)).delivered mode = p.delivered mode := by
        rw [Pool.delivered, total_call, Call.delivered]
        split <;> exact add_zero _
      rw [returned, delivered]
      rfl
  | act place action words =>
      cases there : p.calls[place]? with
      | none => rw [step_nobody there]
      | some c =>
          rw [step_act there]
          exact put_conserves there mode (c.act_conserves action (p.supply c.fetcher words) mode)

theorem run_conserves (mode : Mode) : ∀ (events : List Event) (p : Pool),
    (p.run events).returned mode + (p.run events).cache.held mode + p.delivered mode =
      p.returned mode + p.cache.held mode + (p.run events).delivered mode
  | [], _ => rfl
  | event :: events, p => by
      have first := p.step_conserves event mode
      have rest := run_conserves mode events (p.step event)
      have same : (p.step event).run events = p.run (event :: events) := rfl
      rw [same] at rest
      refine add_right_cancel (b := (p.step event).delivered mode) ?_
      calc (p.run (event :: events)).returned mode + (p.run (event :: events)).cache.held mode +
            p.delivered mode + (p.step event).delivered mode
          = ((p.run (event :: events)).returned mode +
              (p.run (event :: events)).cache.held mode + (p.step event).delivered mode) +
              p.delivered mode := by abel
        _ = ((p.step event).returned mode + (p.step event).cache.held mode +
              (p.run (event :: events)).delivered mode) + p.delivered mode := by rw [rest]
        _ = ((p.step event).returned mode + (p.step event).cache.held mode + p.delivered mode) +
              (p.run (event :: events)).delivered mode := by abel
        _ = (p.returned mode + p.cache.held mode + (p.step event).delivered mode) +
              (p.run (event :: events)).delivered mode := by rw [first]
        _ = p.returned mode + p.cache.held mode + (p.run (event :: events)).delivered mode +
              (p.step event).delivered mode := by abel

/-- **However calls overlap, the palettes returned for a mode and those still in the cache
are the ones that were in the cache at first and those of the batches filled since.** -/
theorem returned_add_held (cache : PaletteCache) (fetchers : Nat → Fetcher) (events : List Event)
    (mode : Mode) :
    ((quiet cache fetchers).run events).returned mode +
        ((quiet cache fetchers).run events).cache.held mode =
      cache.held mode + ((quiet cache fetchers).run events).delivered mode := by
  have conserved := run_conserves mode events (quiet cache fetchers)
  have returned : (quiet cache fetchers).returned mode = 0 := total_quiet _ cache fetchers
  have delivered : (quiet cache fetchers).delivered mode = 0 := total_quiet _ cache fetchers
  rw [returned, delivered, add_zero, zero_add] at conserved
  exact conserved

end Pool

end ThemeEditor
