/-
# ThemeEditor.Proofs.Theme.Blocks -- each batch is served before the next request

One caller makes one call after the other, for either mode, from an empty cache.  What
the service answers and what is drawn is open, and may differ from call to call
(`Visit`).

For each mode, the palettes returned are those of the batches that came, batch by
batch, each in an order of its own: what is missing of the last one waits in the cache
(`Served`).  A palette that is taken moves from the cache to those returned
(`Served.take`), and a batch comes only when all before it are used up
(`Served.refill`).  So the calls that ask for a file are those that find everything
delivered returned (`Supply.served_in_blocks`).
-/
import Mathlib.Data.List.Perm.Basic
import ThemeEditor.Proofs.Theme.Alone

namespace ThemeEditor

set_option autoImplicit false

open ThemeEditor.Random (WordSource)

/-! ## Blocks -/

/-- What was returned and what is held are the batches, each in some order and one after the
other, and only of the last one is something held. -/
def Served (batches : List (List Palette)) (returned held : List Palette) : Prop :=
  ∃ blocks, List.Forall₂ List.Perm blocks batches ∧ blocks.flatten = returned ++ held ∧
    blocks.dropLast.flatten <+: returned

namespace Served

variable {batches : List (List Palette)} {returned held : List Palette}

theorem nothing : Served [] [] [] :=
  ⟨[], .nil, rfl, List.prefix_rfl⟩

/-- The palette on top is returned. -/
theorem take {p : Palette} (served : Served batches returned (p :: held)) :
    Served batches (returned ++ [p]) held := by
  obtain ⟨blocks, orders, all, before⟩ := served
  refine ⟨blocks, orders, ?_, before.trans (List.prefix_append _ _)⟩
  rw [all, List.append_assoc, List.singleton_append]

/-- When nothing is held, another batch may come. -/
theorem refill {batch stack : List Palette} (served : Served batches returned [])
    (stacked : stack.Perm batch) : Served (batches ++ [batch]) returned stack := by
  obtain ⟨blocks, orders, all, -⟩ := served
  rw [List.append_nil] at all
  refine ⟨blocks ++ [stack], List.rel_append orders (.cons stacked .nil), ?_, ?_⟩
  · rw [List.flatten_append, all, List.flatten_singleton]
  · rw [List.dropLast_concat, all]

/-- Counted with multiplicity, what was returned and what is held are the batches. -/
theorem perm (served : Served batches returned held) :
    (returned ++ held).Perm batches.flatten := by
  obtain ⟨blocks, orders, all, -⟩ := served
  rw [← all]
  exact List.Perm.flatten_congr orders

/-- Everything delivered is returned exactly when nothing is held. -/
theorem held_eq_nil_iff (served : Served batches returned held) :
    held = [] ↔ returned.Perm batches.flatten := by
  constructor
  · rintro rfl
    have perm := served.perm
    rwa [List.append_nil] at perm
  · intro usedUp
    have lengths := served.perm.length_eq.trans usedUp.length_eq.symm
    rw [List.length_append] at lengths
    exact List.length_eq_zero_iff.1 (by omega)

end Served

/-! ## One call -/

/-- What a call for a mode returns: a palette where it makes no request, and else what the answer
says: a failure, nothing, or a palette that came. -/
def Answers (ask : Mode → UInt8 → Answer) (mode : Mode) (request : Option Request)
    (outcome : Outcome) : Prop :=
  match request with
  | none => ∃ p, outcome = .ok (some p)
  | some r =>
      r.mode = mode ∧
        match (ask r.mode r.index).reply with
        | .error e => outcome = .error e
        | .ok batch =>
            if Batch.usable batch.palettes = [] then outcome = .ok none
            else ∃ p ∈ Batch.usable batch.palettes, outcome = .ok (some p)

namespace Supply.Fetches

variable {ask : Mode → UInt8 → Answer} {mode : Mode} {s after : Supply} {outcome : Outcome}
  {request : Option Request}

/-- A call asks for a file exactly when it finds no palette. -/
theorem isSome_request_iff (did : Fetches ask mode s outcome request after) :
    request.isSome ↔ s.cache.get mode = [] := by
  cases did with
  | hit held => simp [held]
  | fails empty failed => simp [empty]
  | fills empty answered stacked => simp [empty]

theorem answers (did : Fetches ask mode s outcome request after) :
    Answers ask mode request outcome := by
  cases did with
  | hit held => exact ⟨_, rfl⟩
  | fails empty failed => simp only [Answers, failed, true_and]
  | @fills batch stack words empty answered stacked =>
      simp only [Answers, answered, true_and]
      cases stack with
      | nil => rw [if_pos stacked.nil_eq.symm]; rfl
      | cons p rest =>
          have among : p ∈ Batch.usable batch.palettes := stacked.subset List.mem_cons_self
          rw [if_neg (List.ne_nil_of_mem among)]
          exact ⟨p, among, rfl⟩

end Supply.Fetches

/-- A call for a mode: how the service would answer, and what is drawn. -/
structure Visit where
  mode : Mode
  ask : Mode → UInt8 → Answer
  words : WordSource

/-- A call and what it did. -/
structure Visited extends Visit where
  did : Fetched

namespace Visited

/-- The palette that a call for a mode returned. -/
def palette? (mode : Mode) (c : Visited) : Option Palette :=
  match c.did.outcome with
  | .ok (some p) => if c.mode = mode then some p else none
  | _ => none

/-- The usable palettes that a request for a mode brought, if there were any. -/
def batch? (mode : Mode) (c : Visited) : Option (List Palette) :=
  match c.did.request with
  | none => none
  | some r =>
      match (c.ask r.mode r.index).reply with
      | .error _ => none
      | .ok batch =>
          if r.mode = mode ∧ Batch.usable batch.palettes ≠ [] then
            some (Batch.usable batch.palettes)
          else none

theorem palette?_of_ne {mode : Mode} {c : Visited} (other : c.mode ≠ mode) :
    c.palette? mode = none := by
  unfold palette?
  split
  · exact if_neg other
  · rfl

end Visited

namespace Supply

/-- What a call does while nobody else uses the supply. -/
def visit (s : Supply) (v : Visit) : Visited :=
  ⟨v, { s with words := v.words }.fetch v.ask v.mode⟩

/-- A call returns what its batch or an earlier one brought, and leaves the rest. -/
theorem served_visit {batches : List (List Palette)} {returned : List Palette} {mode : Mode}
    {s : Supply} (sofar : Served batches returned (s.cache.get mode)) (v : Visit) :
    Served (batches ++ ((s.visit v).batch? mode).toList)
      (returned ++ ((s.visit v).palette? mode).toList)
      ((s.visit v).did.supply.cache.get mode) := by
  have did := fetches { s with words := v.words } v.ask v.mode
  unfold visit
  generalize { s with words := v.words }.fetch v.ask v.mode = fetched at did ⊢
  obtain ⟨outcome, after, request, log⟩ := fetched
  cases did with
  | @hit p rest held =>
      by_cases same : v.mode = mode
      · subst same
        change s.cache.get v.mode = p :: rest at held
        rw [held] at sofar
        simpa [Visited.batch?, Visited.palette?, PerMode.get_set] using sofar.take
      · rw [Visited.palette?_of_ne same]
        simpa [Visited.batch?, PerMode.get_set, Ne.symm same] using sofar
  | fails empty failed =>
      simpa [Visited.batch?, Visited.palette?, failed] using sofar
  | @fills batch stack words empty answered stacked =>
      by_cases same : v.mode = mode
      · subst same
        change s.cache.get v.mode = [] at empty
        rw [empty] at sofar
        -- the top of what came is returned at once
        cases stack with
        | nil =>
            have nothing := stacked.nil_eq.symm
            simpa [Visited.batch?, Visited.palette?, PerMode.get_set, answered, nothing] using sofar
        | cons p rest =>
            have some : Batch.usable batch.palettes ≠ [] :=
              List.ne_nil_of_mem (stacked.subset List.mem_cons_self)
            simpa [Visited.batch?, Visited.palette?, PerMode.get_set, answered, some] using
              (sofar.refill stacked).take
      · rw [Visited.palette?_of_ne same]
        simpa [Visited.batch?, PerMode.get_set, answered, same, Ne.symm same] using sofar

/-! ## Call after call -/

/-- The supply after some calls. -/
def serve (s : Supply) (visits : List Visit) : Supply :=
  visits.foldl (fun s v => (s.visit v).did.supply) s

/-- What some calls do. -/
def calls : Supply → List Visit → List Visited
  | _, [] => []
  | s, v :: visits => s.visit v :: calls (s.visit v).did.supply visits

theorem serve_snoc (s : Supply) (visits : List Visit) (v : Visit) :
    s.serve (visits ++ [v]) = ((s.serve visits).visit v).did.supply := by
  simp only [serve, List.foldl_append, List.foldl_cons, List.foldl_nil]

theorem calls_snoc (s : Supply) (visits : List Visit) (v : Visit) :
    s.calls (visits ++ [v]) = s.calls visits ++ [(s.serve visits).visit v] := by
  induction visits generalizing s with
  | nil => rfl
  | cons first rest ih =>
      simp only [List.cons_append, calls, ih]
      rfl

/-- Along a run, what is returned and what is held are the batches that came. -/
theorem served_calls {mode : Mode} {s : Supply} (empty : s.cache.get mode = [])
    (visits : List Visit) :
    Served ((s.calls visits).filterMap (Visited.batch? mode))
      ((s.calls visits).filterMap (Visited.palette? mode))
      ((s.serve visits).cache.get mode) := by
  induction visits using List.reverseRecOn with
  | nil => exact empty ▸ .nothing
  | append_singleton visits v ih =>
      simp only [calls_snoc, serve_snoc, List.filterMap_eq_flatMap_toList, List.flatMap_append,
        List.flatMap_singleton] at ih ⊢
      exact served_visit ih v

/-- **Each batch is served before the next request: for either mode, the palettes returned are
those of the batches, batch by batch, and a call asks for a file exactly when they are used
up.** -/
theorem served_in_blocks (fetcher : Fetcher) (words : WordSource) (visits : List Visit)
    (mode : Mode) :
    let start : Supply := ⟨.empty, fetcher, words⟩
    let now := start.serve visits
    let batches := (start.calls visits).filterMap (Visited.batch? mode)
    let returned := (start.calls visits).filterMap (Visited.palette? mode)
    (∃ blocks, List.Forall₂ List.Perm blocks batches ∧
        blocks.flatten = returned ++ now.cache.get mode ∧ blocks.dropLast.flatten <+: returned) ∧
      ∀ (ask : Mode → UInt8 → Answer) (words : WordSource),
        let next := (now.visit ⟨mode, ask, words⟩).did
        (next.request.isSome ↔ returned.Perm batches.flatten) ∧
          Answers ask mode next.request next.outcome := by
  intro start now batches returned
  have empty : start.cache.get mode = [] := by cases mode <;> rfl
  have served : Served batches returned (now.cache.get mode) := served_calls empty visits
  refine ⟨served, fun ask words => ?_⟩
  have did := fetches { now with words } ask mode
  exact ⟨did.isSome_request_iff.trans served.held_eq_nil_iff, did.answers⟩

/-- Of two usable palettes, the second is served without a request. -/
example :
    let words : WordSource := ⟨fun _ => 0, 0⟩
    let batch : Batch := ⟨[[⟨"#000"⟩, ⟨"#fff"⟩], [], [⟨"#111"⟩]]⟩
    let light : Visit := ⟨.light, fun _ _ => ⟨.ok batch, []⟩, words⟩
    let start : Supply := ⟨.empty, .new, words⟩
    (start.calls [light, light, light]).map (fun c => c.did.request.isSome) =
      [true, false, true] := by
  decide +kernel

end Supply

end ThemeEditor
