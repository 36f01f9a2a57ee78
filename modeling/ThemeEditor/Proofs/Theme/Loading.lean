/-
# ThemeEditor.Proofs.Theme.Loading -- what the loading sign shows

The sign for a mode is put up when a request starts and taken down when one ends,
whichever it is.  So it shows whether the number of requests under way rose or
fell when it last changed (`Pool.step_follows`, `Pool.run_follows`): a sign that
is up is right, and one that is down is wrong exactly when a request ended after
the latest one started and others are still under way (`Pool.isLoading_iff`).
Two overlapping requests are enough for that (`Pool.sign_down_too_early`).
-/
import ThemeEditor.Proofs.Theme.Pool

namespace ThemeEditor

set_option autoImplicit false

open ThemeEditor.Random (WordSource)

/-- A sign that is up after a number rose and down after it fell. -/
def follow (before after : Nat) (sign : Bool) : Bool :=
  if before < after then true else if after < before then false else sign

theorem follow_same (n : Nat) (sign : Bool) : follow n n sign = sign := by
  simp [follow]

/-- What a sign follows may be counted with or without what does not change. -/
theorem follow_congr {before after before' after' : Nat} (sign : Bool)
    (balanced : after + before' = before + after') :
    follow before after sign = follow before' after' sign := by
  have rose : before < after ↔ before' < after' := by omega
  have fell : after < before ↔ after' < before' := by omega
  simp only [follow, rose, fell]

theorem pos_of_follow {before after : Nat} {sign : Bool} (right : sign = true → 0 < before)
    (up : follow before after sign = true) : 0 < after := by
  unfold follow at up
  split at up
  · omega
  · split at up
    · cases up
    · have pos := right up
      omega

theorem Fetcher.isLoading_setLoading (f : Fetcher) (mode other : Mode) (on : Bool) :
    (f.setLoading mode on).isLoading other = if other = mode then on else f.isLoading other :=
  PerMode.get_set f.loading mode other on

/-! ## One action -/

/-- The requests that a call has under way: one while it waits. -/
def Stage.waits : Stage → Nat
  | waiting _ => 1
  | _ => 0

/-- An action puts the sign of its mode up or down with the request it starts or ends, and
leaves the sign of the other mode as it is. -/
theorem Action.isLoading_apply (action : Action) (mode other : Mode) (stage : Stage) (s : Supply) :
    (action.apply mode stage s).2.fetcher.isLoading other =
      if other = mode then
        follow stage.waits ((action.apply mode stage s).1.elim 0 Stage.waits)
          (s.fetcher.isLoading other)
      else s.fetcher.isLoading other := by
  have idle : ∀ n, s.fetcher.isLoading other =
      if other = mode then follow n n (s.fetcher.isLoading other)
      else s.fetcher.isLoading other := by
    intro n
    rw [follow_same, ite_self]
  cases action with
  | settle reply =>
      cases stage with
      | waiting index => exact Fetcher.isLoading_setLoading _ mode other false
      | _ => exact idle 0
  | drop =>
      cases stage with
      | waiting index => exact Fetcher.isLoading_setLoading _ mode other false
      | _ => exact idle 0
  | step =>
      cases stage with
      | looking =>
          simp only [apply, Stage.step]
          split
          · exact idle 0
          · exact idle 0
      | claimed index => exact Fetcher.isLoading_setLoading _ mode other true
      | waiting index => exact idle 1
      | settled reply => cases reply <;> exact idle 0
      | _ => exact idle 0

/-! ## One call -/

namespace Call

/-- The requests of a fetcher for a mode that a call has under way. -/
def requests (fetcher : Nat) (mode : Mode) (c : Call) : Nat :=
  if c.fetcher = fetcher ∧ c.mode = mode then c.stage.elim 0 Stage.waits else 0

theorem requests_new (fetcher called : Nat) (mode asked : Mode) :
    (new called asked).requests fetcher mode = 0 := by
  unfold requests
  split <;> rfl

theorem act_follows (action : Action) (c : Call) (s : Supply) (mode : Mode) :
    (c.act action s).2.fetcher.isLoading mode =
      follow (c.requests c.fetcher mode) ((c.act action s).1.requests c.fetcher mode)
        (s.fetcher.isLoading mode) := by
  unfold act
  cases reached : c.stage with
  | none => exact (follow_same _ _).symm
  | some stage =>
      have shown := action.isLoading_apply c.mode mode stage s
      by_cases same : c.mode = mode
      · simpa [requests, reached, same] using shown
      · simpa [requests, same, Ne.symm same, follow_same] using shown

end Call

/-! ## All calls -/

namespace Pool

/-- Whether a fetcher shows a mode as loading. -/
def isLoading (fetcher : Nat) (mode : Mode) (p : Pool) : Bool :=
  (p.fetchers fetcher).isLoading mode

/-- The number of requests of a fetcher for a mode that are under way. -/
def underWay (fetcher : Nat) (mode : Mode) (p : Pool) : Nat :=
  p.total (Call.requests fetcher mode)

variable (fetcher : Nat) (mode : Mode)

theorem step_follows (p : Pool) (event : Event) :
    (p.step event).isLoading fetcher mode =
      follow (p.underWay fetcher mode) ((p.step event).underWay fetcher mode)
        (p.isLoading fetcher mode) := by
  cases event with
  | call called asked =>
      rw [underWay, underWay, total_call, Call.requests_new, Nat.add_zero, follow_same]
      rfl
  | act place action words =>
      cases there : p.calls[place]? with
      | none => rw [step_nobody there, follow_same]
      | some c =>
          rw [step_act there]
          have followed := c.act_follows action (p.supply c.fetcher words) mode
          have called := c.act_fetcher action (p.supply c.fetcher words)
          generalize c.act action (p.supply c.fetcher words) = changed at followed called
          have balanced : (p.put place changed).underWay fetcher mode + c.requests fetcher mode =
              p.underWay fetcher mode + changed.1.requests fetcher mode :=
            total_put (Call.requests fetcher mode) there changed
          rw [follow_congr _ balanced]
          by_cases same : fetcher = c.fetcher
          · subst same
            have shown : (p.put place changed).isLoading c.fetcher mode =
                changed.2.fetcher.isLoading mode := by simp [isLoading, put, called]
            rw [shown, followed]
            rfl
          · have shown : (p.put place changed).isLoading fetcher mode =
                p.isLoading fetcher mode := by simp [isLoading, put, called, same]
            have idle : c.requests fetcher mode = 0 := by simp [Call.requests, Ne.symm same]
            have idle' : changed.1.requests fetcher mode = 0 := by
              simp [Call.requests, called, Ne.symm same]
            rw [shown, idle, idle', follow_same]

/-- Whether the number of requests under way rose when it last changed; `rose` says so of the
time before the run. -/
def lastRose (rose : Bool) : Pool → List Event → Bool
  | _, [] => rose
  | p, event :: events =>
      lastRose
        (follow (p.underWay fetcher mode) ((p.step event).underWay fetcher mode) rose)
        (p.step event) events

theorem run_follows : ∀ (events : List Event) (p : Pool),
    (p.run events).isLoading fetcher mode =
      lastRose fetcher mode (p.isLoading fetcher mode) p events
  | [], _ => rfl
  | event :: events, p => by
      rw [lastRose, ← step_follows]
      exact run_follows events (p.step event)

/-- A sign that is up is right. -/
theorem run_isLoading : ∀ (events : List Event) (p : Pool),
    (p.isLoading fetcher mode = true → 0 < p.underWay fetcher mode) →
      (p.run events).isLoading fetcher mode = true → 0 < (p.run events).underWay fetcher mode
  | [], _, right => right
  | event :: events, p, right => by
      refine run_isLoading events (p.step event) fun up => ?_
      rw [step_follows] at up
      exact pos_of_follow right up

theorem isLoading_withFileCount (count : UInt8) :
    (Fetcher.new.withFileCount count).isLoading mode = false := by
  cases mode <;> rfl

/-- **The loading sign is up exactly when the number of requests under way last rose, so it
tells whether there are any unless one ended after the latest start and others remain.** -/
theorem isLoading_iff (cache : PaletteCache) (counts : Nat → UInt8) (events : List Event) :
    let start := quiet cache fun f => Fetcher.new.withFileCount (counts f)
    let now := start.run events
    let rose := lastRose fetcher mode false start events
    (now.isLoading fetcher mode = true ↔ rose = true) ∧
      (now.isLoading fetcher mode = true → 0 < now.underWay fetcher mode) ∧
      ((now.isLoading fetcher mode = true ↔ 0 < now.underWay fetcher mode) ↔
        (now.underWay fetcher mode = 0 ∨ rose = true)) := by
  intro start now rose
  have down : start.isLoading fetcher mode = false := isLoading_withFileCount mode _
  have shows : now.isLoading fetcher mode = rose := by
    have followed := run_follows fetcher mode events start
    rw [down] at followed
    exact followed
  have right : now.isLoading fetcher mode = true → 0 < now.underWay fetcher mode := by
    refine run_isLoading fetcher mode events start fun up => ?_
    rw [down] at up
    cases up
  rw [shows] at right ⊢
  refine ⟨Iff.rfl, right, ?_⟩
  constructor
  · intro truthful
    rcases Nat.eq_zero_or_pos (now.underWay fetcher mode) with none | some
    · exact .inl none
    · exact .inr (truthful.2 some)
  · rintro (none | up)
    · exact ⟨right, fun some => absurd none (Nat.ne_of_gt some)⟩
    · exact ⟨right, fun _ => up⟩

/-- Two calls send their requests, and the answer to the first one comes. -/
def overlapping : List Event :=
  let words : WordSource := ⟨fun _ => 0, 0⟩
  [.call 0 .light, .call 0 .light,
    .act 0 .step words, .act 0 .step words, .act 0 .step words,
    .act 1 .step words, .act 1 .step words, .act 1 .step words,
    .act 0 (.settle (.ok ⟨[[⟨"#000"⟩, ⟨"#fff"⟩, ⟨"#111"⟩]]⟩)) words]

/-- **The sign is taken down while a request is still under way.** -/
theorem sign_down_too_early :
    let now := (quiet .empty fun _ => Fetcher.new.withFileCount 3).run overlapping
    now.isLoading 0 .light = false ∧ now.underWay 0 .light = 1 ∧
      ¬ (now.isLoading 0 .light = true ↔ 0 < now.underWay 0 .light) := by
  decide

end Pool

end ThemeEditor
