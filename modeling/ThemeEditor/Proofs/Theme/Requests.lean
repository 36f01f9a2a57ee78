/-
# ThemeEditor.Proofs.Theme.Requests -- which files overlapping calls ask for

A call that finds no palette claims a theme file and then sends its request, which
asks for that file (`Stage.Moves`).  `Pool.begun` lists what the calls of a fetcher
began in a run, in order: seen from the claim (`Stage.holds`) or from the request that
is sent (`Stage.asks`).

However calls overlap, the files are claimed in rotation, and nothing but a claim
moves the rotation on (`Pool.run_claims`).  What was claimed is what was sent and what
is about to be (`Pool.sent_add_pending`).  Where calls take turns only while they wait
(`Pool.Cooperative`), requests are also sent in the order of the claims
(`Pool.claimed_eq_sent_append`).

`Pool.requests_in_rotation` says so of the fetcher of a configuration, and that every
fetcher stays within the files that there are, also where other numbers of files are
set meanwhile (`Pool.inRange_changes`).
-/
import Mathlib.Algebra.Order.Group.Multiset
import ThemeEditor.Proofs.Config.Limits
import ThemeEditor.Proofs.Theme.Pool
import ThemeEditor.Proofs.Theme.Rotation

namespace ThemeEditor

set_option autoImplicit false

open ThemeEditor.Random (WordSource)

/-! ## One call -/

namespace Stage

/-- The file that a call has claimed, until it has its answer. -/
def holds : Stage → Option UInt8
  | claimed index | waiting index => some index
  | _ => none

/-- The file that the request of a call asks for, while it is under way. -/
def asks : Stage → Option UInt8
  | waiting index => some index
  | _ => none

/-- The file that a call is about to ask for. -/
def pending : Stage → Multiset UInt8
  | claimed index => {index}
  | _ => 0

/-- The file that a call shows after it showed none. -/
def begins (view : Stage → Option UInt8) (before after : Option Stage) : Option UInt8 :=
  match before.bind view with
  | some _ => none
  | none => after.bind view

theorem begins_self (view : Stage → Option UInt8) (stage : Option Stage) :
    begins view stage stage = none := by
  unfold begins
  split
  · rfl
  · next shown => exact shown

/-- Whether a call is running: it does not wait, and has more to do. -/
def isRunning : Stage → Bool
  | missed | claimed _ | settled _ | refilled => true
  | _ => false

/-- A call without a file asks for none and is not about to. -/
theorem free_of_holds {stage : Option Stage} (free : stage.bind holds = none) :
    stage.bind asks = none ∧ stage.elim 0 pending = 0 := by
  cases stage with
  | none => exact ⟨rfl, rfl⟩
  | some stage =>
      cases stage with
      | claimed index | waiting index => cases free
      | _ => exact ⟨rfl, rfl⟩

/-- What an action can do to a call and its fetcher, as far as the rotation goes. -/
inductive Moves (mode : Mode) (f : Fetcher) : Option Stage → Option Stage → Fetcher → Prop where
  /-- The call claims the next file. -/
  | claims : Moves mode f (some missed) (some (claimed f.nextIndex)) f.claim.2
  /-- It sends the request for the file that it claimed. -/
  | sends (index : UInt8) :
      Moves mode f (some (claimed index)) (some (waiting index)) (f.setLoading mode true)
  /-- Its request is answered or given up. -/
  | ends (index : UInt8) {after : Option Stage} (free : after.bind holds = none) :
      Moves mode f (some (waiting index)) after (f.setLoading mode false)
  /-- It goes on without a file. -/
  | passes {before after : Option Stage} (free : before.bind holds = none)
      (free' : after.bind holds = none) : Moves mode f before after f
  | stays (stage : Option Stage) : Moves mode f stage stage f

namespace Moves

variable {mode : Mode} {f g : Fetcher} {before after : Option Stage}

/-- A call that claims a file moves the rotation on, and nothing else does. -/
theorem claims_cases (moves : Moves mode f before after g) :
    (begins holds before after = some f.nextIndex ∧ g = f.claim.2) ∨
      (begins holds before after = none ∧ g.nextIndex = f.nextIndex ∧
        g.fileCount = f.fileCount) := by
  cases moves with
  | claims => exact .inl ⟨rfl, rfl⟩
  | sends index => exact .inr ⟨rfl, rfl, rfl⟩
  | ends index free => exact .inr ⟨rfl, rfl, rfl⟩
  | passes free free' =>
      have nothing : begins holds before after = none := by
        rw [begins, free]
        exact free'
      exact .inr ⟨nothing, rfl, rfl⟩
  | stays => exact .inr ⟨begins_self holds before, rfl, rfl⟩

/-- What a call claims it is about to ask for, until it does. -/
theorem pending_add (moves : Moves mode f before after g) :
    ((begins asks before after).toList : Multiset UInt8) + after.elim 0 pending =
      ((begins holds before after).toList : Multiset UInt8) + before.elim 0 pending := by
  cases moves with
  | claims => rfl
  | sends index => rfl
  | ends index free =>
      obtain ⟨-, idle⟩ := free_of_holds free
      rw [idle]
      rfl
  | passes free free' =>
      obtain ⟨silent, idle⟩ := free_of_holds free
      obtain ⟨silent', idle'⟩ := free_of_holds free'
      rw [begins, begins, silent, free, silent', free', idle, idle']
  | stays => rw [begins_self, begins_self]

theorem inRange (moves : Moves mode f before after g) (inRange : f.InRange) : g.InRange := by
  cases moves with
  | claims => exact inRange.claim
  | sends index => exact ⟨inRange.first, inRange.last, inRange.most⟩
  | ends index free => exact ⟨inRange.first, inRange.last, inRange.most⟩
  | passes free free' => exact inRange
  | stays => exact inRange

end Moves

end Stage

/-- An action moves a call. -/
theorem Action.moves (action : Action) (mode : Mode) (stage : Stage) (s : Supply) :
    Stage.Moves mode s.fetcher (some stage) (action.apply mode stage s).1
      (action.apply mode stage s).2.fetcher := by
  cases action with
  | settle reply =>
      cases stage with
      | waiting index => exact .ends index rfl
      | _ => exact .stays _
  | drop =>
      cases stage with
      | waiting index => exact .ends index rfl
      | looking => exact .passes rfl rfl
      | _ => exact .stays _
  | step =>
      cases stage with
      | looking =>
          simp only [apply, Stage.step]
          split
          · exact .passes rfl rfl
          · exact .passes rfl rfl
      | missed => exact .claims
      | claimed index => exact .sends index
      | waiting index => exact .stays _
      | settled reply =>
          cases reply with
          | error e => exact .passes rfl rfl
          | ok batch => exact .passes rfl rfl
      | refilled => exact .passes rfl rfl
      | done outcome => exact .stays _

theorem Call.act_moves (action : Action) (c : Call) (s : Supply) :
    Stage.Moves c.mode s.fetcher c.stage (c.act action s).1.stage
      (c.act action s).2.fetcher := by
  unfold act
  split
  · exact .stays c.stage
  · next stage reached =>
    rw [reached]
    exact action.moves c.mode stage s

namespace Call

/-- The file that a call of a fetcher is about to ask for. -/
def pending (fetcher : Nat) (c : Call) : Multiset UInt8 :=
  if c.fetcher = fetcher then c.stage.elim 0 Stage.pending else 0

theorem pending_new (fetcher called : Nat) (mode : Mode) :
    (new called mode).pending fetcher = 0 := by
  unfold pending
  split <;> rfl

/-- A call that is about to ask for a file has claimed it. -/
theorem claimed_of_pending {fetcher : Nat} {c : Call} (owed : c.pending fetcher ≠ 0) :
    c.fetcher = fetcher ∧ ∃ index, c.stage = some (.claimed index) := by
  unfold pending at owed
  split at owed
  · next own =>
    refine ⟨own, ?_⟩
    cases reached : c.stage with
    | none => simp [reached] at owed
    | some stage =>
        cases stage with
        | claimed index => exact ⟨index, rfl⟩
        | _ => simp [reached, Stage.pending] at owed
  · exact absurd rfl owed

end Call

/-! ## One event -/

/-- The call that an event lets go on. -/
def Event.stepped? : Event → Option Nat
  | act place .step _ => some place
  | _ => none

namespace Pool

variable (fetcher : Nat)

/-- The file that a call of a fetcher shows after an event and did not show before. -/
def begins (view : Stage → Option UInt8) (p : Pool) : Event → Option UInt8
  | .call _ _ => none
  | .act place action words =>
      match p.calls[place]? with
      | none => none
      | some c =>
          if c.fetcher = fetcher then
            Stage.begins view c.stage (c.act action (p.supply c.fetcher words)).1.stage
          else none

/-- The files that calls of a fetcher are about to ask for. -/
def pending (p : Pool) : Multiset UInt8 :=
  p.total (Call.pending fetcher)

/-- What an event does to the calls of a fetcher: one of them moves from a stage to another. -/
structure Moved (p : Pool) (event : Event) (before after : Option Stage) : Prop where
  moves : ∃ mode,
    Stage.Moves mode (p.fetchers fetcher) before after ((p.step event).fetchers fetcher)
  begun : ∀ view, p.begins fetcher view event = Stage.begins view before after
  balanced : (p.step event).pending fetcher + before.elim 0 Stage.pending =
    p.pending fetcher + after.elim 0 Stage.pending

variable {fetcher} {p : Pool} {event : Event}

/-- If no call moves, it is as if one that was dropped did. -/
theorem moved_nothing (same : (p.step event).fetchers fetcher = p.fetchers fetcher)
    (balanced : (p.step event).pending fetcher = p.pending fetcher)
    (nothing : ∀ view, p.begins fetcher view event = none) :
    Moved fetcher p event none none where
  moves := ⟨.light, same.symm ▸ .stays none⟩
  begun view := (nothing view).trans (Stage.begins_self view none).symm
  balanced := congrArg (· + 0) balanced

theorem exists_moved (fetcher : Nat) (p : Pool) (event : Event) :
    ∃ before after, Moved fetcher p event before after := by
  cases event with
  | call called mode =>
      refine ⟨none, none, moved_nothing rfl ?_ fun view => rfl⟩
      rw [pending, total_call, Call.pending_new, add_zero]
      rfl
  | act place action words =>
      cases there : p.calls[place]? with
      | none =>
          have after := step_nobody there action words
          refine ⟨none, none, moved_nothing ?_ ?_ fun view => ?_⟩
          · rw [after]
          · rw [after]
          · simp only [begins, there]
      | some c =>
          have after := step_act there action words
          have moves : Stage.Moves c.mode (p.fetchers c.fetcher) c.stage _ _ :=
            c.act_moves action (p.supply c.fetcher words)
          have called := c.act_fetcher action (p.supply c.fetcher words)
          have balanced := total_put (Call.pending fetcher) there
            (c.act action (p.supply c.fetcher words))
          by_cases own : c.fetcher = fetcher
          · subst own
            refine ⟨c.stage, (c.act action (p.supply c.fetcher words)).1.stage,
              ⟨c.mode, ?_⟩, fun view => ?_, ?_⟩
            · rw [after]
              simpa only [put, called, if_true] using moves
            · simp only [begins, there, if_true]
            · rw [after]
              simpa only [pending, Call.pending, called, if_true] using balanced
          · refine ⟨none, none, moved_nothing ?_ ?_ fun view => ?_⟩
            · rw [after]
              simp only [put, called, Ne.symm own, if_false]
            · rw [after]
              simpa only [pending, Call.pending, called, own, if_false, add_zero] using balanced
            · simp only [begins, there, own, if_false]

/-- A claim moves the rotation on, and nothing else does. -/
theorem step_claims (fetcher : Nat) (p : Pool) (event : Event) :
    (p.begins fetcher Stage.holds event = some (p.fetchers fetcher).nextIndex ∧
        (p.step event).fetchers fetcher = (p.fetchers fetcher).claim.2) ∨
      (p.begins fetcher Stage.holds event = none ∧
        ((p.step event).fetchers fetcher).nextIndex = (p.fetchers fetcher).nextIndex ∧
        ((p.step event).fetchers fetcher).fileCount = (p.fetchers fetcher).fileCount) := by
  obtain ⟨before, after, moved⟩ := exists_moved fetcher p event
  obtain ⟨mode, moves⟩ := moved.moves
  rw [moved.begun]
  exact moves.claims_cases

/-- What is claimed is about to be asked for, until it is. -/
theorem step_pending (fetcher : Nat) (p : Pool) (event : Event) :
    ((p.begins fetcher Stage.asks event).toList : Multiset UInt8) +
        (p.step event).pending fetcher =
      ((p.begins fetcher Stage.holds event).toList : Multiset UInt8) + p.pending fetcher := by
  obtain ⟨before, after, moved⟩ := exists_moved fetcher p event
  obtain ⟨mode, moves⟩ := moved.moves
  rw [moved.begun, moved.begun]
  refine add_right_cancel (b := before.elim 0 Stage.pending) ?_
  calc ((Stage.begins Stage.asks before after).toList : Multiset UInt8) +
        (p.step event).pending fetcher + before.elim 0 Stage.pending
      = ((Stage.begins Stage.asks before after).toList + after.elim 0 Stage.pending) +
          p.pending fetcher := by
        rw [add_assoc, moved.balanced, add_comm (p.pending fetcher), add_assoc]
    _ = ((Stage.begins Stage.holds before after).toList + before.elim 0 Stage.pending) +
          p.pending fetcher := by rw [moves.pending_add]
    _ = (Stage.begins Stage.holds before after).toList + p.pending fetcher +
          before.elim 0 Stage.pending := add_right_comm _ _ _

theorem step_inRange (inRange : (p.fetchers fetcher).InRange) (event : Event) :
    ((p.step event).fetchers fetcher).InRange := by
  obtain ⟨before, after, moved⟩ := exists_moved fetcher p event
  obtain ⟨mode, moves⟩ := moved.moves
  exact moves.inRange inRange

/-! ## A whole run -/

theorem run_append (p : Pool) (events later : List Event) :
    p.run (events ++ later) = (p.run events).run later :=
  List.foldl_append

theorem run_snoc (p : Pool) (events : List Event) (event : Event) :
    p.run (events ++ [event]) = (p.run events).step event :=
  run_append p events [event]

variable (fetcher) (view : Stage → Option UInt8)

/-- The files that calls of a fetcher come to show in a run, in order. -/
def begun : Pool → List Event → List UInt8
  | _, [] => []
  | p, event :: events => (p.begins fetcher view event).toList ++ begun (p.step event) events

theorem begun_snoc (p : Pool) (events : List Event) (event : Event) :
    begun fetcher view p (events ++ [event]) =
      begun fetcher view p events ++ ((p.run events).begins fetcher view event).toList := by
  induction events generalizing p with
  | nil => exact List.append_nil _
  | cons first rest ih =>
      simp only [List.cons_append, begun, ih, List.append_assoc]
      rfl

variable {fetcher} {count : Nat}

/-- Files are claimed one after the other, and each claim moves the rotation on by one. -/
theorem run_claims (fresh : (p.fetchers fetcher).At count 0) (events : List Event) :
    InRotation count (begun fetcher Stage.holds p events) ∧
      ((p.run events).fetchers fetcher).At count (begun fetcher Stage.holds p events).length := by
  induction events using List.reverseRecOn with
  | nil => exact ⟨.nil, fresh⟩
  | append_singleton events event ih =>
      obtain ⟨rotation, now⟩ := ih
      rw [begun_snoc, run_snoc]
      rcases step_claims fetcher (p.run events) event with ⟨claims, moved⟩ | ⟨nothing, next, files⟩
      · rw [claims, moved, Option.toList_some, List.length_append]
        exact ⟨rotation.snoc now.nextIndex, now.claim⟩
      · rw [nothing, Option.toList_none, List.append_nil]
        exact ⟨rotation, now.congr next files⟩

/-- What was claimed is what was asked for and what is about to be. -/
theorem sent_add_pending (clear : p.pending fetcher = 0) (events : List Event) :
    (begun fetcher Stage.asks p events : Multiset UInt8) + (p.run events).pending fetcher =
      begun fetcher Stage.holds p events := by
  induction events using List.reverseRecOn with
  | nil => exact congrArg (0 + ·) clear
  | append_singleton events event ih =>
      have one := step_pending fetcher (p.run events) event
      rw [begun_snoc, begun_snoc, run_snoc, ← Multiset.coe_add, ← Multiset.coe_add, add_assoc, one,
        ← ih, add_comm (Multiset.ofList ((p.run events).begins fetcher Stage.holds event).toList),
        add_assoc]

/-! ## Calls that take turns while they wait -/

/-- Whether the call at a place is running. -/
def runs (p : Pool) (place : Nat) : Bool :=
  (p.calls[place]?.bind Call.stage).any Stage.isRunning

/-- Nothing happens while a call is running but that it goes on. -/
def Allows (p : Pool) (event : Event) : Prop :=
  ∀ place < p.calls.length, p.runs place = true → event.stepped? = some place

instance (p : Pool) (event : Event) : Decidable (p.Allows event) :=
  inferInstanceAs (Decidable (∀ place < p.calls.length, _))

theorem runs_of_reached {place : Nat} {c : Call} {stage : Stage} (there : p.calls[place]? = some c)
    (reached : c.stage = some stage) : p.runs place = stage.isRunning := by
  rw [Pool.runs, there, Option.bind_some, reached]
  rfl

/-- While a call is running, the next event is a step of its own. -/
theorem step_of_allows {place : Nat} {c : Call} {stage : Stage} (there : p.calls[place]? = some c)
    (reached : c.stage = some stage) (running : stage.isRunning = true) (allowed : p.Allows event) :
    ∃ words, event = .act place .step words := by
  have within : place < p.calls.length := (List.getElem?_eq_some_iff.1 there).1
  have next := allowed place within ((runs_of_reached there reached).trans running)
  cases event with
  | call called mode => cases next
  | act other action words =>
      cases action with
      | step =>
          cases next
          exact ⟨words, rfl⟩
      | settle reply => cases next
      | drop => cases next

/-- Calls take turns only while they wait. -/
def Cooperative : Pool → List Event → Prop
  | _, [] => True
  | p, event :: events => p.Allows event ∧ Cooperative (p.step event) events

instance decidableCooperative : ∀ (p : Pool) (events : List Event),
    Decidable (p.Cooperative events)
  | _, [] => .isTrue trivial
  | p, event :: events =>
      have := decidableCooperative (p.step event) events
      inferInstanceAs (Decidable (p.Allows event ∧ _))

theorem cooperative_append (p : Pool) (events later : List Event) :
    p.Cooperative (events ++ later) ↔
      p.Cooperative events ∧ (p.run events).Cooperative later := by
  induction events generalizing p with
  | nil => exact ⟨fun rest => ⟨trivial, rest⟩, And.right⟩
  | cons first rest ih =>
      simp only [List.cons_append, Cooperative, ih, and_assoc]
      rfl

theorem cooperative_snoc (p : Pool) (events : List Event) (event : Event) :
    p.Cooperative (events ++ [event]) ↔ p.Cooperative events ∧ (p.run events).Allows event := by
  rw [cooperative_append, Cooperative, Cooperative, and_true]

/-- If files are about to be asked for, some call has claimed one. -/
theorem exists_claimed (owed : p.pending fetcher ≠ 0) :
    ∃ (place : Nat) (c : Call) (index : UInt8), p.calls[place]? = some c ∧
      c.fetcher = fetcher ∧ c.stage = some (.claimed index) := by
  by_contra nobody
  refine owed (List.sum_eq_zero fun files among => ?_)
  obtain ⟨c, called, rfl⟩ := List.mem_map.1 among
  obtain ⟨place, there⟩ := List.mem_iff_getElem?.1 called
  by_contra holds
  obtain ⟨own, index, reached⟩ := Call.claimed_of_pending holds
  exact nobody ⟨place, c, index, there, own, reached⟩

/-- While a call is about to ask for a file, no other file is claimed. -/
theorem no_claim_of_allows (allowed : p.Allows event) (owed : p.pending fetcher ≠ 0) :
    p.begins fetcher Stage.holds event = none := by
  obtain ⟨place, c, index, there, own, reached⟩ := exists_claimed owed
  obtain ⟨words, rfl⟩ := step_of_allows there reached rfl allowed
  simp only [begins, there, own, if_true, reached]
  rfl

/-- What is asked for first of what is due leaves the rest. -/
theorem exists_rest {asked due : Option UInt8} {rest : Multiset UInt8}
    (balanced : (asked.toList : Multiset UInt8) + rest = due.toList) :
    ∃ next : Option UInt8, due.toList = asked.toList ++ next.toList ∧
      (next.toList : Multiset UInt8) = rest := by
  cases asked with
  | none => exact ⟨due, rfl, balanced.symm.trans (zero_add rest)⟩
  | some index =>
      cases due with
      | none => exact absurd balanced (Multiset.cons_ne_zero)
      | some other =>
          obtain ⟨rfl, nothing⟩ := (Multiset.singleton_eq_cons_iff rest).1 balanced.symm
          exact ⟨none, rfl, nothing.symm⟩

/-- Calls that take turns while they wait ask in the order of their claims: at most the latest
claim is still to be asked for. -/
theorem claimed_eq_sent_append (clear : p.pending fetcher = 0) (events : List Event)
    (cooperative : p.Cooperative events) :
    ∃ next : Option UInt8,
      begun fetcher Stage.holds p events = begun fetcher Stage.asks p events ++ next.toList ∧
        (next.toList : Multiset UInt8) = (p.run events).pending fetcher := by
  induction events using List.reverseRecOn with
  | nil => exact ⟨none, rfl, clear.symm⟩
  | append_singleton events event ih =>
      obtain ⟨sofar, allowed⟩ := (cooperative_snoc p events event).1 cooperative
      obtain ⟨next, order, pending⟩ := ih sofar
      have one := step_pending fetcher (p.run events) event
      -- a file is claimed only when none is about to be asked for
      obtain ⟨due, either⟩ : ∃ due : Option UInt8, next.toList ++
          ((p.run events).begins fetcher Stage.holds event).toList = due.toList := by
        cases next with
        | none => exact ⟨_, rfl⟩
        | some index =>
            have owed : (p.run events).pending fetcher ≠ 0 :=
              pending ▸ Multiset.singleton_ne_zero index
            rw [no_claim_of_allows allowed owed]
            exact ⟨some index, rfl⟩
      rw [← pending, add_comm (Multiset.ofList (Option.toList _)) (next.toList : Multiset UInt8),
        Multiset.coe_add, either] at one
      obtain ⟨rest, sent, pending'⟩ := exists_rest one
      refine ⟨rest, ?_, pending'.trans (by rw [run_snoc])⟩
      rw [begun_snoc, begun_snoc, order, List.append_assoc, either, sent, List.append_assoc]

/-! ## Other numbers of files -/

/-- What can become of the fetchers of a pool. -/
inductive Change where
  | event (event : Event)
  /-- Another number of files is set. -/
  | fileCount (fetcher : Nat) (count : UInt8)

/-- The pool after a change. -/
def change (p : Pool) : Change → Pool
  | .event event => p.step event
  | .fileCount fetcher count =>
      { p with
        fetchers := Function.update p.fetchers fetcher
          ((p.fetchers fetcher).withFileCount count) }

theorem inRange_change (inRange : ∀ fetcher, (p.fetchers fetcher).InRange) (change : Change)
    (fetcher : Nat) : ((p.change change).fetchers fetcher).InRange := by
  cases change with
  | event event => exact step_inRange (inRange fetcher) event
  | fileCount other count =>
      by_cases same : fetcher = other
      · subst same
        simpa only [Pool.change, Function.update_self] using (inRange fetcher).withFileCount count
      · simpa only [Pool.change, Function.update_of_ne same] using inRange fetcher

/-- However calls overlap and numbers of files are set, every fetcher points to a file. -/
theorem inRange_changes (changes : List Change) (p : Pool)
    (inRange : ∀ fetcher, (p.fetchers fetcher).InRange) (fetcher : Nat) :
    ((changes.foldl change p).fetchers fetcher).InRange := by
  induction changes generalizing p with
  | nil => exact inRange fetcher
  | cons change changes ih => exact ih _ (inRange_change inRange change)

/-! ## The fetcher of a configuration -/

/-- A call that finds a palette returns it, and the rotation stays where it is. -/
theorem step_hit {place : Nat} {c : Call} {palette : Palette} {rest : List Palette}
    (there : p.calls[place]? = some c) (looks : c.stage = some .looking)
    (held : p.cache.get c.mode = palette :: rest) (words : WordSource) :
    (p.step (.act place .step words)).fetchers = p.fetchers ∧
      (p.step (.act place .step words)).calls[place]? =
        some { c with stage := some (.done (.ok (some palette))) } := by
  have acted : c.act .step (p.supply c.fetcher words) =
      ({ c with stage := some (.done (.ok (some palette))) },
        { p.supply c.fetcher words with cache := p.cache.set c.mode rest }) := by
    simp [Call.act, looks, Action.apply, Stage.step, PaletteCache.take, supply, held,
      Action.fills, Stage.fills]
  have within : place < p.calls.length := (List.getElem?_eq_some_iff.1 there).1
  rw [step_act there, acted]
  refine ⟨funext fun fetcher => ?_, List.getElem?_set_self within⟩
  simp only [put, supply]
  split
  · next own => rw [own]
  · rfl

/-- **The fetcher of a configuration asks for its files in rotation, however calls overlap, and
no fetcher ever points beyond its files.** -/
theorem requests_in_rotation {d : Disk} {env : Environment} {path : Option String}
    {config : Config} (loaded : Config.load d env path = .ok config) (cache : PaletteCache)
    {fetchers : Nat → Fetcher} {fetcher : Nat}
    (built : fetchers fetcher = Fetcher.new.withFileCount config.fileCount)
    (events : List Event) :
    let count := config.fileCount.toNat
    let start := quiet cache fetchers
    let now := start.run events
    let claimed := begun fetcher Stage.holds start events
    let sent := begun fetcher Stage.asks start events
    (∀ n index, claimed[n]? = some index → index.toNat = n % count + 1) ∧
      (∀ round, round <:+: claimed → round.length = count →
        (round.map UInt8.toNat).Perm (List.range' 1 count)) ∧
      (now.fetchers fetcher).nextIndex.toNat = claimed.length % count + 1 ∧
      (sent : Multiset UInt8) + now.pending fetcher = claimed ∧
      (start.Cooperative events →
        sent <+: claimed ∧ ∀ n index, sent[n]? = some index → index.toNat = n % count + 1) ∧
      (∀ place c palette rest words, now.calls[place]? = some c → c.stage = some .looking →
        now.cache.get c.mode = palette :: rest →
          (now.step (.act place .step words)).fetchers = now.fetchers ∧
            (now.step (.act place .step words)).calls[place]? =
              some { c with stage := some (.done (.ok (some palette))) }) ∧
      ∀ (changes : List Change) (any : Nat),
        let f := (changes.foldl change (quiet cache fun _ => .new)).fetchers any
        1 ≤ f.nextIndex ∧ f.nextIndex ≤ f.fileCount ∧ f.fileCount ≤ 99 ∧
          (f.nextIndex % f.fileCount).toNat + 1 < 256 := by
  intro count start now claimed sent
  have limits := Config.withinLimits_of_load loaded
  have fresh : (start.fetchers fetcher).At count 0 := by
    have first := Fetcher.at_withFileCount limits.fewest limits.most
    rw [← built] at first
    exact first
  have clear : start.pending fetcher = 0 := rfl
  obtain ⟨rotation, at_⟩ := run_claims fresh events
  refine ⟨rotation.nth, fun round => rotation.round, at_.nextIndex,
    sent_add_pending clear events, fun cooperative => ?_,
    fun place c palette rest words there looks held => step_hit there looks held words,
    fun changes any => ?_⟩
  · obtain ⟨next, order, -⟩ := claimed_eq_sent_append clear events cooperative
    rw [order] at rotation
    exact ⟨⟨next.toList, order.symm⟩, rotation.of_append.nth⟩
  · intro f
    have inRange : f.InRange :=
      inRange_changes changes (quiet cache fun _ => .new) (fun _ => Fetcher.inRange_new) any
    exact ⟨inRange.first, inRange.last, inRange.most, inRange.next_lt_size⟩

/-- Three calls for both modes overlap: the request of one fails, that of another brings a batch
without palettes, and the third is given up.  Then a call asks again. -/
def threeAtOnce : List Event :=
  let words : WordSource := ⟨fun _ => 0, 0⟩
  let goes (place : Nat) : Event := .act place .step words
  [.call 0 .light, .call 0 .dark, .call 0 .light, goes 1, goes 1, goes 1, goes 0, goes 0, goes 0,
    goes 2, goes 2, goes 2, .act 0 (.settle (.error (.status "themes" 404))) words, goes 0,
    .act 1 .drop words, .act 2 (.settle (.ok ⟨[]⟩)) words, goes 2, goes 2,
    .call 0 .dark, goes 3, goes 3, goes 3]

/-- The calls of two files ask for the first, the second, the first and the second. -/
theorem requests_in_rotation_twoFiles :
    let env : Environment := ⟨[("PALETTE_STUDIO_THEME_FILE_COUNT", "2")]⟩
    let config : Config := { Config.empty with fileCount? := some 2 }
    let fetchers := fun _ : Nat => Fetcher.new.withFileCount config.fileCount
    let start := quiet .empty fetchers
    let claimed := begun 0 Stage.holds start threeAtOnce
    let sent := begun 0 Stage.asks start threeAtOnce
    Config.load (Disk.blank ["home"]) env none = .ok config ∧ start.Cooperative threeAtOnce ∧
      sent = [1, 2, 1, 2] ∧ sent <+: claimed ∧
      ∀ round, round <:+: claimed → round.length = 2 →
        (round.map UInt8.toNat).Perm (List.range' 1 2) := by
  intro env config fetchers start claimed sent
  have loaded : Config.load (Disk.blank ["home"]) env none = .ok config := rfl
  have cooperative : start.Cooperative threeAtOnce := by decide +kernel
  have asked : sent = [1, 2, 1, 2] := by decide +kernel
  have built : fetchers 0 = Fetcher.new.withFileCount config.fileCount := rfl
  obtain ⟨-, once, -, -, order, -⟩ := requests_in_rotation loaded .empty built threeAtOnce
  exact ⟨loaded, cooperative, asked, (order cooperative).1, once⟩

end Pool

end ThemeEditor
