/-
# ThemeEditor.Proofs.Theme.Served -- a call without a palette was sent none

A call takes what it returns from the stack that all calls share, not from its own
batch.  Where calls take turns only while they wait (`Pool.Cooperative`), no other
call can empty the stack between the refill and the take: while a call is running,
the next event is a step of its own (`Pool.step_of_allows`).  So a call that returns
no palette has had a batch without any (`Pool.explained_run`), and one whose batch
had some has a palette two events later (`Pool.served_of_settled`); until then no other
call is running, so it can go on (`Pool.allows_step_of_runs`).

Palettes without colors are left out of every batch.  If the cache held none of them
at first, none is ever returned (`Pool.Clean`), and a session that generates without
an effect and without an error was sent nothing that it could use
(`Pool.unserved_of_nothing`).
-/
import ThemeEditor.Proofs.Theme.Conservation
import ThemeEditor.Proofs.Theme.Requests
import ThemeEditor.Session.Basic

namespace ThemeEditor

set_option autoImplicit false

open ThemeEditor.Random (WordSource)

/-- A batch that leaves the stack empty had nothing to put there. -/
theorem Supply.usable_of_refill {s : Supply} {mode : Mode} {batch : Batch}
    (nothing : (s.refill mode batch).cache.get mode = []) :
    Batch.usable batch.palettes = [] := by
  obtain ⟨stack, words, stacked, filled⟩ := s.exists_refill mode batch
  rw [filled, PerMode.get_set, if_pos rfl] at nothing
  rw [(List.append_eq_nil_iff.1 nothing).1] at stacked
  exact stacked.nil_eq.symm

/-! ## One call -/

namespace Stage

/-- What a call has come to is explained by the answer to its request, where `held` are the
palettes that wait for its mode. -/
def Explained (answered : Reply → Prop) (held : List Palette) : Stage → Prop
  | settled reply => answered reply
  | refilled => ∃ batch, answered (.ok batch) ∧ (held = [] → Batch.usable batch.palettes = [])
  | done (.ok none) => ∃ batch, answered (.ok batch) ∧ Batch.usable batch.palettes = []
  | done (.error e) => answered (.error e)
  | _ => True

variable {answered answered' : Reply → Prop} {held held' : List Palette} {stage : Stage}

theorem Explained.mono (explained : stage.Explained answered held)
    (kept : ∀ reply, answered reply → answered' reply) : stage.Explained answered' held := by
  cases stage with
  | settled reply => exact kept reply explained
  | refilled =>
      obtain ⟨batch, got, nothing⟩ := explained
      exact ⟨batch, kept _ got, nothing⟩
  | done outcome =>
      cases outcome with
      | error e => exact kept _ explained
      | ok palette =>
          cases palette with
          | none =>
              obtain ⟨batch, got, nothing⟩ := explained
              exact ⟨batch, kept _ got, nothing⟩
          | some p => trivial
  | _ => trivial

/-- Only a running call depends on what the others leave in the cache. -/
theorem Explained.congr (explained : stage.Explained answered held)
    (still : stage.isRunning = false) : stage.Explained answered held' := by
  cases stage with
  | refilled => cases still
  | settled reply => cases still
  | done outcome =>
      cases outcome with
      | error e => exact explained
      | ok palette => cases palette <;> exact explained
  | _ => trivial

end Stage

namespace Action

variable {mode : Mode} {stage : Stage} {s : Supply}

/-- An action leaves a call explained, if it is known of the answer that it hands over. -/
theorem explained {answered : Reply → Prop} (action : Action)
    (before : stage.Explained answered (s.cache.get mode))
    (heard : ∀ reply index, action = .settle reply → stage = .waiting index → answered reply) :
    (action.apply mode stage s).1.elim True
      (Stage.Explained answered ((action.apply mode stage s).2.cache.get mode)) := by
  cases action with
  | settle reply =>
      cases stage with
      | waiting index => exact heard reply index rfl rfl
      | _ => exact before
  | drop =>
      cases stage with
      | looking | waiting index => trivial
      | _ => exact before
  | step =>
      cases stage with
      | looking =>
          simp only [apply, Stage.step]
          split <;> trivial
      | missed | claimed index | waiting index => trivial
      | settled reply =>
          cases reply with
          | error e => exact before
          | ok batch => exact ⟨batch, before, Supply.usable_of_refill⟩
      | refilled =>
          obtain ⟨batch, got, nothing⟩ := before
          cases held : s.cache.get mode with
          | nil =>
              simp only [apply, Stage.step, PaletteCache.take, held]
              exact ⟨batch, got, nothing held⟩
          | cons p rest =>
              simp only [apply, Stage.step, PaletteCache.take, held]
              trivial
      | done outcome => exact before

/-- If no palette without colors waits, an action neither returns one nor leaves one. -/
theorem clean (action : Action) (mode : Mode) (returned : [] ∉ stage.returned)
    (held : ∀ mode, [] ∉ s.cache.held mode) :
    [] ∉ (action.apply mode stage s).1.elim 0 Stage.returned ∧
      ∀ other, [] ∉ (action.apply mode stage s).2.cache.held other := by
  have fills : [] ∉ (action.fills stage : Multiset Palette) := by
    cases action with
    | step =>
        cases stage with
        | settled reply =>
            cases reply with
            | error e => exact List.not_mem_nil
            | ok batch => exact fun among => (Batch.mem_usable.1 among).2 rfl
        | _ => exact List.not_mem_nil
    | settle reply => exact List.not_mem_nil
    | drop => exact List.not_mem_nil
  have conserved := action.conserves mode stage s
  have neither : [] ∉ (action.apply mode stage s).1.elim 0 Stage.returned +
      (action.apply mode stage s).2.cache.held mode := by
    rw [conserved]
    intro among
    rcases Multiset.mem_add.1 among with earlier | filled
    · rcases Multiset.mem_add.1 earlier with before | waited
      · exact returned before
      · exact held mode waited
    · exact fills filled
  refine ⟨fun among => neither (Multiset.mem_add.2 (.inl among)), ?_⟩
  intro other
  by_cases own : other = mode
  · subst own
    exact fun among => neither (Multiset.mem_add.2 (.inr among))
  · rw [action.held_other stage s own]
    exact held other

end Action

/-! ## One event -/

namespace Pool

variable {p : Pool} {place : Nat} {c : Call} {stage : Stage} {event : Event}

/-- A call that acts goes on to what its action makes of it. -/
theorem step_reached (there : p.calls[place]? = some c) (reached : c.stage = some stage)
    (action : Action) (words : WordSource) :
    let applied := action.apply c.mode stage (p.supply c.fetcher words)
    (p.step (.act place action words)).calls[place]? =
        some { c with stage := applied.1, filled := action.fills stage ++ c.filled } ∧
      (p.step (.act place action words)).cache = applied.2.cache := by
  intro applied
  have within : place < p.calls.length := (List.getElem?_eq_some_iff.1 there).1
  have acted : c.act action (p.supply c.fetcher words) =
      ({ c with stage := applied.1, filled := action.fills stage ++ c.filled }, applied.2) := by
    simp only [Call.act, reached]
    rfl
  rw [step_act there, acted]
  exact ⟨List.getElem?_set_self within, rfl⟩

/-- A call is made beside those that there are. -/
theorem step_call_eq_some {called : Nat} {asked : Mode}
    (now : (p.step (.call called asked)).calls[place]? = some c) :
    p.calls[place]? = some c ∨ c = .new called asked := by
  have among : (p.calls ++ [Call.new called asked])[place]? = some c := now
  by_cases earlier : place < p.calls.length
  · rw [List.getElem?_append_left earlier] at among
    exact .inl among
  · rw [List.getElem?_append_right (by omega)] at among
    exact .inr (List.mem_singleton.1 (List.mem_of_getElem? among))

/-- An event of another call leaves a call as it is. -/
theorem step_elsewhere {other : Nat} (ne : other ≠ place) (action : Action) (words : WordSource) :
    (p.step (.act other action words)).calls[place]? = p.calls[place]? := by
  cases there : p.calls[other]? with
  | none => rw [step_nobody there]
  | some c =>
      rw [step_act there]
      exact List.getElem?_set_ne ne

theorem exists_of_runs (runs : p.runs place = true) :
    ∃ c stage, p.calls[place]? = some c ∧ c.stage = some stage ∧ stage.isRunning = true := by
  unfold Pool.runs at runs
  obtain ⟨stage, reached, running⟩ := (Option.any_eq_true _ _).1 runs
  obtain ⟨c, there, reached⟩ := Option.bind_eq_some_iff.1 reached
  exact ⟨c, stage, there, reached, running⟩

/-- Only the call that acted can be running after an event. -/
theorem acted_of_runs (allowed : p.Allows event) (runs : (p.step event).runs place = true) :
    ∃ action words, event = .act place action words := by
  obtain ⟨c, stage, now, reached, running⟩ := exists_of_runs runs
  cases event with
  | call called asked =>
      rcases step_call_eq_some now with earlier | rfl
      · obtain ⟨words, same⟩ := step_of_allows earlier reached running allowed
        cases same
      · cases reached
        cases running
  | act other action words =>
      by_cases own : other = place
      · subst own
        exact ⟨action, words, rfl⟩
      · rw [step_elsewhere own] at now
        obtain ⟨words', same⟩ := step_of_allows now reached running allowed
        cases same
        exact absurd rfl own

/-- A call that is running can go on: no other one is. -/
theorem allows_step_of_runs (allowed : p.Allows event)
    (runs : (p.step event).runs place = true) (words : WordSource) :
    (p.step event).Allows (.act place .step words) := by
  intro other _ runs'
  obtain ⟨action, words₁, acted⟩ := acted_of_runs allowed runs
  obtain ⟨action', words₂, acted'⟩ := acted_of_runs allowed runs'
  cases acted.symm.trans acted'
  rfl

/-- A call that has returned stays as it is. -/
theorem step_returned {outcome : Outcome} (there : p.calls[place]? = some c)
    (returned : c.stage = some (.done outcome)) (event : Event) :
    (p.step event).calls[place]? = some c := by
  cases event with
  | call called mode =>
      have within : place < p.calls.length := (List.getElem?_eq_some_iff.1 there).1
      exact (List.getElem?_append_left within).trans there
  | act other action words =>
      by_cases own : other = place
      · subst own
        obtain ⟨after, -⟩ := step_reached there returned action words
        have same : ({ c with
            stage := (action.apply c.mode (.done outcome) (p.supply c.fetcher words)).1
            filled := action.fills (.done outcome) ++ c.filled } : Call) = c := by
          obtain ⟨fetcher, mode, reached, filled⟩ := c
          subst returned
          cases action <;> rfl
        exact after.trans (congrArg some same)
      · rw [step_elsewhere own]
        exact there

theorem run_returned {outcome : Outcome} (there : p.calls[place]? = some c)
    (returned : c.stage = some (.done outcome)) (events : List Event) :
    (p.run events).calls[place]? = some c := by
  induction events generalizing p with
  | nil => exact there
  | cons event rest ih => exact ih (step_returned there returned event)

/-! ## What a call was answered -/

/-- The call at a place has a request for a mode under way. -/
def Asks (p : Pool) (place : Nat) (mode : Mode) : Prop :=
  ∃ c index, p.calls[place]? = some c ∧ c.mode = mode ∧ c.stage = some (.waiting index)

/-- The call at a place has been handed this reply to its request. -/
def Answered (p : Pool) (events : List Event) (place : Nat) (mode : Mode) (reply : Reply) :
    Prop :=
  ∃ before words after, events = before ++ .act place (.settle reply) words :: after ∧
    (p.run before).Asks place mode

/-- The call at a place has returned a palette for a mode. -/
def Serves (p : Pool) (place : Nat) (mode : Mode) : Prop :=
  ∃ c palette, p.calls[place]? = some c ∧ c.mode = mode ∧
    c.stage = some (.done (.ok (some palette)))

variable {events : List Event} {mode : Mode} {reply : Reply}

theorem Answered.snoc (answered : p.Answered events place mode reply) (event : Event) :
    p.Answered (events ++ [event]) place mode reply := by
  obtain ⟨before, words, after, rfl, asks⟩ := answered
  refine ⟨before, words, after ++ [event], ?_, asks⟩
  simp only [List.append_assoc, List.cons_append]

/-- The calls of a pool are explained by what they were answered. -/
def Explained (p : Pool) (answered : Nat → Mode → Reply → Prop) : Prop :=
  ∀ (place : Nat) (c : Call), p.calls[place]? = some c →
    c.stage.elim True (Stage.Explained (answered place c.mode) (p.cache.get c.mode))

theorem explained_step {answered : Nat → Mode → Reply → Prop} (explained : p.Explained answered)
    (allowed : p.Allows event)
    (heard : ∀ place mode reply words, event = .act place (.settle reply) words →
      p.Asks place mode → answered place mode reply) : (p.step event).Explained answered := by
  intro place c now
  cases event with
  | call called asked =>
      rcases step_call_eq_some now with earlier | rfl
      · exact explained place c earlier
      · trivial
  | act other action words =>
      by_cases own : other = place
      · subst own
        cases there : p.calls[other]? with
        | none =>
            rw [step_nobody there, there] at now
            cases now
        | some before =>
            cases reached : before.stage with
            | none =>
                have same : before.act action (p.supply before.fetcher words) =
                    (before, p.supply before.fetcher words) := by
                  simp only [Call.act, reached]
                have within : other < p.calls.length := (List.getElem?_eq_some_iff.1 there).1
                rw [step_act there, same] at now
                cases (List.getElem?_set_self within).symm.trans now
                rw [reached]
                trivial
            | some stage =>
                obtain ⟨after, cache⟩ := step_reached there reached action words
                cases after.symm.trans now
                rw [cache]
                have sofar := explained other before there
                rw [reached] at sofar
                refine action.explained sofar ?_
                intro reply index settles waits
                subst settles waits
                exact heard other before.mode reply words rfl ⟨before, index, there, rfl, reached⟩
      · rw [step_elsewhere own] at now
        have sofar := explained place c now
        cases reached : c.stage with
        | none => trivial
        | some stage =>
            rw [reached] at sofar
            -- nobody else acts while this call is running
            refine Stage.Explained.congr sofar ?_
            cases running : stage.isRunning with
            | false => rfl
            | true =>
                obtain ⟨words', same⟩ := step_of_allows now reached running allowed
                cases same
                exact absurd rfl own

/-- What calls have come to is explained by what they were answered. -/
theorem explained_run (cache : PaletteCache) (fetchers : Nat → Fetcher) (events : List Event)
    (cooperative : (quiet cache fetchers).Cooperative events) :
    ((quiet cache fetchers).run events).Explained ((quiet cache fetchers).Answered events) := by
  induction events using List.reverseRecOn with
  | nil =>
      intro place c nobody
      cases nobody
  | append_singleton events event ih =>
      obtain ⟨sofar, allowed⟩ := (cooperative_snoc _ events event).1 cooperative
      rw [run_snoc]
      refine explained_step ?_ allowed ?_
      · intro place c there
        have explained := ih sofar place c there
        cases reached : c.stage with
        | none => trivial
        | some stage =>
            rw [reached] at explained
            exact explained.mono fun reply answered => answered.snoc event
      · intro place mode reply words settles asks
        subst settles
        exact ⟨events, words, [], rfl, asks⟩

/-! ## What a call returns -/

/-- A call without a palette has had a batch without any. -/
theorem answered_of_none {cache : PaletteCache} {fetchers : Nat → Fetcher}
    (cooperative : (quiet cache fetchers).Cooperative events)
    (there : ((quiet cache fetchers).run events).calls[place]? = some c)
    (returned : c.stage = some (.done (.ok none))) :
    ∃ batch, (quiet cache fetchers).Answered events place c.mode (.ok batch) ∧
      Batch.usable batch.palettes = [] := by
  have explained := explained_run cache fetchers events cooperative place c there
  rw [returned] at explained
  exact explained

/-- A call whose batch is in the cache takes a palette before anybody else can. -/
theorem served_of_refilled (there : p.calls[place]? = some c) (called : c.mode = mode)
    (reached : c.stage = some .refilled) (held : p.cache.get mode ≠ [])
    (cooperative : p.Cooperative (event :: events)) :
    (p.run (event :: events)).Serves place mode := by
  subst called
  obtain ⟨words, rfl⟩ := step_of_allows there reached rfl cooperative.1
  obtain ⟨after, -⟩ := step_reached there reached .step words
  obtain ⟨palette, rest, top⟩ := List.exists_cons_of_ne_nil held
  have taken : (p.supply c.fetcher words).cache.take c.mode =
      (some palette, p.cache.set c.mode rest) := by
    simp only [PaletteCache.take, supply, top]
  simp only [Action.apply, Stage.step, taken] at after
  exact ⟨_, palette, run_returned after rfl events, rfl, rfl⟩

/-- A call whose batch has palettes has one of the cache two events later. -/
theorem served_of_settled {batch : Batch} {next : Event} (there : p.calls[place]? = some c)
    (called : c.mode = mode) (reached : c.stage = some (.settled (.ok batch)))
    (usable : Batch.usable batch.palettes ≠ [])
    (cooperative : p.Cooperative (event :: next :: events)) :
    (p.run (event :: next :: events)).Serves place mode := by
  subst called
  obtain ⟨words, rfl⟩ := step_of_allows there reached rfl cooperative.1
  obtain ⟨after, cache⟩ := step_reached there reached .step words
  have held : (p.step (.act place .step words)).cache.get c.mode ≠ [] := by
    rw [cache]
    intro nothing
    exact usable (Supply.usable_of_refill nothing)
  exact served_of_refilled (p := p.step (.act place .step words)) after rfl rfl held
    cooperative.2

/-- A call that waits for a batch with palettes has one when it has gone on. -/
theorem served_of_answer {before after : List Event} {batch : Batch} {words : WordSource}
    (cooperative : p.Cooperative (before ++ .act place (.settle (.ok batch)) words :: after))
    (asks : (p.run before).Asks place mode) (usable : Batch.usable batch.palettes ≠ [])
    (later : 2 ≤ after.length) :
    (p.run (before ++ .act place (.settle (.ok batch)) words :: after)).Serves place mode := by
  obtain ⟨c, index, there, rfl, waits⟩ := asks
  obtain ⟨-, -, rest⟩ := (cooperative_append p before _).1 cooperative
  obtain ⟨settled, -⟩ := step_reached there waits (.settle (.ok batch)) words
  rw [run_append]
  match after, later, rest with
  | first :: second :: after, _, rest =>
      exact served_of_settled (p := (p.run before).step (.act place (.settle (.ok batch)) words))
        settled rfl rfl usable rest

/-- Until it has one, it can go on. -/
theorem allows_of_answer {before after : List Event} {batch : Batch} {words : WordSource}
    (cooperative : p.Cooperative (before ++ .act place (.settle (.ok batch)) words :: after))
    (asks : (p.run before).Asks place mode) (soon : after.length < 2) (next : WordSource) :
    (p.run (before ++ .act place (.settle (.ok batch)) words :: after)).Allows
      (.act place .step next) := by
  obtain ⟨c, index, there, rfl, waits⟩ := asks
  obtain ⟨-, allowed, rest⟩ := (cooperative_append p before _).1 cooperative
  obtain ⟨settled, -⟩ := step_reached there waits (.settle (.ok batch)) words
  rw [run_append]
  match after, soon, rest with
  | [], _, _ =>
      refine allows_step_of_runs (p := p.run before) allowed ?_ next
      rw [runs_of_reached settled rfl]
      rfl
  | [first], _, rest =>
      obtain ⟨words', rfl⟩ := step_of_allows settled rfl rfl rest.1
      obtain ⟨refilled, -⟩ := step_reached settled rfl .step words'
      refine allows_step_of_runs
        (p := (p.run before).step (.act place (.settle (.ok batch)) words)) rest.1 ?_ next
      rw [runs_of_reached refilled rfl]
      rfl

/-- A call that finds palettes has one from then on. -/
theorem served_of_held {before after : List Event} {words : WordSource}
    (there : (p.run before).calls[place]? = some c) (looks : c.stage = some .looking)
    (held : (p.run before).cache.get c.mode ≠ []) :
    (p.run (before ++ .act place .step words :: after)).Serves place c.mode := by
  obtain ⟨palette, rest, top⟩ := List.exists_cons_of_ne_nil held
  obtain ⟨-, returned⟩ := step_hit there looks top words
  rw [run_append]
  exact ⟨_, palette, run_returned returned rfl after, rfl, rfl⟩

/-! ## Palettes without colors -/

/-- No palette without colors waits in the cache, and none was returned. -/
structure Clean (p : Pool) : Prop where
  held : ∀ mode, [] ∉ p.cache.held mode
  returned : ∀ c ∈ p.calls, [] ∉ c.stage.elim 0 Stage.returned

theorem Clean.step (clean : p.Clean) (event : Event) : (p.step event).Clean := by
  cases event with
  | call called asked =>
      refine ⟨clean.held, ?_⟩
      intro c among
      rcases List.mem_append.1 among with earlier | added
      · exact clean.returned c earlier
      · obtain rfl := List.mem_singleton.1 added
        exact Multiset.notMem_zero _
  | act place action words =>
      cases there : p.calls[place]? with
      | none =>
          rw [step_nobody there]
          exact clean
      | some c =>
          have before := clean.returned c (List.mem_of_getElem? there)
          rw [step_act there, Call.act]
          cases reached : c.stage with
          | none =>
              refine ⟨clean.held, ?_⟩
              intro other among
              rcases List.mem_or_eq_of_mem_set among with earlier | rfl
              · exact clean.returned other earlier
              · exact before
          | some stage =>
              rw [reached] at before
              obtain ⟨returned, held⟩ :=
                action.clean (s := p.supply c.fetcher words) c.mode before clean.held
              refine ⟨held, ?_⟩
              intro other among
              rcases List.mem_or_eq_of_mem_set among with earlier | rfl
              · exact clean.returned other earlier
              · exact returned

theorem Clean.run (clean : p.Clean) (events : List Event) : (p.run events).Clean := by
  induction events generalizing p with
  | nil => exact clean
  | cons event rest ih => exact ih (clean.step event)

theorem clean_quiet {cache : PaletteCache} (colored : ∀ mode, [] ∉ cache.get mode)
    (fetchers : Nat → Fetcher) : (quiet cache fetchers).Clean where
  held := colored
  returned _ nobody := nomatch nobody

theorem Clean.ne_nil {palette : Palette} (clean : p.Clean) (there : p.calls[place]? = some c)
    (returned : c.stage = some (.done (.ok (some palette)))) : palette ≠ [] := by
  intro blank
  subst blank
  have among := clean.returned c (List.mem_of_getElem? there)
  rw [returned] at among
  exact among (Multiset.mem_singleton_self _)

end Pool

/-! ## Generating -/

/-- A call alone that returns no palette with colors asked for a batch and got none. -/
theorem Supply.Fetches.reply_of_nothing {ask : Mode → UInt8 → Answer} {mode : Mode}
    {s after : Supply} {outcome : Outcome} {request : Option Request}
    (did : Fetches ask mode s outcome request after) (colored : [] ∉ s.cache.get mode)
    (nothing : outcome = .ok none ∨ outcome = .ok (some [])) :
    ∃ batch, (ask mode s.fetcher.nextIndex).reply = .ok batch ∧
      Batch.usable batch.palettes = [] := by
  cases did with
  | hit held =>
      rw [held] at colored
      rcases nothing with none | blank
      · cases none
      · cases blank
        exact absurd List.mem_cons_self colored
  | fails empty failed => rcases nothing with none | blank <;> contradiction
  | @fills batch stack words empty answered stacked =>
      refine ⟨batch, answered, ?_⟩
      cases stack with
      | nil => exact stacked.nil_eq.symm
      | cons top rest =>
          rcases nothing with none | blank
          · cases none
          · cases blank
            have among : [] ∈ Batch.usable batch.palettes := stacked.mem_iff.1 List.mem_cons_self
            exact absurd rfl (Batch.mem_usable.1 among).2

namespace Session

/-- What generating does with what its call returned. -/
def conclude (s : Session) (mode : Mode) (fetched : Fetched) : Step Bool :=
  let s := { s with world := { s.world with supply := fetched.supply } }
  match fetched.outcome with
  | .error e =>
      let e := ActionError.ofFetch e
      { result := false
        session := { s with lastError := some e }
        log := fetched.log ++ [errorLine e]
        request := fetched.request }
  | .ok palette =>
      let done := Palette.apply s.settings palette s.world.supply.words
      let supply := { s.world.supply with words := done.words }
      let (store, seen) := s.store.set done.settings
      { result := done.applied
        session := { s with store, world := { s.world with supply } }
        seen
        log := fetched.log ++ [generatedLine mode done.applied]
        request := fetched.request }

theorem generate_eq (ask : Mode → UInt8 → Answer) (s : Session) (mode : Mode) :
    s.generate ask mode = s.clearError.conclude mode (s.world.supply.fetch ask mode) := rfl

variable {s : Session} {mode : Mode} {fetched : Fetched}

/-- Without an effect and without an error, what was returned was no palette, or one without
colors. -/
theorem outcome_of_declined (declined : (s.clearError.conclude mode fetched).result = false)
    (silent : (s.clearError.conclude mode fetched).session.lastError = none) :
    fetched.outcome = .ok none ∨ fetched.outcome = .ok (some []) := by
  unfold conclude at declined silent
  dsimp only at declined silent
  split at declined
  · next e failed =>
    rw [failed] at silent
    cases silent
  · next palette returned =>
    rw [returned]
    match palette, declined with
    | none, _ => exact .inl rfl
    | some [], _ => exact .inr rfl

/-- A session that generates alone, without an effect and without an error, was sent no palette
with colors. -/
theorem reply_of_declined {ask : Mode → UInt8 → Answer}
    (colored : [] ∉ s.world.supply.cache.get mode)
    (declined : (s.generate ask mode).result = false)
    (silent : (s.generate ask mode).session.lastError = none) :
    ∃ batch, (ask mode s.world.supply.fetcher.nextIndex).reply = .ok batch ∧
      Batch.usable batch.palettes = [] := by
  rw [generate_eq] at declined silent
  exact (s.world.supply.fetches ask mode).reply_of_nothing colored
    (outcome_of_declined declined silent)

end Session

namespace Pool

/-- **A call returns no palette only if the service had none for it.**  However calls that share
a cache take turns while they wait, one that returns none was sent a batch of palettes without
colors; one that was sent a palette with colors goes on and returns one, as does one that found the
cache not empty.
If the cache held only palettes with colors at first, so do all that are returned, and a session
that generates without an effect and without an error was sent none. -/
theorem unserved_of_nothing {cache : PaletteCache} {fetchers : Nat → Fetcher}
    {events : List Event} (cooperative : (quiet cache fetchers).Cooperative events) :
    let start := quiet cache fetchers
    let now := start.run events
    (∀ (place : Nat) (c : Call), now.calls[place]? = some c → c.stage = some (.done (.ok none)) →
        ∃ batch, start.Answered events place c.mode (.ok batch) ∧
          ∀ p ∈ batch.palettes, p = []) ∧
      (∀ before place batch words after mode,
        events = before ++ .act place (.settle (.ok batch)) words :: after →
          (start.run before).Asks place mode → (∃ p ∈ batch.palettes, p ≠ []) →
            (2 ≤ after.length → now.Serves place mode) ∧
              (after.length < 2 → ∀ words, now.Allows (.act place .step words))) ∧
      (∀ before place words after c, events = before ++ .act place .step words :: after →
        (start.run before).calls[place]? = some c → c.stage = some .looking →
          (start.run before).cache.get c.mode ≠ [] → now.Serves place c.mode) ∧
      ((∀ mode, [] ∉ cache.get mode) →
        (∀ (place : Nat) (c : Call) (palette : Palette), now.calls[place]? = some c →
          c.stage = some (.done (.ok (some palette))) → palette ≠ []) ∧
        ∀ (s : Session) (place : Nat) (c : Call) (fetched : Fetched), now.calls[place]? = some c →
          c.stage = some (.done fetched.outcome) →
            (s.clearError.conclude c.mode fetched).result = false →
              (s.clearError.conclude c.mode fetched).session.lastError = none →
                ∃ batch, start.Answered events place c.mode (.ok batch) ∧
                  ∀ p ∈ batch.palettes, p = []) ∧
      ∀ ask (s : Session) mode, [] ∉ s.world.supply.cache.get mode →
        (s.generate ask mode).result = false →
          (s.generate ask mode).session.lastError = none →
            ∃ batch, (ask mode s.world.supply.fetcher.nextIndex).reply = .ok batch ∧
              ∀ p ∈ batch.palettes, p = [] := by
  intro start now
  have unserved : ∀ (place : Nat) (c : Call), now.calls[place]? = some c →
      c.stage = some (.done (.ok none)) → ∃ batch,
        start.Answered events place c.mode (.ok batch) ∧ ∀ p ∈ batch.palettes, p = [] := by
    intro place c there returned
    obtain ⟨batch, answered, nothing⟩ := answered_of_none cooperative there returned
    exact ⟨batch, answered, Batch.usable_eq_nil_iff.1 nothing⟩
  refine ⟨unserved, ?_, ?_, ?_, ?_⟩
  · intro before place batch words after mode order asks ⟨p, sent, colored⟩
    have usable : Batch.usable batch.palettes ≠ [] :=
      fun nothing => colored (Batch.usable_eq_nil_iff.1 nothing p sent)
    subst order
    exact ⟨served_of_answer cooperative asks usable, allows_of_answer cooperative asks⟩
  · intro before place words after c order there looks held
    subst order
    exact served_of_held there looks held
  · intro colored
    have clean : now.Clean := (clean_quiet colored fetchers).run events
    refine ⟨fun place c palette there returned => clean.ne_nil there returned, ?_⟩
    intro s place c fetched there returned declined silent
    rcases Session.outcome_of_declined declined silent with none | blank
    · rw [none] at returned
      exact unserved place c there returned
    · rw [blank] at returned
      exact absurd rfl (clean.ne_nil there returned)
  · intro ask s mode colored declined silent
    obtain ⟨batch, reply, nothing⟩ := Session.reply_of_declined colored declined silent
    exact ⟨batch, reply, Batch.usable_eq_nil_iff.1 nothing⟩

/-- Two calls overlap, and each is sent a palette without colors.  The first is sent another
one. -/
def oneAnswered : List Event :=
  let words : WordSource := ⟨fun _ => 0, 0⟩
  let goes (place : Nat) : Event := .act place .step words
  [.call 0 .light, .call 0 .light, goes 0, goes 0, goes 0, goes 1, goes 1, goes 1,
    .act 0 (.settle (.ok ⟨[[], [⟨"red"⟩]]⟩)) words, goes 0, goes 0,
    .act 1 (.settle (.ok ⟨[[]]⟩)) words, goes 1, goes 1]

/-- The first call returns a palette.  A session for which the second call was made generates
without an effect. -/
theorem unserved_of_nothing_oneAnswered :
    let start := quiet .empty fun _ => .new
    let fetched : Fetched := ⟨.ok none, ⟨.empty, .new, ⟨fun _ => 0, 0⟩⟩, none, []⟩
    let s := Session.start ⟨"notes"⟩ ⟨Disk.blank [], fetched.supply⟩ .default
    start.Cooperative oneAnswered ∧ (start.run oneAnswered).Serves 0 .light ∧
      (s.clearError.conclude .light fetched).result = false ∧
      ∃ batch, start.Answered oneAnswered 1 .light (.ok batch) ∧ ∀ p ∈ batch.palettes, p = [] := by
  intro start fetched s
  have cooperative : start.Cooperative oneAnswered := by decide +kernel
  have declined : (s.clearError.conclude .light fetched).result = false := rfl
  obtain ⟨-, served, -, colored, -⟩ := unserved_of_nothing cooperative
  obtain ⟨-, unserved⟩ := colored fun mode => by cases mode <;> exact List.not_mem_nil
  refine ⟨cooperative, ?_, declined, unserved s 1 _ fetched rfl rfl declined rfl⟩
  refine (served (oneAnswered.take 8) 0 ⟨[[], [⟨"red"⟩]]⟩ _ (oneAnswered.drop 9) .light rfl
    ⟨_, 1, rfl, rfl, rfl⟩ ⟨[⟨"red"⟩], ?_, ?_⟩).1 ?_
  · decide
  · decide
  · decide

end Pool

end ThemeEditor
