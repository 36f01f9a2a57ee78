/-
# ThemeEditor.Theme.Fetch -- getting a palette, from the cache or the service

A call looks into the cache first.  Only when that is empty does it claim a
theme file, put up the loading sign, and ask the service; when the answer is
there it takes the sign down, puts the palettes that have colors into the cache,
and takes one from there.

The call is a machine of small steps (`Stage.step`), because calls overlap: while
one waits for its answer (`Stage.waiting`) others may look, fill and take.
`Stage.settle` hands a waiting call its answer and `Stage.abandon` gives it up.
`Supply.fetch` runs one call alone from beginning to end.
-/
import ThemeEditor.Log.Line
import ThemeEditor.Palette.Cache
import ThemeEditor.Theme.Error
import ThemeEditor.Theme.Fetcher
import ThemeEditor.Theme.File

namespace ThemeEditor

set_option autoImplicit false

open ThemeEditor.Random (WordSource)

/-- What the service answers: a batch, or a failure. -/
abbrev Reply := Except FetchError Batch

/-- What a call returns: a palette, none if the service had none, or a failure. -/
abbrev Outcome := Except FetchError (Option Palette)

/-- The reply of a service whose answer has this body. -/
def Reply.ofBody (url body : String) : Reply :=
  match Batch.decode body with
  | .ok batch => .ok batch
  | .error r => .error (.decode url r.message)

/-- What a call works on: the cache, the fetcher, and random words. -/
structure Supply where
  cache : PaletteCache
  fetcher : Fetcher
  words : WordSource

/-- How far a call has come. -/
inductive Stage where
  /-- It is about to look into the cache. -/
  | looking
  /-- It found the cache empty. -/
  | missed
  /-- It has a theme file to ask for. -/
  | claimed (index : UInt8)
  /-- Its request is under way. -/
  | waiting (index : UInt8)
  /-- Its answer is there. -/
  | settled (reply : Reply)
  /-- Its batch is in the cache. -/
  | refilled
  /-- It has returned. -/
  | done (outcome : Outcome)

/-- The palettes of a batch that have colors. -/
def Batch.usable (palettes : List Palette) : List Palette :=
  palettes.filter fun p => !p.isEmpty

@[simp] theorem Batch.mem_usable {palettes : List Palette} {p : Palette} :
    p ∈ Batch.usable palettes ↔ p ∈ palettes ∧ p ≠ [] := by
  simp [usable]

/-- A palette with colors is usable as often as the batch has it. -/
theorem Batch.count_usable {palettes : List Palette} {p : Palette} (colored : p ≠ []) :
    (Batch.usable palettes).count p = palettes.count p :=
  List.count_filter (by simpa using colored)

theorem Batch.usable_eq_nil_iff {palettes : List Palette} :
    Batch.usable palettes = [] ↔ ∀ p ∈ palettes, p = [] := by
  simp [List.eq_nil_iff_forall_not_mem]

namespace Supply

/-- The supply with the usable palettes of a batch, shuffled, in the cache. -/
def refill (s : Supply) (mode : Mode) (batch : Batch) : Supply :=
  let (entries, words) := Random.shuffle batch.palettes s.words
  let (cache, words) := s.cache.fill mode (Batch.usable entries) words
  { s with cache, words }

end Supply

namespace Stage

/-- One step of a call.  A waiting call and one that has returned stay as they are. -/
def step (mode : Mode) : Stage → Supply → Stage × Supply
  | looking, s =>
      match s.cache.take mode with
      | (some p, cache) => (done (.ok (some p)), { s with cache })
      | (none, _) => (missed, s)
  | missed, s =>
      let (index, fetcher) := s.fetcher.claim
      (claimed index, { s with fetcher })
  | claimed index, s => (waiting index, { s with fetcher := s.fetcher.setLoading mode true })
  | waiting index, s => (waiting index, s)
  | settled (.error e), s => (done (.error e), s)
  | settled (.ok batch), s => (refilled, s.refill mode batch)
  | refilled, s =>
      let (palette, cache) := s.cache.take mode
      (done (.ok palette), { s with cache })
  | done outcome, s => (done outcome, s)

/-- Hands a waiting call its answer. -/
def settle (mode : Mode) (reply : Reply) : Stage → Supply → Stage × Supply
  | waiting _, s => (settled reply, { s with fetcher := s.fetcher.setLoading mode false })
  | stage, s => (stage, s)

/-- Gives a call up; a request under way is forgotten. -/
def abandon (mode : Mode) : Stage → Supply → Supply
  | waiting _, s => { s with fetcher := s.fetcher.setLoading mode false }
  | _, s => s

/-- Runs a call until it waits or returns. -/
def start (mode : Mode) (s : Supply) : Stage × Supply :=
  let (stage, s) := step mode looking s
  let (stage, s) := step mode stage s
  step mode stage s

/-- Runs a waiting call to its end. -/
def finish (mode : Mode) (reply : Reply) (stage : Stage) (s : Supply) : Stage × Supply :=
  let (stage, s) := settle mode reply stage s
  let (stage, s) := step mode stage s
  step mode stage s

end Stage

/-- A request: the mode, the theme file, and the loading signs while it was made. -/
structure Request where
  mode : Mode
  index : UInt8
  loading : PerMode Bool
  deriving DecidableEq, Repr

/-- An answer of the service with the lines it logged. -/
structure Answer where
  reply : Reply
  log : List Log.Line

/-- What one call did. -/
structure Fetched where
  outcome : Outcome
  supply : Supply
  request : Option Request
  log : List Log.Line

namespace Supply

/-- The lines of a call up to its request. -/
def startLog (mode : Mode) : Option UInt8 → List Log.Line
  | none => [⟨.debug, .fetcher, s!"Serving {mode.name} palette from cache"⟩]
  | some index =>
      [⟨.info, .fetcher, s!"Palette cache for {mode.name} is empty, " ++
        s!"fetching theme file {ThemeFile.twoDigits index.toNat}"⟩]

/-- The lines of a call after its answer; `held` palettes were in the cache before. -/
def finishLog (mode : Mode) (held : Nat) : Reply → List Log.Line
  | .error e => [⟨.error, .fetcher, s!"Failed to fetch {mode.name} themes: {e.message}"⟩]
  | .ok batch =>
      let count := (Batch.usable batch.palettes).length
      [⟨.info, .fetcher, s!"Fetched {count} {mode.name} palettes"⟩,
       ⟨.debug, .palettes,
        s!"Palette cache for {mode.name} now holds {held + count} entries"⟩]

/-- Runs one call while nobody else uses the supply. -/
def fetch (ask : Mode → UInt8 → Answer) (mode : Mode) (s : Supply) : Fetched :=
  match Stage.start mode s with
  | (.waiting index, s) =>
      let answer := ask mode index
      let request : Request := ⟨mode, index, s.fetcher.loading⟩
      let log := startLog mode (some index) ++ answer.log ++
        finishLog mode (s.cache.size mode) answer.reply
      match Stage.finish mode answer.reply (.waiting index) s with
      | (.done outcome, s) => ⟨outcome, s, some request, log⟩
      | (_, s) => ⟨.ok none, s, some request, log⟩
  | (.done outcome, s) => ⟨outcome, s, none, startLog mode none⟩
  | (_, s) => ⟨.ok none, s, none, []⟩

end Supply

end ThemeEditor
