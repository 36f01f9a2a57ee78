/-
# ThemeEditor.Proofs.Theme.Alone -- calls that nobody else meets

A supply is at rest when no request is under way and the next theme file is one of
those that there are (`Fetcher.AtRest`).  A call that runs alone from beginning to
end leaves a supply at rest as one.  It moves on in the rotation exactly when it
asks the service, and by one file (`Fetcher.afterRequest`).

Such a call takes a palette from the cache, or asks for a file and fails, or asks for
one and takes a palette of what that brings (`Supply.Fetches`).  When it fails, that it
moved on is all that it did: the palettes and the random words are as they were
(`Supply.fetch_of_error`).
-/
import ThemeEditor.Proofs.Random.Arrangement
import ThemeEditor.Proofs.Theme.Rotation
import ThemeEditor.Theme.Fetch

namespace ThemeEditor

set_option autoImplicit false

open ThemeEditor.Random (WordSource)

namespace Fetcher

/-- No request is under way, and the next theme file is one that there is. -/
structure AtRest (f : Fetcher) : Prop where
  idle : f.loading = .both false
  first : 1 ≤ f.nextIndex
  last : f.nextIndex ≤ f.fileCount
  most : f.fileCount ≤ maxFileCount

/-- The fetcher after a request for a mode that has ended. -/
def afterRequest (f : Fetcher) (mode : Mode) : Fetcher :=
  (f.claim.2.setLoading mode true).setLoading mode false

/-- The next file in the rotation: the first one follows the last. -/
def following (f : Fetcher) : UInt8 :=
  if f.nextIndex = f.fileCount then 1 else f.nextIndex + 1

variable {f : Fetcher}

theorem AtRest.inRange (rest : f.AtRest) : f.InRange :=
  ⟨rest.first, rest.last, rest.most⟩

theorem InRange.toNat_following (inRange : f.InRange) :
    f.following.toNat =
      if f.nextIndex.toNat = f.fileCount.toNat then 1 else f.nextIndex.toNat + 1 := by
  obtain ⟨-, last, most⟩ := inRange.toNat
  unfold following
  simp only [UInt8.toNat_inj]
  split
  · rfl
  · -- there are 99 files at most
    have small : f.nextIndex.toNat + 1 < 256 := by omega
    simpa [UInt8.toNat_add] using Nat.mod_eq_of_lt small

theorem AtRest.nextIndex_claim (rest : f.AtRest) : f.claim.2.nextIndex = f.following := by
  obtain ⟨-, last, -⟩ := rest.inRange.toNat
  rw [← UInt8.toNat_inj, rest.inRange.toNat_following, rest.inRange.nextIndex_claim]
  split
  · next isLast => rw [isLast, Nat.mod_self]
  · have below : f.nextIndex.toNat < f.fileCount.toNat := by omega
    rw [Nat.mod_eq_of_lt below]

theorem AtRest.afterRequest (rest : f.AtRest) (mode : Mode) : (f.afterRequest mode).AtRest := by
  have loading : (f.afterRequest mode).loading = (f.loading.set mode true).set mode false := rfl
  have claimed := rest.inRange.claim
  refine ⟨?_, claimed.first, claimed.last, claimed.most⟩
  rw [loading, rest.idle]
  cases mode <;> rfl

end Fetcher

namespace Supply

/-- What a call alone can do, from a supply to what it returns, requests and leaves. -/
inductive Fetches (ask : Mode → UInt8 → Answer) (mode : Mode) (s : Supply) :
    Outcome → Option Request → Supply → Prop where
  /-- It takes the palette on top. -/
  | hit {p : Palette} {rest : List Palette} (held : s.cache.get mode = p :: rest) :
      Fetches ask mode s (.ok (some p)) none { s with cache := s.cache.set mode rest }
  /-- It finds no palette, asks for a file, and fails. -/
  | fails {e : FetchError} (empty : s.cache.get mode = [])
      (failed : (ask mode s.fetcher.nextIndex).reply = .error e) :
      Fetches ask mode s (.error e)
        (some ⟨mode, s.fetcher.nextIndex, s.fetcher.loading.set mode true⟩)
        { s with fetcher := s.fetcher.afterRequest mode }
  /-- It finds no palette, asks for a file, and takes the top of what that brings. -/
  | fills {batch : Batch} {stack : List Palette} {words : WordSource}
      (empty : s.cache.get mode = [])
      (answered : (ask mode s.fetcher.nextIndex).reply = .ok batch)
      (stacked : stack.Perm (Batch.usable batch.palettes)) :
      Fetches ask mode s (.ok stack.head?)
        (some ⟨mode, s.fetcher.nextIndex, s.fetcher.loading.set mode true⟩)
        ⟨s.cache.set mode stack.tail, s.fetcher.afterRequest mode, words⟩

/-- A refill puts the usable palettes of a batch on top, in some order. -/
theorem exists_refill (s : Supply) (mode : Mode) (batch : Batch) :
    ∃ (stack : List Palette) (words : WordSource), stack.Perm (Batch.usable batch.palettes) ∧
      s.refill mode batch =
        ⟨s.cache.set mode (stack ++ s.cache.get mode), s.fetcher, words⟩ := by
  have shuffled := Random.perm_shuffle batch.palettes s.words
  have usable := shuffled.filter fun p => !p.isEmpty
  have stacked := Random.perm_shuffle (Batch.usable (Random.shuffle batch.palettes s.words).1)
    (Random.shuffle batch.palettes s.words).2
  exact ⟨_, _, (List.reverse_perm _).trans (stacked.trans usable), rfl⟩

/-- The supply while a request is under way. -/
def requesting (s : Supply) (mode : Mode) : Supply :=
  { s with fetcher := s.fetcher.claim.2.setLoading mode true }

theorem start_eq (mode : Mode) (s : Supply) :
    Stage.start mode s =
      match s.cache.get mode with
      | p :: rest => (.done (.ok (some p)), { s with cache := s.cache.set mode rest })
      | [] => (.waiting s.fetcher.nextIndex, s.requesting mode) := by
  simp only [Stage.start, Stage.step, PaletteCache.take]
  cases s.cache.get mode <;> rfl

/-- A call whose batch comes to no others takes one of it. -/
theorem finish_ok {mode : Mode} {s : Supply} (empty : s.cache.get mode = []) (batch : Batch) :
    ∃ (stack : List Palette) (words : WordSource), stack.Perm (Batch.usable batch.palettes) ∧
      Stage.finish mode (.ok batch) (.waiting s.fetcher.nextIndex) (s.requesting mode) =
        (.done (.ok stack.head?),
          ⟨s.cache.set mode stack.tail, s.fetcher.afterRequest mode, words⟩) := by
  have settled : Stage.finish mode (.ok batch) (.waiting s.fetcher.nextIndex) (s.requesting mode) =
      Stage.step mode .refilled
        (refill { s with fetcher := s.fetcher.afterRequest mode } mode batch) := rfl
  obtain ⟨stack, words, stacked, filled⟩ :=
    exists_refill { s with fetcher := s.fetcher.afterRequest mode } mode batch
  refine ⟨stack, words, stacked, ?_⟩
  rw [settled, filled, empty, List.append_nil]
  simp only [Stage.step, PaletteCache.take, PerMode.get_set, if_true]
  cases stack with
  | nil => rfl
  | cons p rest =>
      simp only [PerMode.set_set]
      rfl

theorem fetches (s : Supply) (ask : Mode → UInt8 → Answer) (mode : Mode) :
    Fetches ask mode s (s.fetch ask mode).outcome (s.fetch ask mode).request
      (s.fetch ask mode).supply := by
  cases held : s.cache.get mode with
  | cons p rest =>
      simp only [fetch, start_eq, held]
      exact .hit held
  | nil =>
      simp only [fetch, start_eq, held]
      cases answered : (ask mode s.fetcher.nextIndex).reply with
      | error e => exact .fails held answered
      | ok batch =>
          obtain ⟨stack, words, stacked, finished⟩ := finish_ok held batch
          rw [finished]
          exact .fills held answered stacked

section

variable {ask : Mode → UInt8 → Answer} {mode : Mode} {s after : Supply} {outcome : Outcome}
  {request : Option Request}

theorem Fetches.fetcher (did : Fetches ask mode s outcome request after) :
    after.fetcher = s.fetcher ∨ after.fetcher = s.fetcher.afterRequest mode := by
  cases did with
  | hit held => exact .inl rfl
  | fails empty failed => exact .inr rfl
  | fills empty answered stacked => exact .inr rfl

theorem Fetches.of_error {e : FetchError} (did : Fetches ask mode s (.error e) request after) :
    after = { s with fetcher := s.fetcher.afterRequest mode } := by
  cases did with
  | fails empty failed => rfl

end

/-- A call leaves the fetcher as it is, or asks for one file. -/
theorem fetcher_fetch (ask : Mode → UInt8 → Answer) (mode : Mode) (s : Supply) :
    (s.fetch ask mode).supply.fetcher = s.fetcher ∨
      (s.fetch ask mode).supply.fetcher = s.fetcher.afterRequest mode :=
  (s.fetches ask mode).fetcher

/-- A call that fails has asked for a file, and does nothing else. -/
theorem fetch_of_error {ask : Mode → UInt8 → Answer} {mode : Mode} {s : Supply} {e : FetchError}
    (failed : (s.fetch ask mode).outcome = .error e) :
    (s.fetch ask mode).supply = { s with fetcher := s.fetcher.afterRequest mode } := by
  have did := s.fetches ask mode
  rw [failed] at did
  exact did.of_error

end Supply

end ThemeEditor
