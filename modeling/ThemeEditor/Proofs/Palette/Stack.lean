/-
# ThemeEditor.Proofs.Palette.Stack -- which palette is taken next

The cache holds, for each mode, fillings on top of each other.  The order inside a
filling is open, the order of the fillings is not: what is taken belongs to the
newest filling that has a palette left.

What was done to the cache, as its users see it, is a list of events: the palettes
that were put in, in the order they came, the palettes that were handed out, and the
clearings.  An `Account` keeps the fillings of one mode, and charges each palette
that was handed out to the newest filling that has one left; it knows nothing of how
the palettes lie.  The stack is, filling by filling, what the account has left
(`Stacked`), and so the cache answers as the account demands
(`takes_from_newest_filling`).
-/
import Mathlib.Algebra.Order.Group.Multiset
import Mathlib.Data.List.DropRight
import Mathlib.Tactic.Abel
import ThemeEditor.Palette.Cache
import ThemeEditor.Proofs.Random.Arrangement

namespace ThemeEditor

set_option autoImplicit false

open ThemeEditor.Random (WordSource)

/-! ## Uses of the cache -/

/-- What may be done to the cache; a filling says what the shuffle draws. -/
inductive CacheUse where
  | fill (mode : Mode) (palettes : List Palette) (words : WordSource)
  | take (mode : Mode)
  | clear

/-- What a use of the cache was, to those who use it. -/
inductive CacheEvent where
  | filled (mode : Mode) (palettes : List Palette)
  | took (mode : Mode) (palette? : Option Palette)
  | cleared
  deriving DecidableEq

/-- Whether a use is one of a mode's. -/
def CacheUse.concerns (mode : Mode) : CacheUse → Bool
  | fill m _ _ => m = mode
  | take m => m = mode
  | clear => true

/-- Whether an event is one of a mode's. -/
def CacheEvent.concerns (mode : Mode) : CacheEvent → Bool
  | filled m _ => m = mode
  | took m _ => m = mode
  | cleared => true

namespace PaletteCache

/-- Uses the cache once. -/
def use (cache : PaletteCache) : CacheUse → CacheEvent × PaletteCache
  | .fill mode palettes words => (.filled mode palettes, (cache.fill mode palettes words).1)
  | .take mode => (.took mode (cache.take mode).1, (cache.take mode).2)
  | .clear => (.cleared, cache.clear)

/-- The cache after some uses. -/
def run (cache : PaletteCache) (uses : List CacheUse) : PaletteCache :=
  uses.foldl (fun cache u => (cache.use u).2) cache

/-- What some uses were. -/
def events : PaletteCache → List CacheUse → List CacheEvent
  | _, [] => []
  | cache, u :: uses => (cache.use u).1 :: events (cache.use u).2 uses

theorem run_snoc (cache : PaletteCache) (uses : List CacheUse) (u : CacheUse) :
    cache.run (uses ++ [u]) = ((cache.run uses).use u).2 := by
  simp only [run, List.foldl_append, List.foldl_cons, List.foldl_nil]

theorem events_snoc (cache : PaletteCache) (uses : List CacheUse) (u : CacheUse) :
    cache.events (uses ++ [u]) = cache.events uses ++ [((cache.run uses).use u).1] := by
  induction uses generalizing cache with
  | nil => rfl
  | cons first rest ih =>
      simp only [List.cons_append, events, ih]
      rfl

end PaletteCache

/-! ## What the events say of a mode -/

namespace CacheEvent

/-- The palettes that an event put in for a mode. -/
def filling? (mode : Mode) : CacheEvent → Option (List Palette)
  | filled m palettes => if m = mode then some palettes else none
  | _ => none

/-- The palette that an event handed out for a mode. -/
def returned? (mode : Mode) : CacheEvent → Option Palette
  | took m palette? => if m = mode then palette? else none
  | _ => none

/-- The fillings for a mode, the oldest first. -/
def fillings (mode : Mode) (events : List CacheEvent) : List (List Palette) :=
  events.filterMap (filling? mode)

/-- The palettes handed out for a mode, the first of them first. -/
def returned (mode : Mode) (events : List CacheEvent) : List Palette :=
  events.filterMap (returned? mode)

/-- The events since the last clearing. -/
def sinceClear (events : List CacheEvent) : List CacheEvent :=
  events.rtakeWhile (· ≠ cleared)

theorem fillings_snoc (mode : Mode) (events : List CacheEvent) (e : CacheEvent) :
    fillings mode (events ++ [e]) = fillings mode events ++ (e.filling? mode).toList := by
  simp only [fillings, List.filterMap_eq_flatMap_toList, List.flatMap_append,
    List.flatMap_singleton]

theorem returned_snoc (mode : Mode) (events : List CacheEvent) (e : CacheEvent) :
    returned mode (events ++ [e]) = returned mode events ++ (e.returned? mode).toList := by
  simp only [returned, List.filterMap_eq_flatMap_toList, List.flatMap_append,
    List.flatMap_singleton]

theorem sinceClear_cleared (events : List CacheEvent) : sinceClear (events ++ [cleared]) = [] := by
  simp [sinceClear]

theorem sinceClear_snoc (events : List CacheEvent) {e : CacheEvent} (other : e ≠ cleared) :
    sinceClear (events ++ [e]) = sinceClear events ++ [e] :=
  List.rtakeWhile_concat_pos _ _ _ (by simpa using other)

end CacheEvent

/-! ## The account of a mode -/

/-- Palettes that were put in together, and those of them that were handed out. -/
structure Filling where
  palettes : List Palette
  taken : List Palette
  deriving DecidableEq

namespace Filling

/-- The palettes of a filling that were not handed out. -/
def left (filling : Filling) : Multiset Palette :=
  (filling.palettes : Multiset Palette) - (filling.taken : Multiset Palette)

/-- Charges a palette to the first filling that has one left. -/
def charge (p : Palette) : List Filling → List Filling
  | [] => []
  | filling :: older =>
      if filling.left = 0 then filling :: charge p older
      else { filling with taken := filling.taken ++ [p] } :: older

/-- What may be handed out next: a palette that is left of the newest filling with any left, and
nothing when no filling has any left. -/
def Next (fillings : List Filling) : Option Palette → Prop
  | none => ∀ filling ∈ fillings, filling.left = 0
  | some p => ∃ newer filling older, fillings = newer ++ filling :: older ∧
      (∀ usedUp ∈ newer, usedUp.left = 0) ∧ p ∈ filling.left

end Filling

/-- The fillings of a mode, the newest first: those since the last clearing, and those before. -/
structure Account where
  live : List Filling
  gone : List Filling

namespace Account

/-- What an event does to the account of a mode. -/
def record (mode : Mode) (account : Account) : CacheEvent → Account
  | .filled m palettes =>
      if m = mode then { account with live := ⟨palettes, []⟩ :: account.live } else account
  | .took m (some p) =>
      if m = mode then { account with live := Filling.charge p account.live } else account
  | .took _ none => account
  | .cleared => ⟨[], account.live ++ account.gone⟩

/-- The account of a mode after some events. -/
def after (mode : Mode) (events : List CacheEvent) : Account :=
  events.foldl (record mode) ⟨[], []⟩

/-- All fillings. -/
def all (account : Account) : List Filling :=
  account.live ++ account.gone

theorem after_snoc (mode : Mode) (events : List CacheEvent) (e : CacheEvent) :
    after mode (events ++ [e]) = (after mode events).record mode e := by
  simp only [after, List.foldl_append, List.foldl_cons, List.foldl_nil]

end Account

/-! ## The account says what the events say -/

namespace Filling

variable {fillings : List Filling} {p : Palette}

theorem map_palettes_charge (p : Palette) (fillings : List Filling) :
    (charge p fillings).map palettes = fillings.map palettes := by
  induction fillings with
  | nil => rfl
  | cons filling older ih =>
      unfold charge
      split
      · rw [List.map_cons, ih, List.map_cons]
      · rfl

theorem charge_append {newer older : List Filling} {filling : Filling}
    (usedUp : ∀ filling ∈ newer, filling.left = 0) (some : filling.left ≠ 0) :
    charge p (newer ++ filling :: older) =
      newer ++ { filling with taken := filling.taken ++ [p] } :: older := by
  induction newer with
  | nil => rw [List.nil_append, charge, if_neg some, List.nil_append]
  | cons first newer ih =>
      obtain ⟨none, usedUp⟩ := List.forall_mem_cons.1 usedUp
      rw [List.cons_append, charge, if_pos none, ih usedUp, List.cons_append]

/-- A palette that is next is charged to one filling. -/
theorem Next.taken_charge (next : Next fillings (some p)) :
    ((charge p fillings).flatMap taken).Perm (fillings.flatMap taken ++ [p]) := by
  obtain ⟨newer, filling, older, rfl, usedUp, among⟩ := next
  have some : filling.left ≠ 0 := fun none => Multiset.notMem_zero p (none ▸ among)
  rw [charge_append usedUp some, ← Multiset.coe_eq_coe]
  simp only [List.flatMap_append, List.flatMap_cons, ← Multiset.coe_add]
  abel

end Filling

namespace Account

variable {mode : Mode}

theorem gone_record (account : Account) {e : CacheEvent} (other : e ≠ .cleared) :
    (account.record mode e).gone = account.gone := by
  cases e with
  | filled m palettes => rw [record]; split <;> rfl
  | took m palette? =>
      cases palette? with
      | none => rfl
      | some p => rw [record]; split <;> rfl
  | cleared => exact absurd rfl other

/-- An event that does not clear adds what it put in. -/
theorem map_palettes_record (account : Account) {e : CacheEvent} (other : e ≠ .cleared) :
    (account.record mode e).live.map Filling.palettes =
      (e.filling? mode).toList ++ account.live.map Filling.palettes := by
  cases e with
  | filled m palettes =>
      rw [record, CacheEvent.filling?]
      split <;> rfl
  | took m palette? =>
      cases palette? with
      | none => rfl
      | some p =>
          rw [record]
          split
          · exact Filling.map_palettes_charge p _
          · rfl
  | cleared => exact absurd rfl other

/-- An event that does not clear charges what it handed out, if that was next. -/
theorem taken_record (account : Account) {e : CacheEvent} (other : e ≠ .cleared)
    (next : ∀ p, e.returned? mode = some p → Filling.Next account.live (some p)) :
    ((account.record mode e).live.flatMap Filling.taken).Perm
      (account.live.flatMap Filling.taken ++ (e.returned? mode).toList) := by
  cases e with
  | filled m palettes =>
      have nothing : (CacheEvent.filled m palettes).returned? mode = none := rfl
      rw [record, nothing, Option.toList_none, List.append_nil]
      split <;> exact .rfl
  | took m palette? =>
      rw [CacheEvent.returned?] at next ⊢
      cases palette? with
      | none =>
          rw [ite_self, Option.toList_none, List.append_nil]
          exact .rfl
      | some p =>
          rw [record]
          split
          · next same =>
            rw [if_pos same] at next
            exact (next p rfl).taken_charge
          · rw [Option.toList_none, List.append_nil]
  | cleared => exact absurd rfl other

/-- The fillings of an account are those of the mode. -/
theorem fillings_after (mode : Mode) (events : List CacheEvent) :
    (after mode events).live.map Filling.palettes =
        (CacheEvent.fillings mode (CacheEvent.sinceClear events)).reverse ∧
      (after mode events).all.map Filling.palettes =
        (CacheEvent.fillings mode events).reverse := by
  induction events using List.reverseRecOn with
  | nil => exact ⟨rfl, rfl⟩
  | append_singleton events e ih =>
      rw [all, List.map_append] at ih ⊢
      rw [after_snoc, CacheEvent.fillings_snoc, List.reverse_append, ← ih.2]
      by_cases clears : e = .cleared
      · subst clears
        rw [CacheEvent.sinceClear_cleared]
        exact ⟨rfl, List.map_append⟩
      · have newest : (e.filling? mode).toList.reverse = (e.filling? mode).toList := by
          cases e.filling? mode <;> rfl
        rw [CacheEvent.sinceClear_snoc _ clears, CacheEvent.fillings_snoc, List.reverse_append,
          ← ih.1, newest, gone_record _ clears, map_palettes_record _ clears, List.append_assoc]
        exact ⟨rfl, rfl⟩

/-- The account of a mode explains some events: its fillings are those that were put in, what was
handed out is charged to them, and to none more than it had. -/
structure Explains (account : Account) (mode : Mode) (events : List CacheEvent) : Prop where
  fillings : account.all.map Filling.palettes = (CacheEvent.fillings mode events).reverse
  since : account.live.map Filling.palettes =
    (CacheEvent.fillings mode (CacheEvent.sinceClear events)).reverse
  taken : (account.all.flatMap Filling.taken).Perm (CacheEvent.returned mode events)
  takenSince : (account.live.flatMap Filling.taken).Perm
    (CacheEvent.returned mode (CacheEvent.sinceClear events))
  once : ∀ filling ∈ account.all, filling.taken.Subperm filling.palettes

end Account

/-! ## The stack is what the account has left -/

/-- A stack on which the fillings lie one on the other, the newest on top: of each lies there, in
some order, what was not handed out. -/
inductive Stacked : List Filling → List Palette → Prop where
  | nothing : Stacked [] []
  | on {filling : Filling} {older : List Filling} {block stack : List Palette}
      (rest : (filling.taken ++ block).Perm filling.palettes) (below : Stacked older stack) :
      Stacked (filling :: older) (block ++ stack)

namespace Stacked

variable {fillings : List Filling} {stack : List Palette} {p : Palette}

theorem left_eq {filling : Filling} {block : List Palette}
    (rest : (filling.taken ++ block).Perm filling.palettes) :
    filling.left = (block : Multiset Palette) := by
  have all : (block : Multiset Palette) + filling.taken = filling.palettes :=
    Multiset.coe_eq_coe.2 (List.perm_append_comm.trans rest)
  exact (Multiset.eq_sub_of_add_eq all).symm

/-- On an empty stack no filling has anything left. -/
theorem usedUp (stacked : Stacked fillings []) : ∀ filling ∈ fillings, filling.left = 0 := by
  generalize empty : ([] : List Palette) = stack at stacked
  induction stacked with
  | nothing => nofun
  | on rest below ih =>
      obtain ⟨rfl, rfl⟩ := List.append_eq_nil_iff.1 empty.symm
      rw [List.forall_mem_cons]
      exact ⟨left_eq rest, ih rfl⟩

/-- What lies on top is left of the newest filling with any left, and is charged to that. -/
theorem top (stacked : Stacked fillings (p :: stack)) :
    Filling.Next fillings (some p) ∧ Stacked (Filling.charge p fillings) stack := by
  generalize found : p :: stack = whole at stacked
  induction stacked with
  | nothing => cases found
  | @on filling older block below rest stacked ih =>
      have left := left_eq rest
      cases block with
      | nil =>
          have none : filling.left = 0 := left
          obtain ⟨⟨newer, next, older', rfl, usedUp, among⟩, charged⟩ := ih found
          refine ⟨⟨filling :: newer, next, older', rfl, ?_, among⟩, ?_⟩
          · exact List.forall_mem_cons.2 ⟨none, usedUp⟩
          · rw [Filling.charge, if_pos none]
            exact .on rest charged
      | cons first block =>
          obtain ⟨rfl, rfl⟩ := List.cons.inj found
          have among : p ∈ filling.left := by
            rw [left]
            exact List.mem_cons_self
          have some : filling.left ≠ 0 := fun none => Multiset.notMem_zero p (none ▸ among)
          refine ⟨⟨[], filling, older, rfl, nofun, among⟩, ?_⟩
          rw [Filling.charge, if_neg some]
          refine .on ?_ stacked
          rwa [List.append_assoc, List.singleton_append]

/-- What is handed out next lies on top. -/
theorem next (stacked : Stacked fillings stack) : Filling.Next fillings stack.head? := by
  cases stack with
  | nil => exact stacked.usedUp
  | cons p stack => exact stacked.top.1

/-- Of no filling more was handed out than was put in. -/
theorem taken_subperm (stacked : Stacked fillings stack) :
    ∀ filling ∈ fillings, filling.taken.Subperm filling.palettes := by
  induction stacked with
  | nothing => nofun
  | on rest below ih =>
      rw [List.forall_mem_cons]
      exact ⟨(List.sublist_append_left _ _).subperm.trans rest.subperm, ih⟩

/-- Counted with multiplicity, the fillings are what was handed out and what lies there. -/
theorem perm (stacked : Stacked fillings stack) :
    (fillings.flatMap Filling.taken ++ stack).Perm (fillings.map Filling.palettes).flatten := by
  induction stacked with
  | nothing => exact .nil
  | @on filling older block below rest stacked ih =>
      simp only [List.flatMap_cons, List.map_cons, List.flatten_cons]
      have moved : (older.flatMap Filling.taken ++ (block ++ below)).Perm
          (block ++ (older.flatMap Filling.taken ++ below)) := List.perm_append_comm_assoc _ _ _
      calc filling.taken ++ older.flatMap Filling.taken ++ (block ++ below)
          = filling.taken ++ (older.flatMap Filling.taken ++ (block ++ below)) :=
            List.append_assoc _ _ _
        List.Perm _ (filling.taken ++ (block ++ (older.flatMap Filling.taken ++ below))) :=
            moved.append_left _
        _ = (filling.taken ++ block) ++ (older.flatMap Filling.taken ++ below) :=
            (List.append_assoc _ _ _).symm
        List.Perm _ (filling.palettes ++ (older.map Filling.palettes).flatten) := rest.append ih

end Stacked

/-! ## One use -/

namespace PaletteCache

variable {mode : Mode}

/-- What a use hands out is next, and what it leaves is what the account then has left. -/
theorem stacked_use {account : Account} {cache : PaletteCache}
    (stacked : Stacked account.live (cache.get mode)) (u : CacheUse) :
    (∀ p, (cache.use u).1.returned? mode = some p → Filling.Next account.live (some p)) ∧
      Stacked (account.record mode (cache.use u).1).live ((cache.use u).2.get mode) := by
  cases u with
  | clear => exact ⟨nofun, (cache.get_clear mode).symm ▸ .nothing⟩
  | fill m palettes words =>
      refine ⟨nofun, ?_⟩
      rw [use, Account.record, get_fill]
      by_cases same : m = mode
      · subst same
        rw [if_pos rfl, if_pos rfl]
        exact .on ((List.reverse_perm _).trans (Random.perm_shuffle palettes words)) stacked
      · rw [if_neg same, if_neg (Ne.symm same)]
        exact stacked
  | take m =>
      rw [use, get_take, take_fst, CacheEvent.returned?]
      by_cases same : m = mode
      · subst same
        rw [if_pos rfl, if_pos rfl]
        generalize cache.get m = held at stacked ⊢
        cases held with
        | nil => exact ⟨nofun, stacked⟩
        | cons p stack =>
            refine ⟨fun q top => Option.some.inj top ▸ stacked.top.1, ?_⟩
            rw [List.head?_cons, Account.record, if_pos rfl]
            exact stacked.top.2
      · rw [if_neg same, if_neg (Ne.symm same)]
        refine ⟨nofun, ?_⟩
        cases (cache.get m).head? with
        | none => exact stacked
        | some p => rw [Account.record, if_neg same]; exact stacked

/-! ## All uses -/

/-- Along a run, the stack is what the account has left. -/
theorem stacked_run (uses : List CacheUse) (mode : Mode) :
    Stacked (Account.after mode (empty.events uses)).live ((empty.run uses).get mode) := by
  induction uses using List.reverseRecOn with
  | nil => cases mode <;> exact .nothing
  | append_singleton uses u ih =>
      rw [events_snoc, Account.after_snoc, run_snoc]
      exact (stacked_use ih u).2

/-- What was handed out along a run is charged to the fillings. -/
theorem taken_run (uses : List CacheUse) (mode : Mode) :
    ((Account.after mode (empty.events uses)).live.flatMap Filling.taken).Perm
        (CacheEvent.returned mode (CacheEvent.sinceClear (empty.events uses))) ∧
      ((Account.after mode (empty.events uses)).all.flatMap Filling.taken).Perm
        (CacheEvent.returned mode (empty.events uses)) := by
  induction uses using List.reverseRecOn with
  | nil => exact ⟨.nil, .nil⟩
  | append_singleton uses u ih =>
      obtain ⟨live, all⟩ := ih
      have next := (stacked_use (stacked_run uses mode) u).1
      rw [events_snoc, Account.after_snoc, CacheEvent.returned_snoc]
      generalize ((empty.run uses).use u).1 = e at next ⊢
      by_cases clears : e = .cleared
      · subst clears
        have nothing : CacheEvent.cleared.returned? mode = none := rfl
        rw [CacheEvent.sinceClear_cleared, nothing, Option.toList_none, List.append_nil]
        exact ⟨.nil, all⟩
      · have charged := Account.taken_record _ clears next
        rw [CacheEvent.sinceClear_snoc _ clears, CacheEvent.returned_snoc, Account.all,
          List.flatMap_append, Account.gone_record _ clears]
        rw [Account.all, List.flatMap_append] at all
        refine ⟨charged.trans (live.append_right _), ?_⟩
        refine (charged.append_right _).trans (.trans ?_ (all.append_right _))
        rw [List.append_assoc, List.append_assoc]
        exact List.perm_append_comm.append_left _

/-- Of no filling, cleared or not, more is handed out along a run than was put in. -/
theorem once_run (uses : List CacheUse) (mode : Mode) :
    ∀ filling ∈ (Account.after mode (empty.events uses)).all,
      filling.taken.Subperm filling.palettes := by
  induction uses using List.reverseRecOn with
  | nil => nofun
  | append_singleton uses u ih =>
      have live := (stacked_run (uses ++ [u]) mode).taken_subperm
      rw [events_snoc, Account.after_snoc] at live ⊢
      generalize ((empty.run uses).use u).1 = e at live ⊢
      by_cases clears : e = .cleared
      · exact clears ▸ ih
      · rw [Account.all, List.forall_mem_append, Account.gone_record _ clears]
        exact ⟨live, (List.forall_mem_append.1 ih).2⟩

theorem explains_run (uses : List CacheUse) (mode : Mode) :
    (Account.after mode (empty.events uses)).Explains mode (empty.events uses) where
  fillings := (Account.fillings_after mode _).2
  since := (Account.fillings_after mode _).1
  taken := (taken_run uses mode).2
  takenSince := (taken_run uses mode).1
  once := once_run uses mode

/-- What was put in since the last clearing was handed out or still lies there. -/
theorem returned_append_perm (uses : List CacheUse) (mode : Mode) :
    let since := CacheEvent.sinceClear (empty.events uses)
    (CacheEvent.returned mode since ++ (empty.run uses).get mode).Perm
      (CacheEvent.fillings mode since).flatten := by
  have explains := explains_run uses mode
  have all := (stacked_run uses mode).perm
  rw [explains.since] at all
  exact (explains.takenSince.symm.append_right _).trans (all.trans (List.reverse_perm _).flatten)

/-! ## Each mode by itself -/

/-- A use of another mode leaves a mode's stack as it is. -/
theorem use_apart (cache : PaletteCache) {u : CacheUse} (apart : u.concerns mode = false) :
    (cache.use u).1.concerns mode = false ∧ (cache.use u).2.get mode = cache.get mode := by
  cases u with
  | clear => cases apart
  | fill m palettes words =>
      have other : mode ≠ m := fun same => of_decide_eq_false apart same.symm
      exact ⟨apart, (cache.get_fill m mode palettes words).trans (if_neg other)⟩
  | take m =>
      have other : mode ≠ m := fun same => of_decide_eq_false apart same.symm
      exact ⟨apart, (cache.get_take m mode).trans (if_neg other)⟩

/-- What a use of a mode does depends on its stack alone. -/
theorem use_congr {cache cache' : PaletteCache} (same : cache.get mode = cache'.get mode)
    {u : CacheUse} (concerned : u.concerns mode = true) :
    (cache.use u).1.concerns mode = true ∧ (cache.use u).1 = (cache'.use u).1 ∧
      (cache.use u).2.get mode = (cache'.use u).2.get mode := by
  cases u with
  | clear => exact ⟨rfl, rfl, by rw [use, use, get_clear, get_clear]⟩
  | fill m palettes words =>
      obtain rfl : m = mode := of_decide_eq_true concerned
      exact ⟨concerned, rfl, by rw [use, use, get_fill, get_fill, same]⟩
  | take m =>
      obtain rfl : m = mode := of_decide_eq_true concerned
      exact ⟨concerned, by rw [use, use, take_fst, take_fst, same],
        by rw [use, use, get_take, get_take, same]⟩

/-- What becomes of a mode depends on its own uses alone. -/
theorem run_apart (uses : List CacheUse) {cache cache' : PaletteCache}
    (same : cache.get mode = cache'.get mode) :
    let own := uses.filter (CacheUse.concerns mode)
    (cache.run uses).get mode = (cache'.run own).get mode ∧
      (cache.events uses).filter (CacheEvent.concerns mode) = cache'.events own := by
  induction uses generalizing cache cache' with
  | nil => exact ⟨same, rfl⟩
  | cons u uses ih =>
      intro own
      cases concerned : u.concerns mode with
      | true =>
          obtain ⟨seen, event, after⟩ := use_congr same concerned
          have rest := ih after
          have first : own = u :: uses.filter (CacheUse.concerns mode) :=
            List.filter_cons_of_pos concerned
          rw [first, events, List.filter_cons_of_pos seen, rest.2, event]
          exact ⟨rest.1, rfl⟩
      | false =>
          obtain ⟨seen, after⟩ := cache.use_apart concerned
          have rest := ih (after.trans same)
          have first : own = uses.filter (CacheUse.concerns mode) :=
            List.filter_cons_of_neg (by simp [concerned])
          rw [first, events, List.filter_cons_of_neg (by simp [seen])]
          exact rest

/-- **The cache is a stack of fillings for each mode.**  However the cache was used, what is taken
next is left of the newest filling since the last clearing that has any left; nothing is taken
exactly when all that was put in since then has been handed out; the size is the number of those
that were not; no palette is handed out more often than a filling had it; and what was done for
the other mode makes no difference. -/
theorem takes_from_newest_filling (uses : List CacheUse) (mode : Mode) :
    let cache := empty.run uses
    let events := empty.events uses
    let account := Account.after mode events
    let since := CacheEvent.sinceClear events
    let own := uses.filter (CacheUse.concerns mode)
    account.Explains mode events ∧
      Filling.Next account.live (cache.take mode).1 ∧
      ((cache.take mode).1 = none ↔ (CacheEvent.returned mode since).Perm
        (CacheEvent.fillings mode since).flatten) ∧
      cache.size mode + (CacheEvent.returned mode since).length =
        (CacheEvent.fillings mode since).flatten.length ∧
      cache.get mode = (empty.run own).get mode ∧
      events.filter (CacheEvent.concerns mode) = empty.events own := by
  intro cache events account since own
  have perm : (CacheEvent.returned mode since ++ cache.get mode).Perm
      (CacheEvent.fillings mode since).flatten := returned_append_perm uses mode
  have lengths := perm.length_eq
  rw [List.length_append] at lengths
  refine ⟨explains_run uses mode, ?_, ?_, ?_, run_apart uses rfl⟩
  · rw [take_fst]
    exact (stacked_run uses mode).next
  · rw [take_fst, List.head?_eq_none_iff]
    constructor
    · intro nothing
      rwa [nothing, List.append_nil] at perm
    · intro usedUp
      have counted := usedUp.length_eq
      exact List.length_eq_zero_iff.1 (by omega)
  · rw [size]
    omega

/-- A later filling is used up before an earlier one, also when a filling brings nothing. -/
example :
    let words : WordSource := ⟨fun _ => 0, 0⟩
    let uses : List CacheUse := [.fill .dark [[⟨"#000"⟩]] words, .fill .dark [] words,
      .fill .dark [[⟨"#fff"⟩]] words, .take .dark, .take .light, .take .dark]
    CacheEvent.returned .dark (empty.events uses) = [[⟨"#fff"⟩], [⟨"#000"⟩]] := by
  decide +kernel

end PaletteCache

end ThemeEditor
