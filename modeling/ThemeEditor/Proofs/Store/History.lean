/-
# ThemeEditor.Proofs.Store.History -- whom a store calls, told from what was asked of it

Everything that can be asked of a store is a `Request`, and `perform` is what the
store does then: an answer, the store that is left, and the calls that it makes.

What a store does can be told from the requests alone.  Its settings are the ones
written last (`valueAfter`), and its subscriptions are those that were made and not
ended since, in the order in which they were made (`lasting`, `mem_lasting`).  This is
an invariant of every run (`run_new`): each request changes the store as it changes
these two (`lasting_snoc`).

So the calls of a run can be told too: at each write, one for each subscription that
lasts, with the settings that were written (`told_by_history`).
-/
import Mathlib.Data.List.Induction
import ThemeEditor.Store

namespace ThemeEditor.Store

set_option autoImplicit false

/-! ## Requests -/

/-- What can be asked of a store. -/
inductive Request : Type 1 where
  | subscribe
  | unsubscribe (id : SubscriptionId)
  | set (settings : Settings)
  | update {α : Type} (f : Settings → Settings × α)
  | get
  /-- Asks for something about the settings. -/
  | view {α : Type} (f : Settings → α)

namespace Request

/-- What a request is answered with. -/
def Answer : Request → Type
  | subscribe => SubscriptionId
  | unsubscribe _ => Bool
  | set _ => Unit
  | @update α _ => α
  | get => Settings
  | @view α _ => α

/-- The settings that a request writes over others, if it writes any. -/
def written (settings : Settings) : Request → Option Settings
  | set new => some new
  | update f => some (f settings).1
  | _ => none

/-- Whether a request makes a subscription. -/
def subscribes : Request → Bool
  | subscribe => true
  | _ => false

/-- Whether a request ends a subscription. -/
def ends (id : SubscriptionId) : Request → Bool
  | unsubscribe other => other == id
  | _ => false

theorem ends_iff {id : SubscriptionId} {r : Request} : r.ends id = true ↔ r = unsubscribe id := by
  cases r <;> simp [ends]

end Request

/-- What a store does on a request: its answer, the store it leaves and the calls it makes. -/
def perform (store : Store) : (r : Request) → r.Answer × Store × List Notice
  | .subscribe => (store.subscribe.1, store.subscribe.2, [])
  | .unsubscribe id => ((store.unsubscribe id).1, (store.unsubscribe id).2, [])
  | .set settings => ((), store.set settings)
  | .update f => store.update f
  | .get => (store.settings, store, [])
  | .view f => (f store.settings, store, [])

/-- The store after some requests. -/
def run (store : Store) (history : List Request) : Store :=
  history.foldl (fun store r => (store.perform r).2.1) store

/-- The calls that a store makes, request by request. -/
def calls : Store → List Request → List (List Notice)
  | _, [] => []
  | store, r :: later => (store.perform r).2.2 :: calls (store.perform r).2.1 later

theorem run_snoc (store : Store) (history : List Request) (r : Request) :
    store.run (history ++ [r]) = ((store.run history).perform r).2.1 := by
  simp only [run, List.foldl_append, List.foldl_cons, List.foldl_nil]

/-! ## What the requests tell -/

/-- The settings after some requests. -/
def valueAfter (settings : Settings) (history : List Request) : Settings :=
  history.foldl (fun settings r => (r.written settings).getD settings) settings

/-- The number of subscriptions that some requests make. -/
def made (history : List Request) : Nat :=
  history.countP Request.subscribes

/-- The subscriptions that some requests make and do not end, in order; the handles begin with
`next`. -/
def lasting (next : SubscriptionId) : List Request → List SubscriptionId
  | [] => []
  | r :: later =>
      if r.subscribes then
        if later.any (Request.ends next) then lasting (next + 1) later
        else next :: lasting (next + 1) later
      else lasting next later

/-- The calls that announce what a request writes after some others. -/
def announced (settings : Settings) (before : List Request) (r : Request) : List Notice :=
  match r.written (valueAfter settings before) with
  | none => []
  | some new => (lasting 0 before).map fun id => ⟨id, new⟩

theorem valueAfter_snoc (settings : Settings) (history : List Request) (r : Request) :
    valueAfter settings (history ++ [r]) =
      (r.written (valueAfter settings history)).getD (valueAfter settings history) := by
  simp only [valueAfter, List.foldl_append, List.foldl_cons, List.foldl_nil]

theorem made_cons_of_subscribes {r : Request} (makes : r.subscribes = true)
    (later : List Request) : made (r :: later) = made later + 1 :=
  List.countP_cons_of_pos makes

theorem made_cons_of_not_subscribes {r : Request} (makes : r.subscribes = false)
    (later : List Request) : made (r :: later) = made later :=
  List.countP_cons_of_neg (by simp [makes])

theorem made_append (before after : List Request) :
    made (before ++ after) = made before + made after :=
  List.countP_append

/-- What the last request does to the subscriptions that last. -/
theorem lasting_snoc (history : List Request) (r : Request) (next : SubscriptionId) :
    lasting next (history ++ [r]) =
      (lasting next history).filter (fun id => !r.ends id) ++
        if r.subscribes then [next + made history] else [] := by
  induction history generalizing next with
  | nil => cases r <;> rfl
  | cons first later ih =>
      cases makes : first.subscribes with
      | false =>
          have same := made_cons_of_not_subscribes makes later
          simp only [List.cons_append, lasting, makes, Bool.false_eq_true, if_false, ih, same]
      | true =>
          have more : next + made (first :: later) = next + 1 + made later := by
            rw [made_cons_of_subscribes makes, Nat.add_comm (made later) 1, Nat.add_assoc]
          simp only [List.cons_append, lasting, makes, if_true, ih, more, List.any_append,
            List.any_cons, List.any_nil, Bool.or_false]
          -- the first subscription was ended before the last request, is ended by it, or lasts
          cases ended : later.any (Request.ends next) with
          | true => rfl
          | false => cases now : r.ends next <;> simp [now]

/-- A subscription lasts exactly if it was made and was not ended since. -/
theorem mem_lasting {id next : SubscriptionId} {history : List Request} :
    id ∈ lasting next history ↔
      ∃ before after, history = before ++ .subscribe :: after ∧ id = next + made before ∧
        .unsubscribe id ∉ after := by
  induction history using List.reverseRecOn with
  | nil => simp [lasting]
  | append_singleton history r ih =>
      rw [lasting_snoc, List.mem_append, List.mem_filter, ih]
      constructor
      · rintro (⟨⟨before, after, rfl, same, lasts⟩, unended⟩ | now)
        · refine ⟨before, after ++ [r], by simp, same, ?_⟩
          intro ended
          rcases List.mem_append.1 ended with sooner | last
          · exact lasts sooner
          · rw [← List.mem_singleton.1 last] at unended
            simp [Request.ends] at unended
        · cases r with
          | subscribe => exact ⟨history, [], rfl, List.mem_singleton.1 now, List.not_mem_nil⟩
          | _ => cases now
      · rintro ⟨before, after, whole, same, lasts⟩
        rcases List.eq_nil_or_concat after with rfl | ⟨after, last, rfl⟩
        · obtain ⟨rfl, isLast⟩ := List.append_inj' whole rfl
          cases isLast
          exact .inr (List.mem_singleton.2 same)
        · rw [List.concat_eq_append, ← List.cons_append, ← List.append_assoc] at whole
          obtain ⟨rfl, isLast⟩ := List.append_inj' whole rfl
          cases isLast
          refine .inl ⟨⟨before, after, rfl, same, fun sooner => lasts ?_⟩, ?_⟩
          · rw [List.concat_eq_append]
            exact List.mem_append_left _ sooner
          · rw [Bool.not_eq_true']
            by_contra ended
            rw [Bool.not_eq_false, Request.ends_iff] at ended
            exact lasts (by simp [ended])

/-- Subscriptions last in the order in which they were made, each once. -/
theorem pairwise_lasting (history : List Request) (next : SubscriptionId) :
    (lasting next history).Pairwise (· < ·) := by
  induction history using List.reverseRecOn with
  | nil => exact .nil
  | append_singleton history r ih =>
      rw [lasting_snoc, List.pairwise_append]
      refine ⟨ih.filter _, by split <;> simp, fun older held newer now => ?_⟩
      obtain ⟨before, after, rfl, rfl, -⟩ := mem_lasting.1 (List.mem_filter.1 held).1
      split at now
      · rw [List.mem_singleton.1 now, made_append, made_cons_of_subscribes rfl]
        exact Nat.add_lt_add_left (by omega) next
      · cases now

/-! ## What a store does -/

theorem filter_unended {r : Request} (keeps : ∀ id, r.ends id = false)
    (ids : List SubscriptionId) : ids.filter (fun id => !r.ends id) = ids :=
  List.filter_eq_self.2 fun id _ => by rw [keeps id]; rfl

/-- A new store after some requests is what they tell. -/
theorem run_new (settings : Settings) (history : List Request) :
    (new settings).run history =
      ⟨valueAfter settings history, lasting 0 history, made history⟩ := by
  induction history using List.reverseRecOn with
  | nil => rfl
  | append_singleton history r ih =>
      rw [run_snoc, ih, valueAfter_snoc, lasting_snoc, made_append, Nat.zero_add]
      cases r with
      | subscribe =>
          rw [filter_unended fun _ => rfl]
          rfl
      | unsubscribe id =>
          have others : (fun other : SubscriptionId => other != id) =
              fun other => !(Request.unsubscribe id).ends other :=
            funext fun other => congrArg (!·) BEq.comm
          rw [perform, unsubscribe, others]
          exact congrArg (Store.mk _ · _) (List.append_nil _).symm
      | set new | update f | get | view f =>
          rw [filter_unended fun _ => rfl]
          exact congrArg (Store.mk _ · _) (List.append_nil _).symm

/-- A request makes the calls that announce what it writes. -/
theorem calls_perform (settings : Settings) (history : List Request) (r : Request) :
    (((new settings).run history).perform r).2.2 = announced settings history r := by
  rw [run_new]
  cases r <;> rfl

/-- The calls of requests that follow others. -/
theorem calls_after (settings : Settings) (before later : List Request) :
    ((new settings).run before).calls later =
      later.mapIdx fun n r => announced settings (before ++ later.take n) r := by
  induction later generalizing before with
  | nil => rfl
  | cons r later ih =>
      rw [calls, ← run_snoc, ih, calls_perform, List.mapIdx_cons]
      simp only [List.take_zero, List.append_nil, List.take_succ_cons, List.append_assoc,
        List.singleton_append]

/-- **What was asked of a store tells whom it calls.**  Each request makes the calls that announce
what it writes: one for each subscription that was made before and is not ended yet, in the order
in which they were made, with the settings then written; a request that writes nothing calls
nobody.  Ending a subscription tells whether it is one of them, and leaves all others in order. -/
theorem told_by_history (settings : Settings) (history : List Request) :
    let store := (new settings).run history
    (new settings).calls history =
        (history.mapIdx fun n r => announced settings (history.take n) r) ∧
      store.settings = valueAfter settings history ∧
      store.subscribers = lasting 0 history ∧
      store.subscribe.1 = made history ∧
      (lasting 0 history).Pairwise (· < ·) ∧
      ∀ id,
        (id ∈ lasting 0 history ↔
          ∃ before after, history = before ++ .subscribe :: after ∧ id = made before ∧
            .unsubscribe id ∉ after) ∧
        ((store.unsubscribe id).1 = true ↔ id ∈ lasting 0 history) ∧
        (store.unsubscribe id).2 =
          { store with subscribers := (lasting 0 history).filter fun other => other != id } := by
  intro store
  have now : store = ⟨valueAfter settings history, lasting 0 history, made history⟩ :=
    run_new settings history
  have told := calls_after settings [] history
  simp only [List.nil_append] at told
  rw [now]
  refine ⟨told, rfl, rfl, rfl, pairwise_lasting history 0, fun id => ⟨?_, ?_, rfl⟩⟩
  · rw [mem_lasting]
    simp only [Nat.zero_add]
  · exact List.contains_iff_mem

/-- A subscription that was ended is not called, and ending one that was never made does nothing. -/
example :
    (new .default).calls
        [.subscribe, .subscribe, .unsubscribe 0, .unsubscribe 7, .set .default, .get] =
      [[], [], [], [], [⟨1, .default⟩], []] := by
  decide

end ThemeEditor.Store
