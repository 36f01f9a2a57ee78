/-
# ThemeEditor.Proofs.Session.Views -- subscribers see the present settings

A view of the settings is drawn when it subscribes and drawn again at each call.  So
it shows the present settings if it was last called with them, or if it was never
called and subscribed when they were already there.  Both hold of every subscriber
after every run (`Informed`, `Turn.informed_run`): a step that writes the settings
announces them, and a step that announces nothing leaves them as they are (`Tells`).

Closing is such a step too, and the settings that it leaves are the ones that it
returns (`Turn.views_up_to_date`).
-/
import ThemeEditor.Proofs.Session.Atomic
import ThemeEditor.Proofs.Session.Turn

namespace ThemeEditor

set_option autoImplicit false

open Session (Bound Edited blankSession openDiscarding openOn start_of_opened)

/-! ## What a subscriber was told -/

/-- The settings in the latest call of a subscriber. -/
def Notice.latest (calls : List Notice) (id : SubscriptionId) : Option Settings :=
  (calls.reverse.find? fun call => call.subscriber == id).map Notice.settings

namespace Notice

theorem latest_append (calls more : List Notice) (id : SubscriptionId) :
    latest (calls ++ more) id = (latest more id).or (latest calls id) := by
  rw [latest, List.reverse_append, List.find?_append, Option.map_or]
  rfl

theorem latest_eq_none {calls : List Notice} {id : SubscriptionId}
    (uncalled : ∀ call ∈ calls, call.subscriber ≠ id) : latest calls id = none := by
  rw [latest, Option.map_eq_none_iff, List.find?_eq_none]
  intro call called
  simpa using uncalled call (List.mem_reverse.1 called)

/-- An announcement reaches every subscriber. -/
theorem latest_notices {store : Store} {id : SubscriptionId} (subscribed : id ∈ store.subscribers) :
    latest store.notices id = some store.settings := by
  have told : ⟨id, store.settings⟩ ∈ store.notices.reverse :=
    List.mem_reverse.2 (List.mem_map.2 ⟨id, subscribed, rfl⟩)
  cases found : store.notices.reverse.find? fun call => call.subscriber == id with
  | none =>
      rw [List.find?_eq_none] at found
      exact absurd (beq_self_eq_true id) (found _ told)
  | some call =>
      obtain ⟨other, -, rfl⟩ :=
        List.mem_map.1 (List.mem_reverse.1 (List.mem_of_find?_eq_some found))
      rw [latest, found]
      rfl

end Notice

/-- After some calls, every subscriber of a store sees its settings; `joined` tells which
settings were there when one subscribed. -/
structure Informed (store : Store) (calls : List Notice)
    (joined : SubscriptionId → Settings → Prop) : Prop where
  known : ∀ id ∈ store.subscribers, id < store.nextId
  given : ∀ call ∈ calls, call.subscriber < store.nextId
  current : ∀ id ∈ store.subscribers,
    Notice.latest calls id = some store.settings ∨
      Notice.latest calls id = none ∧ joined id store.settings

namespace Informed

variable {store : Store} {calls : List Notice} {joined : SubscriptionId → Settings → Prop}

theorem mono (informed : Informed store calls joined)
    {joined' : SubscriptionId → Settings → Prop}
    (more : ∀ id settings, joined id settings → joined' id settings) :
    Informed store calls joined' where
  known := informed.known
  given := informed.given
  current id subscribed :=
    (informed.current id subscribed).imp_right (And.imp_right (more id store.settings))

/-- Whoever is subscribed when the settings are written sees them. -/
theorem set (informed : Informed store calls joined) (settings : Settings) :
    Informed (store.set settings).1 (calls ++ (store.set settings).2) joined where
  known := informed.known
  given call called := by
    rcases List.mem_append.1 called with before | now
    · exact informed.given call before
    · obtain ⟨id, subscribed, rfl⟩ := List.mem_map.1 now
      exact informed.known id subscribed
  current id subscribed := by
    have told : Notice.latest (store.set settings).1.notices id = some settings :=
      Notice.latest_notices subscribed
    have announced : (store.set settings).2 = (store.set settings).1.notices := rfl
    rw [announced, Notice.latest_append, told]
    exact .inl rfl

/-- A new subscriber has not been called: its handle is new. -/
theorem subscribe (informed : Informed store calls joined)
    (present : joined store.subscribe.1 store.settings) :
    Informed store.subscribe.2 calls joined where
  known id subscribed := by
    rcases List.mem_append.1 subscribed with before | now
    · exact Nat.lt_succ_of_lt (informed.known id before)
    · rw [List.mem_singleton.1 now]
      exact Nat.lt_succ_self _
  given call called := Nat.lt_succ_of_lt (informed.given call called)
  current id subscribed := by
    rcases List.mem_append.1 subscribed with before | now
    · exact informed.current id before
    · have uncalled : Notice.latest calls store.nextId = none :=
        Notice.latest_eq_none fun call called => Nat.ne_of_lt (informed.given call called)
      rw [List.mem_singleton.1 now]
      exact .inr ⟨uncalled, present⟩

theorem unsubscribe (informed : Informed store calls joined) (id : SubscriptionId) :
    Informed (store.unsubscribe id).2 calls joined where
  known other subscribed := informed.known other (List.mem_of_mem_filter subscribed)
  given := informed.given
  current other subscribed := informed.current other (List.mem_of_mem_filter subscribed)

end Informed

/-! ## One step -/

namespace Session

/-- A step that leaves the subscriptions alone, and announces the settings if it writes
them. -/
inductive Tells {α : Type} (s : Session) (step : Step α) : Prop where
  | silent (store : step.session.store = s.store) (unseen : step.seen = [])
  | announced (settings : Settings) (store : step.session.store = (s.store.set settings).1)
      (seen : step.seen = (s.store.set settings).2)

variable {s : Session}

theorem Bound.tells {α : Type} {step : Edited α} (bound : Bound s step) : Tells s step := by
  cases bound with
  | refused e => exact .silent rfl rfl
  | changed f => exact .announced (f s.settings).1 rfl rfl

theorem tells_generate (ask : Mode → UInt8 → Answer) (mode : Mode) :
    Tells s (s.generate ask mode) := by
  unfold generate
  dsimp only
  split
  · exact .silent rfl rfl
  · exact .announced _ rfl rfl

theorem tells_importFrom (path : String) : Tells s (s.importFrom path) := by
  unfold importFrom
  dsimp only
  split
  · exact .silent rfl rfl
  · exact .announced _ rfl rfl

theorem tells_exportTo (directory : String) : Tells s (s.exportTo directory) := by
  unfold exportTo
  dsimp only
  split
  · exact .silent rfl rfl
  · exact .silent rfl rfl

theorem tells_save : Tells s s.save := by
  unfold save
  dsimp only
  split
  · exact .silent rfl rfl
  · exact .silent rfl rfl

/-- The store and the calls of a step do not depend on how its result is shown. -/
theorem Tells.withResult {α β : Type} {step : Step α} (tells : Tells s step) (result : β) :
    Tells s { step with result } := by
  cases tells with
  | silent store unseen => exact .silent store unseen
  | announced settings store seen => exact .announced settings store seen

theorem tells_close (saving : Bool) : Tells s (s.close saving) := by
  cases saving with
  | true => exact tells_save.withResult _
  | false =>
      unfold close
      rw [if_neg Bool.false_ne_true]
      split
      · exact .announced s.pristine rfl rfl
      · exact .silent rfl rfl

theorem settings_save (saved : s.save.result = .ok ()) :
    s.save.session.settings = s.save.session.pristine := by
  revert saved
  unfold save
  dsimp only
  split
  · exact nofun
  · exact fun _ => rfl

theorem settings_discarding : (s.close false).session.settings = s.pristine := by
  unfold close
  rw [if_neg Bool.false_ne_true]
  split
  · rfl
  · next clean => exact of_not_not fun differ => clean (bne_iff_ne.2 differ)

/-- A session that was closed is left with the settings that closing returned. -/
theorem settings_close {saving : Bool} {settings : Settings}
    (closed : (s.close saving).result = .ok settings) :
    (s.close saving).session.settings = settings := by
  cases saving with
  | false =>
      rw [(close_discarding s).1] at closed
      cases closed
      exact settings_discarding
  | true =>
      rw [(close_saving s).1] at closed
      cases saved : s.save.result with
      | error e =>
          rw [saved] at closed
          cases closed
      | ok done =>
          rw [saved] at closed
          cases closed
          exact settings_save saved

end Session

/-! ## A whole run -/

namespace Turn

variable {s : Session}

/-- A turn tells the subscribers what it does to the settings, unless it is about the
subscriptions. -/
theorem take_cases (turn : Turn) :
    turn = operation .subscribe ∨ (∃ id, turn = operation (.unsubscribe id)) ∨
      Session.Tells s (turn.take s) := by
  cases turn with
  | written disk => exact .inr (.inr (.silent rfl rfl))
  | operation op =>
      cases op with
      | subscribe => exact .inl rfl
      | unsubscribe id => exact .inr (.inl ⟨id, rfl⟩)
      | setColor role value => exact .inr (.inr (Session.bound_setColor s role value).tells)
      | setAccent index value => exact .inr (.inr (Session.bound_setAccent s index value).tells)
      | pushAccent value => exact .inr (.inr (Session.bound_pushAccent s value).tells)
      | removeAccent index =>
          exact .inr (.inr ((Session.bound_removeAccent s index).tells.withResult _))
      | setFlag name on => exact .inr (.inr (Session.bound_setFlag s name on).tells)
      | setBackendUrl url => exact .inr (.inr (Session.bound_setBackendUrl s url).tells)
      | generate ask mode => exact .inr (.inr ((Session.tells_generate ask mode).withResult _))
      | importFrom path => exact .inr (.inr (Session.tells_importFrom path))
      | exportTo directory =>
          exact .inr (.inr ((Session.tells_exportTo directory).withResult _))
      | reset => exact .inr (.inr (.announced .default rfl rfl))
      | save => exact .inr (.inr Session.tells_save)
      | clearError | share supply => exact .inr (.inr (.silent rfl rfl))

/-- A subscriber joined in the course of a run, when the settings were these. -/
def Joined (s : Session) (turns : List Turn) (id : SubscriptionId) (settings : Settings) : Prop :=
  ∃ before after, turns = before ++ operation .subscribe :: after ∧
    (run s before).subscribe.1 = id ∧ (run s before).settings = settings

theorem Joined.snoc {turns : List Turn} {id : SubscriptionId} {settings : Settings}
    (joined : Joined s turns id settings) (turn : Turn) :
    Joined s (turns ++ [turn]) id settings := by
  obtain ⟨before, after, rfl, handle, present⟩ := joined
  exact ⟨before, after ++ [turn], by simp, handle, present⟩

/-- A step that tells keeps the subscribers informed. -/
theorem informed_of_tells {α : Type} {step : Step α} {calls : List Notice}
    {joined : SubscriptionId → Settings → Prop} (informed : Informed s.store calls joined)
    (tells : Session.Tells s step) : Informed step.session.store (calls ++ step.seen) joined := by
  cases tells with
  | silent store unseen =>
      rw [store, unseen, List.append_nil]
      exact informed
  | announced settings store seen =>
      rw [store, seen]
      exact informed.set settings

/-- Whatever happens to a session, its subscribers are informed. -/
theorem informed_run (unwatched : s.store.subscribers = []) (turns : List Turn) :
    Informed (run s turns).store (calls s turns) (Joined s turns) := by
  induction turns using List.reverseRecOn with
  | nil =>
      have nobody : ∀ id, id ∉ (run s []).store.subscribers := by
        intro id subscribed
        rw [run, List.foldl_nil, unwatched] at subscribed
        cases subscribed
      exact ⟨fun id subscribed => absurd subscribed (nobody id),
        fun call called => absurd called List.not_mem_nil,
        fun id subscribed => absurd subscribed (nobody id)⟩
  | append_singleton turns turn ih =>
      have before := ih.mono fun id settings joined => Joined.snoc joined turn
      rw [run_snoc, calls_snoc]
      rcases take_cases (s := run s turns) turn with rfl | ⟨id, rfl⟩ | tells
      · have present : Joined s (turns ++ [operation .subscribe]) (run s turns).store.subscribe.1
            (run s turns).store.settings := ⟨turns, [], rfl, rfl, rfl⟩
        rw [show (take (run s turns) (operation .subscribe)).seen = [] from rfl, List.append_nil]
        exact before.subscribe present
      · rw [show (take (run s turns) (operation (.unsubscribe id))).seen = [] from rfl,
          List.append_nil]
        exact before.unsubscribe id
      · exact informed_of_tells before tells

/-- **No view of the settings goes stale.**  Whatever happens to a session, each of its
subscribers was last called with the present settings, or was never called and joined when
they were already there.  Once the session is closed, the latest call of each, if it got any,
is with the settings that closing returned. -/
theorem views_up_to_date {storage : Storage} {world : World}
    (opened : (openOn storage world).1 = .ok s ∨ (openDiscarding storage world).1 = .ok s)
    (turns : List Turn) :
    let now := run s turns
    let told := calls s turns
    (∀ id ∈ now.store.subscribers,
      Notice.latest told id = some now.settings ∨
        Notice.latest told id = none ∧ Joined s turns id now.settings) ∧
      ∀ saving settings, (now.close saving).result = .ok settings →
        ∀ id ∈ now.store.subscribers,
          Notice.latest (told ++ (now.close saving).seen) id = some settings ∨
            Notice.latest (told ++ (now.close saving).seen) id = none := by
  intro now told
  have unwatched : s.store.subscribers = [] := by
    obtain ⟨settings, rfl⟩ := start_of_opened opened
    rfl
  have informed : Informed now.store told (Joined s turns) := informed_run unwatched turns
  refine ⟨informed.current, fun saving settings closed id subscribed => ?_⟩
  have tells : Session.Tells now (now.close saving) := Session.tells_close saving
  have after := informed_of_tells informed tells
  have still : id ∈ (now.close saving).session.store.subscribers := by
    cases tells with
    | silent store unseen => exact store ▸ subscribed
    | announced settings store seen => exact store ▸ subscribed
  have left : (now.close saving).session.store.settings = settings :=
    Session.settings_close closed
  rw [← left]
  exact (after.current id still).imp_right And.left

/-- A view is opened, an accent is added, a second view is opened, and a color is refused. -/
def twoViews : List Turn :=
  [.operation .subscribe, .operation (.pushAccent "#fff"), .operation .subscribe,
    .operation (.setColor .background "grey-ish")]

/-- The first view was called with the accent, and the second one found it there; when the
edits are discarded, both get the settings that the session began with. -/
theorem views_twoViews :
    let now := run blankSession twoViews
    let told := calls blankSession twoViews
    (openOn ⟨"notes/theme"⟩ ⟨Disk.blank ["home"], Session.unused⟩).1 = .ok blankSession ∧
      now.store.subscribers = [0, 1] ∧ now.settings = Session.withAccent ∧
      Notice.latest told 0 = some now.settings ∧
      (Notice.latest told 1 = none ∧ Joined blankSession twoViews 1 now.settings) ∧
      (now.close false).result = .ok .default ∧
      ∀ id ∈ [0, 1], Notice.latest (told ++ (now.close false).seen) id = some .default := by
  intro now told
  have opened : (openOn ⟨"notes/theme"⟩ ⟨Disk.blank ["home"], Session.unused⟩).1 =
      .ok blankSession := rfl
  have subscribed : now.store.subscribers = [0, 1] := rfl
  have closed : (now.close false).result = .ok .default := rfl
  obtain ⟨current, ended⟩ := views_up_to_date (.inl opened) twoViews
  have both : ∀ id ∈ [0, 1], id ∈ now.store.subscribers := fun id view => subscribed ▸ view
  have called : Notice.latest told 0 = some Session.withAccent := rfl
  have uncalled : Notice.latest told 1 = none := rfl
  refine ⟨opened, subscribed, rfl, ?_, ?_, closed, fun id view => ?_⟩
  · exact (current 0 (both 0 (by decide))).resolve_right fun never =>
      nomatch called.symm.trans never.1
  · exact (current 1 (both 1 (by decide))).resolve_left fun drawn =>
      nomatch uncalled.symm.trans drawn
  · refine (ended false .default closed id (both id view)).resolve_right ?_
    rcases List.mem_cons.1 view with rfl | view
    · exact nofun
    · rw [List.mem_singleton.1 view]
      exact nofun

end Turn

end ThemeEditor
