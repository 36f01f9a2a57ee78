/-
# ThemeEditor.Store -- settings that others watch

A store holds the edited settings and the subscriptions to them in the order in
which they were made.  Every write is told to each subscriber once, in that
order, with the value it left; reading tells nobody.
-/
import ThemeEditor.Settings.Basic

namespace ThemeEditor

set_option autoImplicit false

/-- The handle of a subscription. -/
abbrev SubscriptionId := Nat

/-- One call of a subscriber. -/
structure Notice where
  subscriber : SubscriptionId
  settings : Settings
  deriving DecidableEq, Repr

/-- Watched settings.  Handles are given out in ascending order. -/
structure Store where
  settings : Settings
  subscribers : List SubscriptionId
  nextId : SubscriptionId
  deriving DecidableEq, Repr

namespace Store

/-- A store that nobody watches. -/
def new (settings : Settings) : Store :=
  ⟨settings, [], 0⟩

/-- The calls that announce the present settings. -/
def notices (store : Store) : List Notice :=
  store.subscribers.map fun id => ⟨id, store.settings⟩

/-- Replaces the settings and announces them. -/
def set (store : Store) (settings : Settings) : Store × List Notice :=
  let store := { store with settings }
  (store, store.notices)

/-- Changes the settings in place and announces them, changed or not. -/
def update {α : Type} (store : Store) (f : Settings → Settings × α) :
    α × Store × List Notice :=
  let (settings, result) := f store.settings
  (result, store.set settings)

/-- Adds a subscription behind the others. -/
def subscribe (store : Store) : SubscriptionId × Store :=
  (store.nextId,
    { store with
      subscribers := store.subscribers ++ [store.nextId]
      nextId := store.nextId + 1 })

/-- Ends a subscription; tells whether there was one. -/
def unsubscribe (store : Store) (id : SubscriptionId) : Bool × Store :=
  (store.subscribers.contains id,
    { store with subscribers := store.subscribers.filter (· != id) })

end Store

end ThemeEditor
