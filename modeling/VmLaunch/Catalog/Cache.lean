import VmLaunch.Text.Pieces
import VmLaunch.Time

/-!
# Expiring entries

A `Cache` retains values by key until their time is over. A value is live
strictly before it expires; an expired value stays stored until its key is read,
which reports it as missing and drops it.
-/

namespace VmLaunch

/-- A value with the time from which it no longer counts. -/
structure Stored (α : Type) where
  value : α
  expires : Nat
  deriving Inhabited

/-- Values by key. No key occurs twice. -/
structure Cache (α : Type) where
  ttl : Duration
  entries : List (String × Stored α)
  deriving Inhabited

namespace Cache

variable {α : Type}

/-- A cache without entries. -/
def empty (ttl : Duration) : Cache α :=
  ⟨ttl, []⟩

/-- The key of a list of resources: kind, project and, when there is one, location. -/
def key (kind project location : String) : String :=
  if location == "" then kind ++ ":" ++ project
  else kind ++ ":" ++ project ++ ":" ++ location

/-- The stored entry of a key, live or not. -/
def stored? (cache : Cache α) (key : String) : Option (Stored α) :=
  cache.entries.lookup key

/-- Whether an entry still counts. -/
def Stored.live (now : Nat) (entry : Stored α) : Bool :=
  now < entry.expires

/-- The cache without a key. -/
def erase (cache : Cache α) (key : String) : Cache α :=
  { cache with entries := cache.entries.filter fun entry => entry.1 != key }

/-- The value of a key, when it is live. -/
def peek? (cache : Cache α) (now : Nat) (key : String) : Option α :=
  match cache.stored? key with
  | some entry => if Stored.live now entry then some entry.value else none
  | none => none

/-- The cache without an entry that is no longer live. -/
def evict (cache : Cache α) (now : Nat) (key : String) : Cache α :=
  match cache.stored? key with
  | some entry => if Stored.live now entry then cache else cache.erase key
  | none => cache

/-- Read a key. -/
def get (cache : Cache α) (now : Nat) (key : String) : Option α × Cache α :=
  (cache.peek? now key, cache.evict now key)

/-- The time at which a value stored now expires. -/
def expiry (cache : Cache α) (now : Nat) : Nat :=
  cache.ttl.after now

/-- Store an entry under a key in place of an earlier one. -/
def insert (cache : Cache α) (key : String) (entry : Stored α) : Cache α :=
  { cache with entries := (key, entry) :: (cache.erase key).entries }

/-- Store a value. -/
def set (cache : Cache α) (now : Nat) (key : String) (value : α) : Cache α :=
  cache.insert key ⟨value, cache.expiry now⟩

/-- Drop a key, and say whether it was stored. -/
def invalidate (cache : Cache α) (key : String) : Bool × Cache α :=
  ((cache.stored? key).isSome, cache.erase key)

/-- The number of stored entries, live or not. -/
def size (cache : Cache α) : Nat :=
  cache.entries.length

end Cache

end VmLaunch
