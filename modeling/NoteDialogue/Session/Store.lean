import NoteDialogue.Session

/-!
# The store of sessions

Sessions are kept under their identifiers and used under a lock, so that turns of one conversation
follow one another.  A session lives in a slot.  A slot is *listed* while its identifier leads to it
and *held* while somebody has the lock of it.  Forgetting a session takes its slot off the list at
once, also while it is held; the holder keeps the slot, and the next use of the identifier makes a new
one.

A session is made by its first use and belongs to the user who made it; to others it is not there.
-/

set_option autoImplicit false

namespace NoteDialogue

/-- The place of one session. -/
structure SessionSlot where
  /-- The identifier under which the session is kept. -/
  key : String
  session : Session
  /-- Its identifier leads here. -/
  listed : Bool := true
  /-- Somebody has its lock. -/
  held : Bool := false
  deriving Inhabited

/-- The sessions of all conversations, a slot for each in the order in which they were made. -/
structure SessionStore where
  slots : List SessionSlot := []
  deriving Inhabited

/-- The lock of the slot at this place. -/
structure SessionGuard where
  place : Nat
  deriving DecidableEq, Repr

/-- What an attempt to take the lock of a session gives. -/
inductive Acquisition
  /-- Somebody else has it. -/
  | blocked
  /-- The session belongs to another user. -/
  | refused
  /-- The lock, and the session as it is. -/
  | granted (guard : SessionGuard) (session : Session)
  deriving Inhabited

/-- What a look at a session gives. -/
inductive Snapshot
  | absent
  | blocked
  | present (session : Session)
  deriving Inhabited

namespace SessionStore

/-- The place to which an identifier leads. -/
def place? (store : SessionStore) (id : String) : Option Nat :=
  store.slots.findIdx? (fun slot => slot.listed && slot.key == id)

/-- The listed session with an identifier. -/
def session? (store : SessionStore) (id : String) : Option Session :=
  (store.slots.find? (fun slot => slot.listed && slot.key == id)).map (·.session)

/-- The store with one slot changed. -/
def modifySlot (store : SessionStore) (place : Nat) (change : SessionSlot → SessionSlot) :
    SessionStore :=
  { slots := store.slots.modify place change }

/-- The store in which an identifier leads to a session, made for the user if there is none. -/
def ensure (store : SessionStore) (id userId : String) : SessionStore :=
  match store.place? id with
  | some _ => store
  | none => { slots := store.slots ++ [{ key := id, session := Session.start id userId }] }

/-- Take the lock of a session for a user. -/
def acquire (store : SessionStore) (id userId : String) : Acquisition × SessionStore :=
  let ready := store.ensure id userId
  match ready.place? id with
  | none => (.blocked, ready)
  | some place =>
      match ready.slots[place]? with
      | none => (.blocked, ready)
      | some slot =>
          if slot.held then (.blocked, ready)
          else if slot.session.userId != userId then (.refused, ready)
          else
            (.granted ⟨place⟩ slot.session,
              ready.modifySlot place (fun slot => { slot with held := true }))

/-- Change the session under a lock. -/
def write (store : SessionStore) (guard : SessionGuard) (session : Session) : SessionStore :=
  store.modifySlot guard.place (fun slot => { slot with session })

/-- The session under a lock. -/
def read? (store : SessionStore) (guard : SessionGuard) : Option Session :=
  (store.slots[guard.place]?).map (·.session)

/-- Give a lock back. -/
def release (store : SessionStore) (guard : SessionGuard) : SessionStore :=
  store.modifySlot guard.place (fun slot => { slot with held := false })

/-- Look at a session, which waits for its lock. -/
def get (store : SessionStore) (id : String) : Snapshot :=
  match store.slots.find? (fun slot => slot.listed && slot.key == id) with
  | none => .absent
  | some slot => if slot.held then .blocked else .present slot.session

/-- Forget a session; whether there was one. -/
def delete (store : SessionStore) (id : String) : Bool × SessionStore :=
  match store.place? id with
  | some place => (true, store.modifySlot place (fun slot => { slot with listed := false }))
  | none => (false, store)

/-- The number of sessions. -/
def size (store : SessionStore) : Nat :=
  store.slots.countP (·.listed)

end SessionStore

end NoteDialogue
