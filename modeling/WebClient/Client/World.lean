import WebClient.Client.Event
import WebClient.Client.Login
import WebClient.Concurrent.Workflow

/-!
# World — the state that the activities of a client share

The shared state is the login, the router's state and the events published so far.  Operations on it
are written once for activities and workflows: in both, every change is one atomic step.
-/

namespace WebClient

/-- The shared state of a client. -/
structure World where
  login : Login
  router : RouterState := {}
  /-- The events published so far, oldest first. -/
  events : List Event := []

namespace World

/-- A client that has just been made, on a store. -/
def fresh (store : Store) : World := { login := { store } }

def emit (w : World) (event : Event) : World := { w with events := w.events ++ [event] }

end World

variable {m : Type → Type} [Monad m] [MonadStateOf World m]

def publish (event : Event) : m Unit := modify fun w => w.emit event

def toast (level : ToastLevel) (message : String) : m Unit := publish (.toast level message)

/-! ## The login -/

def currentSession : m Session := modifyGet fun w => (w.login.session, w)

def announce (session : Session) : m Unit := publish (.ofSession session)

def setAuthenticated (auth : AuthSession) : m Unit := do
  modify fun w => { w with login := w.login.establish auth }
  announce (some auth)

/-- Gives the current session another identity; says whether there was a session. -/
def updateUser (user : User) (seller : Option SellerProfile) : m Bool := do
  let session ← modifyGet fun w =>
    let login := w.login.updateIdentity user seller
    (login.session, { w with login })
  if session.isSome then announce session
  return session.isSome

def clearSession : m Bool := do
  let previous ← modifyGet fun w => (w.login.session, { w with login := w.login.clear })
  if previous.isSome then announce none
  return previous.isSome

def readKey (key : String) : m (Except StorageError (Option String)) :=
  modifyGet fun w => (w.login.store.read key, { w with login := w.login.noteRead })

/-- Makes what was loaded the current session, and tells of it if it is one. -/
def adopt (session : Session) : m Session := do
  modify fun w => { w with login := w.login.assign session }
  if session.isSome then announce session
  return session

/-- Removes what the store holds of a session, and goes on without one. -/
def discardStored : m Session := do
  modify fun w => { w with login := w.login.purge }
  adopt none

/-- Reads the session back from the store, key by key.  Broken state is removed. -/
def loadPersisted : m Session := do
  match ← readKey SessionKey.token with
  | .error _ => discardStored
  | .ok token =>
    match ← readKey SessionKey.user with
    | .error _ => discardStored
    | .ok user =>
      match StoredSession.judge token user with
      | .absent => adopt none
      | .broken => discardStored
      | .found token user =>
        let seller := StoredSession.seller? (← readKey SessionKey.seller)
        adopt (some { token, user, seller })

end WebClient
