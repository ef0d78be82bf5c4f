import WebClient.Account.Codec
import WebClient.Store.Basic

/-!
# Login — the session in memory and its image in the store

The session in memory and the store are changed together under one lock; each function here is one
such section.  A store that fails never keeps the change in memory from being made.

The image of a session is its token, its user as JSON text, and its seller profile as JSON text if
it has one; without a profile the key of the profile is removed.
-/

namespace WebClient

/-- The session in memory, and the store that it is kept in. -/
structure Login where
  session : Session := none
  store : Store

namespace Login

/-- The batch that brings the store to the image of a session. -/
def imageOf (auth : AuthSession) : List Change :=
  [(SessionKey.token, some auth.token),
   (SessionKey.user, some auth.user.toJson.compact),
   (SessionKey.seller, auth.seller.map fun profile => profile.toJson.compact)]

/-- The batch that removes every trace of a session. -/
def purgeChanges : List Change := Change.removals SessionKey.all

/-- Makes a session the current one, and writes its image. -/
def establish (login : Login) (auth : AuthSession) : Login :=
  { session := some auth, store := login.store.write (imageOf auth) }

/-- Gives the current session another identity; without a session nothing happens. -/
def updateIdentity (login : Login) (user : User) (seller : Option SellerProfile) : Login :=
  match login.session with
  | none => login
  | some auth => login.establish { auth with user, seller }

def clear (login : Login) : Login := { session := none, store := login.store.write purgeChanges }

def assign (login : Login) (session : Session) : Login := { login with session }

/-- Removes the image of whatever session there is, but leaves memory alone. -/
def purge (login : Login) : Login := { login with store := login.store.write purgeChanges }

def noteRead (login : Login) : Login := { login with store := login.store.tick }

end Login

/-! ## Reading a session back -/

namespace StoredSession

/-- What the first two keys say: there is no session, the state has to be purged, or there is a
token with a user. -/
inductive Verdict where
  | absent
  | broken
  | found (token : String) (user : User)

/-- Judges what was read under the keys of token and user.  Both have to be there or neither, the
token must not be empty, and the user has to be readable. -/
def judge (token user : Option String) : Verdict :=
  match token, user with
  | none, none => .absent
  | some token, some text =>
    if token.isEmpty then .broken
    else
      match decodeStored? User.decode text with
      | some user => .found token user
      | none => .broken
  | _, _ => .broken

/-- A token with a user is found exactly if the token is there and not empty, and the user is there
and readable. -/
theorem judge_eq_found_iff {token user : Option String} {found : String} {account : User} :
    judge token user = .found found account ↔
      token = some found ∧ found ≠ "" ∧
        ∃ text, user = some text ∧ decodeStored? User.decode text = some account := by
  constructor
  · intro h
    unfold judge at h
    split at h
    · cases h
    · split at h
      · cases h
      · rename_i hnonempty
        split at h
        · rename_i hdecode
          cases h
          exact ⟨rfl, by simpa using hnonempty, _, rfl, hdecode⟩
        · cases h
    · cases h
  · rintro ⟨rfl, hnonempty, text, rfl, hdecode⟩
    simp [judge, hnonempty, hdecode]

/-- The seller profile read back; one that cannot be read counts as absent. -/
def seller? (read : Except StorageError (Option String)) : Option SellerProfile :=
  match read with
  | .ok (some text) => decodeStored? SellerProfile.decode text
  | _ => none

end StoredSession
end WebClient
