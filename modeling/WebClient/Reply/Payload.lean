import WebClient.Account.Codec
import WebClient.Reply.Basic

/-!
# Payload — the data of login, registration and identity answers

The seller profile of an answer is called `seller` or `seller_profile`, but not both.  A payload may
also be an array of its fields in order.
-/

namespace WebClient

open Json (Decoded Field)

/-- The names under which answers carry a seller profile. -/
def sellerNames : List String := ["seller", "seller_profile"]

def sellerField : Field :=
  .of "seller" (Json.decodeOptional SellerProfile.decode) ["seller_profile"]

/-- The data of a successful login or registration. -/
structure AuthPayload where
  token : String
  user : User
  seller : Option SellerProfile := none
  deriving BEq, Repr

namespace AuthPayload

def fields : List Field := [.of "token" Json.decodeText, .of "user" User.decode, sellerField]

/-- Reads the payload from the members of an object. -/
def decodeMembers (members : List (String × Json)) : Decoded AuthPayload := do
  Json.scan fields [] members
  let token ← Json.required members "token" Json.decodeText
  let user ← Json.required members "user" User.decode
  let seller ← Json.optional members sellerNames (Json.decodeOptional SellerProfile.decode) none
  return { token, user, seller }

/-- What an array with too few items is told to be. -/
def arrayForm : String := "struct AuthPayload with 3 elements"

def decodeItems (items : List Json) : Decoded AuthPayload := do
  let token ← Json.itemAt items 0 arrayForm Json.decodeText
  let user ← Json.itemAt items 1 arrayForm User.decode
  let seller ← Json.itemAt? items 2 (Json.decodeOptional SellerProfile.decode) none
  Json.noMoreThan items 3
  return { token, user, seller }

def decode : Json → Decoded AuthPayload
  | .object members => decodeMembers members
  | .array items => decodeItems items
  | value => .error (.mismatch value "struct AuthPayload")

def session (p : AuthPayload) : AuthSession := ⟨p.token, p.user, p.seller⟩

end AuthPayload

/-- The data of an answer about the current user. -/
structure IdentityPayload where
  user : User
  seller : Option SellerProfile := none
  deriving BEq, Repr

namespace IdentityPayload

def fields : List Field := [.of "user" User.decode, sellerField]

/-- Reads the payload from the members of an object. -/
def decodeMembers (members : List (String × Json)) : Decoded IdentityPayload := do
  Json.scan fields [] members
  let user ← Json.required members "user" User.decode
  let seller ← Json.optional members sellerNames (Json.decodeOptional SellerProfile.decode) none
  return { user, seller }

/-- What an array with too few items is told to be. -/
def arrayForm : String := "struct CurrentUserPayload with 2 elements"

def decodeItems (items : List Json) : Decoded IdentityPayload := do
  let user ← Json.itemAt items 0 arrayForm User.decode
  let seller ← Json.itemAt? items 1 (Json.decodeOptional SellerProfile.decode) none
  Json.noMoreThan items 2
  return { user, seller }

def decode : Json → Decoded IdentityPayload
  | .object members => decodeMembers members
  | .array items => decodeItems items
  | value => .error (.mismatch value "struct CurrentUserPayload")

end IdentityPayload

namespace Reply

/-- The session data of a login or registration answer; none when the backend accepted the call but
issued no token. -/
def authPayload (reply : Reply) : Except Failure (Option AuthPayload) :=
  match reply.result with
  | .error f => .error f
  | .ok data =>
    if ((data.find? "token").bind Json.string?).isNone then .ok none
    else (Reply.success none (some data)).decodeData AuthPayload.decode |>.map some

end Reply
end WebClient
