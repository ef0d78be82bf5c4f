import WebClient.Account.Basic
import WebClient.Json.Decode
import WebClient.Json.Reader

/-!
# Codec — accounts as JSON

Written values hold the fields in the order of the record, absent optional fields left out, and then
the fields passed through.  A `null` in an optional field reads as an absent one.  A user without a
role is a reader.

Users and seller profiles are read from objects only; a session is also read from an array of its
fields in order.
-/

namespace WebClient

open Json (Decoded Field)

namespace Role

def decode (value : Json) : Decoded Role := (Json.decodeText value).map ofName

end Role

namespace User

def fields : List Field :=
  [.of "id" Json.decodeInt, .of "username" Json.decodeText, .of "role" Role.decode,
   .of "email" (Json.decodeOptional Json.decodeText)]

def decodeMembers (members : List (String × Json)) : Decoded User := do
  Json.scan fields [] members
  let id ← Json.required members "id" Json.decodeInt
  let username ← Json.required members "username" Json.decodeText
  let role ← Json.optional members ["role"] Role.decode .reader
  let email ← Json.optional members ["email"] (Json.decodeOptional Json.decodeText) none
  return { id, username, role, email, extra := Json.extras fields members }

def decode : Json → Decoded User
  | .object members => decodeMembers members
  | value => .error (.mismatch value "struct User")

def toJson (u : User) : Json :=
  .object <|
    [("id", .int u.id), ("username", .string u.username), ("role", .string u.role.name)] ++
      (u.email.map fun email => ("email", Json.string email)).toList ++ u.extra

end User

namespace SellerProfile

def fields : List Field :=
  [.of "id" (Json.decodeOptional Json.decodeInt),
   .of "shop_name" (Json.decodeOptional Json.decodeText),
   .of "status" (Json.decodeOptional Json.decodeInt)]

/-- Reads a seller profile from the members of an object. -/
def decodeMembers (members : List (String × Json)) : Decoded SellerProfile := do
  Json.scan fields [] members
  let id ← Json.optional members ["id"] (Json.decodeOptional Json.decodeInt) none
  let shopName ← Json.optional members ["shop_name"] (Json.decodeOptional Json.decodeText) none
  let status ← Json.optional members ["status"] (Json.decodeOptional Json.decodeInt) none
  return { id, shopName, status, extra := Json.extras fields members }

def decode : Json → Decoded SellerProfile
  | .object members => decodeMembers members
  | value => .error (.mismatch value "struct SellerProfile")

def toJson (p : SellerProfile) : Json :=
  .object <|
    (p.id.map fun id => ("id", Json.int id)).toList ++
      (p.shopName.map fun name => ("shop_name", Json.string name)).toList ++
      (p.status.map fun status => ("status", Json.int status)).toList ++ p.extra

end SellerProfile

namespace AuthSession

def fields : List Field :=
  [.of "token" Json.decodeText, .of "user" User.decode,
   .of "seller_profile" (Json.decodeOptional SellerProfile.decode)]

/-- Reads a session from the members of an object. -/
def decodeMembers (members : List (String × Json)) : Decoded AuthSession := do
  Json.scan fields [] members
  let token ← Json.required members "token" Json.decodeText
  let user ← Json.required members "user" User.decode
  let seller ← Json.optional members ["seller_profile"]
    (Json.decodeOptional SellerProfile.decode) none
  return { token, user, seller }

/-- What an array with too few items is told to be. -/
def arrayForm : String := "struct AuthSession with 3 elements"

def decodeItems (items : List Json) : Decoded AuthSession := do
  let token ← Json.itemAt items 0 arrayForm Json.decodeText
  let user ← Json.itemAt items 1 arrayForm User.decode
  let seller ← Json.itemAt? items 2 (Json.decodeOptional SellerProfile.decode) none
  Json.noMoreThan items 3
  return { token, user, seller }

def decode : Json → Decoded AuthSession
  | .object members => decodeMembers members
  | .array items => decodeItems items
  | value => .error (.mismatch value "struct AuthSession")

def toJson (s : AuthSession) : Json :=
  .object <|
    [("token", .string s.token), ("user", s.user.toJson)] ++
      (s.seller.map fun profile => ("seller_profile", profile.toJson)).toList

end AuthSession

/-- Reads a value of a text by `decode`; a text that is no JSON yields nothing, like a value of the
wrong shape. -/
def decodeStored? {α : Type} (decode : Json → Decoded α) (text : String) : Option α :=
  (Json.read? text).bind fun value => (decode value).toOption

end WebClient
