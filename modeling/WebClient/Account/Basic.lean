import WebClient.Json.Basic

/-!
# Account — who is logged in

A session is a token together with the identity behind it; the two exist together or not at all.
Fields of a user or a seller profile that the client does not know are kept, ascending by name, and
passed through.
-/

namespace WebClient

/-- The role of an account.  A role that the client does not know is kept by its name. -/
inductive Role where
  | reader
  | author
  | user
  | seller
  | admin
  | other (name : String)
  deriving DecidableEq, Repr, Inhabited

namespace Role

/-- The role that a name denotes.  Names are matched exactly. -/
def ofName (name : String) : Role :=
  match name with
  | "reader" => .reader
  | "author" => .author
  | "user" => .user
  | "seller" => .seller
  | "admin" => .admin
  | name => .other name

def name : Role → String
  | .reader => "reader"
  | .author => "author"
  | .user => "user"
  | .seller => "seller"
  | .admin => "admin"
  | .other name => name

/-- The name of a role is the name that it was read from. -/
theorem name_ofName (s : String) : (ofName s).name = s := by
  unfold ofName
  split <;> rfl

end Role

/-- A user of the backend. -/
structure User where
  id : Int
  username : String
  role : Role := .reader
  email : Option String := none
  /-- Fields that the client passes through. -/
  extra : Dict Json := []
  deriving BEq, Repr, Inhabited

namespace User

def isAdmin (u : User) : Bool := u.role == .admin

def isSeller (u : User) : Bool := u.role == .seller

end User

/-- The shop of a seller. -/
structure SellerProfile where
  id : Option Int := none
  shopName : Option String := none
  status : Option Int := none
  /-- Fields that the client passes through. -/
  extra : Dict Json := []
  deriving BEq, Repr, Inhabited

/-- The credentials and the identity of a logged-in user. -/
structure AuthSession where
  token : String
  user : User
  seller : Option SellerProfile := none
  deriving BEq, Repr, Inhabited

/-- What the client knows about its login: a complete session or none. -/
abbrev Session := Option AuthSession

namespace Session

def token? (s : Session) : Option String := s.map (·.token)

def user? (s : Session) : Option User := s.map (·.user)

def username? (s : Session) : Option String := s.map (·.user.username)

end Session
end WebClient
