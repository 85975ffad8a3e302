import BearerGate.Service.Basic

/-!
# Users

Callers can see what their own token says of them.  Administrators can look at and register users;
users are not kept, so what they see is made up from the name.
-/

namespace BearerGate

/-- A claim that is a string, or `null`. -/
def claimOrNull (claims : Members) (name : String) : Json :=
  .stringOrNull ((Table.get? claims name).bind Json.string?)

/-- The members of the token's payload; none without a token. -/
def rawClaims (i : Inbound) : Members := (i.context.claims.map (·.raw)).getD []

/-- What a caller's token says of them, with the text of the instant at which it expires. -/
def profile (p : Principal) (claims : Members) (expiresAt : String) : Json :=
  .object [("subject", .string p.subject), ("username", .string p.username), ("email", .string p.email),
    ("name", claimOrNull claims "name"), ("givenName", claimOrNull claims "given_name"),
    ("familyName", claimOrNull claims "family_name"),
    ("emailVerified", .bool (match Table.get? claims "email_verified" with
      | some (.bool b) => b
      | _ => false)),
    ("roles", .strings p.roles), ("expiresAt", .string expiresAt)]

/-- **The caller's own profile.**  Without an instant of expiry there is none. -/
def meHandler : Handler := fun _ i => do
  let p ← caller i
  Handling.log (.texts .info "GET /users/me" [("username", p.username)])
  match p.expiresAt.text? with
  | some expiresAt => pure (.ofJson (profile p (rawClaims i) expiresAt))
  | none => Handling.fail (.crash Instant.invalidMessage)

def adminOnlyHandler : Handler := fun _ i => do
  let p ← caller i
  pure (.ofJson (.object [("message", .string "You are an admin"), ("username", .string p.username)]))

/-- All claims of the caller's token. -/
def jwtInfoHandler : Handler := fun _ i => pure (.ofJson (.object (rawClaims i)))

/-- A user of a given name. -/
def userHandler : Handler := fun _ i =>
  match Checked.sized [.name "id"] 1 none (i.parameter "id") with
  | .faulty first others => invalidAnswer i "Invalid user id" (first :: others)
  | .fine id => do
    let p ← caller i
    Handling.log (.texts .info "GET /users/:id" [("id", id), ("admin", p.username)])
    pure (.ofJson (.object [("username", .string id), ("email", .string (id ++ "@example.com")),
      ("name", .string ("User " ++ id)), ("roles", .strings ["user"]), ("emailVerified", .bool true)]))

/-! ### Registering -/

/-- A user to be registered. -/
structure NewUser where
  username : String
  email : String
  name : Option String
  roles : List String
  deriving DecidableEq, Repr

namespace NewUser

def email? (path : List PathStep) (s : String) : Checked String :=
  if Checked.isEmail s then .fine s else Checked.fault path .noEmail

def name? (value : Option Json) : Checked (Option String) :=
  match value with
  | none => .fine none
  | some _ => some <$> Checked.text [.name "name"] (Checked.sized [.name "name"] 1 none) value

def roles? (value : Option Json) : Checked (List String) :=
  match value with
  | none => .fine []
  | some (.array js) =>
    Checked.forAll
      (fun e : Json × Nat =>
        let path : List PathStep := [.name "roles", .index e.2]
        Checked.text path (Checked.sized path 1 none) (some e.1))
      js.zipIdx
  | other => Checked.wrongKind [.name "roles"] "array" other

/-- **The user that a body describes.** -/
def ofBody (body : Json) : Checked NewUser :=
  match body with
  | .object members =>
    let member := Table.get? members
    NewUser.mk <$>
      Checked.text [.name "username"]
        (fun s => Checked.sized [.name "username"] 3 (some 50) (Text.trim s)) (member "username") <*>
      Checked.text [.name "email"] (email? [.name "email"]) (member "email") <*>
      name? (member "name") <*> roles? (member "roles")
  | other => Checked.wrongKind [] "object" (some other)

def toJson (u : NewUser) : Json :=
  .record [("username", some (.string u.username)), ("email", some (.string u.email)),
    ("name", u.name.map .string), ("roles", some (.strings u.roles))]

end NewUser

/-- **Registering a user.** -/
def createUserHandler : Handler := fun _ i =>
  match NewUser.ofBody i.bodyObject with
  | .faulty first others => invalidAnswer i "Validation failed" (first :: others)
  | .fine user => do
    let p ← caller i
    Handling.log (.texts .info "POST /users" [("admin", p.username), ("username", user.username)])
    pure (.ofStatus 201 user.toJson)

end BearerGate
