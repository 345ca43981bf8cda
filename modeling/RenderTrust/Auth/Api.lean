import RenderTrust.Auth.Jwt

/-!
# `core/api/v1/auth.py`

The handlers of the authentication endpoints, for requests that their rate limiter lets
through.
-/
namespace RenderTrust.Auth
open Lib

structure RegisterRequest where
  email : String
  name : String
  password : String
  name_length : 1 ≤ name.length ∧ name.length ≤ 255
  password_length : 8 ≤ password.length
  deriving DecidableEq

structure LoginRequest where
  email : String
  password : String
  deriving DecidableEq, Repr

structure RefreshRequest (J : Type) where
  refreshToken : J
  deriving DecidableEq

structure TokenResponse (J : Type) where
  accessToken : J
  refreshToken : J
  tokenType : String
  deriving DecidableEq

structure UserResponse where
  id : String
  email : String
  name : String
  isActive : Bool
  deriving DecidableEq, Repr

structure RegisterResponse (J : Type) where
  user : UserResponse
  tokens : TokenResponse J
  deriving DecidableEq

structure MessageResponse where
  message : String
  deriving DecidableEq, Repr

section Handlers
variable {J : Type} (ext : External J) (settings : Settings) (env : Env)

def issueTokens (userId : String) : TokenResponse J where
  accessToken := createAccessToken ext settings env userId
  refreshToken := createRefreshToken ext settings env userId
  tokenType := "bearer"

def RegisterRequest.user (payload : RegisterRequest) (id : Uuid) (hashed : String) : User where
  id := id
  email := payload.email
  name := payload.name
  hashedPassword := hashed
  isActive := true
  isAdmin := false

def register (payload : RegisterRequest) : AuthM (RegisterResponse J) := do
  match ← userByEmail payload.email with
  | some _ => throw (.httpException 409 "Email already registered")
  | none =>
    match ext.hash env.salt payload.password with
    | none => throw .passwordError
    | some hashed =>
      let user := payload.user env.userId hashed
      addUser user
      return ⟨⟨user.id.str, user.email, user.name, user.isActive⟩,
        issueTokens ext settings env user.id.str⟩

def login (payload : LoginRequest) : AuthM (TokenResponse J) := do
  match ← userByEmail payload.email with
  | none => throw (.httpException 401 "Invalid email or password")
  | some user =>
    match ext.verify payload.password user.hashedPassword with
    | none => throw .passwordError
    | some false => throw (.httpException 401 "Invalid email or password")
    | some true =>
      if !user.isActive then throw (.httpException 401 "Account is inactive")
      return issueTokens ext settings env user.id.str

/-- The database driver reads the subject of the token as a UUID. -/
def refresh (payload : RefreshRequest J) : AuthM (TokenResponse J) := do
  let tokenData ← verifyToken ext env payload.refreshToken
  if tokenData.tokenType ≠ .REFRESH then
    throw (.httpException 401 "Invalid token type: expected refresh token")
  match Uuid.parse tokenData.sub with
  | none => throw .dataError
  | some userId =>
    match ← userById userId with
    | none => throw (.httpException 401 "User not found")
    | some user =>
      if !user.isActive then throw (.httpException 401 "Account is inactive")
      return issueTokens ext settings env user.id.str

def logout (token : J) : AuthM MessageResponse := do
  let tokenData ← verifyToken ext env token
  let _ ← revoke env tokenData.jti tokenData.exp
  return ⟨"Logged out successfully"⟩

end Handlers
end RenderTrust.Auth
