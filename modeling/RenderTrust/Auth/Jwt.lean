import RenderTrust.Auth.Models

/-!
# `core/auth/jwt.py` and `core/auth/blacklist.py`

Tokens `J` and what encodes and decodes them are those of the JWT library, passwords are
hashed by the bcrypt library: parameters, collected in `External`.
-/
namespace RenderTrust.Auth
open Lib

inductive TokenType where
  | ACCESS
  | REFRESH
  deriving DecidableEq, Repr

def TokenType.value : TokenType → String
  | .ACCESS => "access"
  | .REFRESH => "refresh"

/-- The claims of a token; times are in seconds. -/
structure Claims where
  sub : Option String
  exp : Option ℕ
  iat : Option ℕ
  tokenType : Option String
  jti : Option String
  deriving DecidableEq, Repr

structure TokenPayload where
  sub : String
  exp : ℕ
  iat : ℕ
  tokenType : TokenType
  jti : String
  deriving DecidableEq, Repr

/-- The libraries: `none` is an exception. A token is decoded at a time in seconds. -/
structure External (J : Type) where
  hash : String → String → Option String
  verify : String → String → Option Bool
  encode : Claims → J
  decode : J → ℕ → Option Claims

structure Settings where
  accessTokenExpireMinutes : ℕ
  refreshTokenExpireDays : ℕ

/-- `core/config.py`. -/
def Settings.default : Settings := ⟨30, 7⟩

/-- What a request finds: the time in microseconds, whether Redis answers, and what is
drawn at random. -/
structure Env where
  now : ℕ
  redis : Bool
  salt : String
  userId : Uuid
  accessJti : Uuid
  refreshJti : Uuid
  deriving DecidableEq, Repr

def Env.seconds (env : Env) : ℕ := env.now / 1000000

def accessExpiry (settings : Settings) (env : Env) : ℕ :=
  env.seconds + settings.accessTokenExpireMinutes * 60

def refreshExpiry (settings : Settings) (env : Env) : ℕ :=
  env.seconds + settings.refreshTokenExpireDays * 86400

def accessClaims (settings : Settings) (env : Env) (sub : String) : Claims :=
  ⟨some sub, some (accessExpiry settings env), some env.seconds, some TokenType.ACCESS.value,
    some env.accessJti.str⟩

def refreshClaims (settings : Settings) (env : Env) (sub : String) : Claims :=
  ⟨some sub, some (refreshExpiry settings env), some env.seconds, some TokenType.REFRESH.value,
    some env.refreshJti.str⟩

section Tokens
variable {J : Type} (ext : External J) (settings : Settings) (env : Env)

def createAccessToken (sub : String) : J := ext.encode (accessClaims settings env sub)

def createRefreshToken (sub : String) : J := ext.encode (refreshClaims settings env sub)

end Tokens

/-! ## The blacklist -/

def KEY_PREFIX : String := "blacklist:"

/-- The key is in Redis and has not expired. -/
def blacklisted (redis : List (String × ℕ)) (now : ℕ) (jti : String) : Bool :=
  (redis.lookup (KEY_PREFIX ++ jti)).any fun expiry => now < expiry

def isRevoked (env : Env) (jti : String) : AuthM Bool := do
  let w ← get
  return env.redis && blacklisted w.redis env.now jti

/-- A time to live of whole seconds, `0` for a token that has expired. -/
def revoke (env : Env) (jti : String) (expiresAt : ℕ) : AuthM Bool := do
  let ttlSeconds := (expiresAt * 1000000 - env.now) / 1000000
  if ttlSeconds = 0 ∨ !env.redis then return false
  modify fun w =>
    { w with redis := (KEY_PREFIX ++ jti, env.now + ttlSeconds * 1000000) :: w.redis }
  return true

/-! ## Verification -/

def credentialsException : AuthError := .httpException 401 "Could not validate credentials"

def TokenType.ofValue (value : String) : Except AuthError TokenType :=
  if value = TokenType.ACCESS.value then .ok .ACCESS
  else if value = TokenType.REFRESH.value then .ok .REFRESH
  else .error .validationError

/-- `payload["exp"]`, `payload["iat"]` and the validation of the `TokenPayload`. -/
def Claims.payload (claims : Claims) (sub : String) : Except AuthError TokenPayload :=
  match claims.exp, claims.iat with
  | none, _ => .error (.keyError "exp")
  | _, none => .error (.keyError "iat")
  | some exp, some iat =>
      match TokenType.ofValue (claims.tokenType.getD TokenType.ACCESS.value) with
      | .error e => .error e
      | .ok tokenType => .ok ⟨sub, exp, iat, tokenType, claims.jti.getD ""⟩

section Verify
variable {J : Type} (ext : External J) (env : Env)

def verifyToken (token : J) : AuthM TokenPayload := do
  match ext.decode token env.seconds with
  | none => throw credentialsException
  | some claims =>
    match claims.sub with
    | none => throw credentialsException
    | some sub =>
      let payload ← claims.payload sub
      if payload.jti = "" then return payload
      if ← isRevoked env payload.jti then throw credentialsException
      return payload

def getCurrentUser (token : J) : AuthM User := do
  let tokenData ← verifyToken ext env token
  if tokenData.tokenType ≠ .ACCESS then throw (.httpException 401 "Invalid token type")
  match Uuid.parse tokenData.sub with
  | none => throw (.httpException 401 "Invalid user ID")
  | some userId =>
    match ← userById userId with
    | none => throw (.httpException 401 "User not found")
    | some user =>
      if !user.isActive then throw (.httpException 401 "Inactive user")
      return user

/-! ## What a verification does -/

/-- `verify_token` up to the blacklist. -/
def tokenPayload (seconds : ℕ) (token : J) : Except AuthError TokenPayload :=
  match ext.decode token seconds with
  | none => .error credentialsException
  | some claims =>
      match claims.sub with
      | none => .error credentialsException
      | some sub => claims.payload sub

/-- A token identity that is refused. -/
def refused (redis : List (String × ℕ)) (jti : String) : Bool :=
  jti ≠ "" ∧ env.redis ∧ blacklisted redis env.now jti

theorem isRevoked_run (jti : String) (w : World) :
    (isRevoked env jti).run w = .ok (env.redis && blacklisted w.redis env.now jti) w := rfl

theorem verifyToken_run (token : J) (w : World) : (verifyToken ext env token).run w =
    match tokenPayload ext env.seconds token with
    | .error e => .error e w
    | .ok payload =>
        if refused env w.redis payload.jti then .error credentialsException w
        else .ok payload w := by
  unfold verifyToken tokenPayload
  cases ext.decode token env.seconds with
  | none => rfl
  | some claims =>
      simp only
      cases claims.sub with
      | none => rfl
      | some sub =>
          simp only
          cases claims.payload sub with
          | error e => rfl
          | ok payload =>
              change (if payload.jti = "" then pure payload else _ : AuthM TokenPayload).run w = _
              by_cases empty : payload.jti = ""
              · simp only [refused, empty]
                rfl
              · rw [if_neg empty, EStateM.run_bind, isRevoked_run]
                simp only [refused, ne_eq, empty, not_false_eq_true, true_and, Bool.decide_and,
                  Bool.decide_eq_true]
                cases env.redis && blacklisted w.redis env.now payload.jti with
                | true => rfl
                | false => rfl

end Verify
end RenderTrust.Auth
