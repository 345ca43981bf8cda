import RenderTrust.Auth.Jwt
import RenderTrust.Lib.Json
import RenderTrust.Scheduler.NodeService

/-!
# `verify_token` over the claims of any token

The secret of the gateway signs tokens of several kinds, and `jwt.decode` returns whatever
object a token was made from.
-/
namespace RenderTrust.Auth
open Lib

/-- The claims as `json.loads` returns them. -/
abbrev ClaimSet := List (String × Json)

/-- How `jwt.decode` ends; `raised` is an exception that is no `JWTError`. -/
inductive Decoded where
  | claims (payload : ClaimSet)
  | jwtError
  | raised

/-- The libraries: `jwt.decode` at a time in seconds, and what a field of type `datetime`
makes of a value. -/
structure ClaimReader (J : Type) where
  decode : J → ℕ → Decoded
  datetime : Json → Option ℕ

inductive VerifyError where
  | auth (error : AuthError)
  | library
  deriving DecidableEq, Repr

def TokenType.ofJson : Json → Option TokenType
  | .str value => (TokenType.ofValue value).toOption
  | _ => none

def ClaimSet.sub (payload : ClaimSet) : Json := (payload.lookup "sub").getD .null

def ClaimSet.tokenType (payload : ClaimSet) : Json :=
  (payload.lookup "token_type").getD (.str TokenType.ACCESS.value)

def ClaimSet.jti (payload : ClaimSet) : Json := (payload.lookup "jti").getD (.str "")

namespace ClaimReader
variable {J : Type} (reader : ClaimReader J)

/-- `TokenPayload(...)`: a value of another type is a `ValidationError`. -/
def tokenPayload (sub exp iat tokenType jti : Json) : Except AuthError TokenPayload :=
  match sub, reader.datetime exp, reader.datetime iat, TokenType.ofJson tokenType, jti with
  | .str sub, some exp, some iat, some tokenType, .str jti => .ok ⟨sub, exp, iat, tokenType, jti⟩
  | _, _, _, _, _ => .error .validationError

def payloadData (payload : ClaimSet) : Except AuthError TokenPayload :=
  match payload.lookup "exp", payload.lookup "iat" with
  | none, _ => .error (.keyError "exp")
  | _, none => .error (.keyError "iat")
  | some exp, some iat => reader.tokenPayload payload.sub exp iat payload.tokenType payload.jti

def verifyToken (env : Env) (redis : List (String × ℕ)) (token : J) :
    Except VerifyError TokenPayload :=
  match reader.decode token env.seconds with
  | .jwtError => .error (.auth credentialsException)
  | .raised => .error .library
  | .claims payload =>
      match payload.sub with
      | .null => .error (.auth credentialsException)
      | _ =>
          match reader.payloadData payload with
          | .error e => .error (.auth e)
          | .ok payloadData =>
              if refused env redis payloadData.jti then .error (.auth credentialsException)
              else .ok payloadData

end ClaimReader

/-! ## Which tokens are answered -/

/-- A payload, or the exception that the endpoints answer 401 with. -/
def Answered : Except VerifyError TokenPayload → Prop
  | .ok _ => True
  | .error (.auth (.httpException statusCode _)) => statusCode = 401
  | .error _ => False

def isText : Json → Bool
  | .str _ => true
  | _ => false

namespace ClaimReader
variable {J : Type} (reader : ClaimReader J)

def readsTime (value : Option Json) : Bool := value.any fun time => (reader.datetime time).isSome

/-- The claims have the types of the fields of `TokenPayload`. -/
def fits (payload : ClaimSet) : Bool :=
  isText payload.sub && reader.readsTime (payload.lookup "exp") &&
    reader.readsTime (payload.lookup "iat") &&
    (payload.tokenType.isStr "access" || payload.tokenType.isStr "refresh") && isText payload.jti

/-- The claims name no subject, or they fit. -/
def namelessOrFits (payload : ClaimSet) : Bool :=
  match payload.sub with
  | .null => true
  | _ => reader.fits payload

/-- The library refuses the token, or the claims are ones that get an answer. -/
def answerable : Decoded → Bool
  | .jwtError => true
  | .raised => false
  | .claims payload => reader.namelessOrFits payload

end ClaimReader

theorem isText_iff {value : Json} : isText value = true ↔ ∃ text, value = .str text := by
  cases value <;> simp [isText]

theorem TokenType.ofJson_isSome {value : Json} :
    (TokenType.ofJson value).isSome = (value.isStr "access" || value.isStr "refresh") := by
  cases value with
  | str text =>
      simp only [ofJson, ofValue, TokenType.value, Json.isStr]
      by_cases access : text = "access"
      · simp [access, Except.toOption]
      · by_cases refresh : text = "refresh"
        · simp [refresh, Except.toOption]
        · simp [access, refresh, Except.toOption]
  | null | bool | num | arr | obj => rfl

section Payloads
variable {J : Type} (reader : ClaimReader J)

theorem tokenPayload_cases (sub exp iat tokenType jti : Json) :
    (∃ data, reader.tokenPayload sub exp iat tokenType jti = .ok data) ∧
        (isText sub && (reader.datetime exp).isSome && (reader.datetime iat).isSome &&
          (TokenType.ofJson tokenType).isSome && isText jti) = true ∨
      reader.tokenPayload sub exp iat tokenType jti = .error .validationError ∧
        (isText sub && (reader.datetime exp).isSome && (reader.datetime iat).isSome &&
          (TokenType.ofJson tokenType).isSome && isText jti) = false := by
  unfold ClaimReader.tokenPayload
  split
  · rename_i sub exp' iat' tokenType' jti readExp readIat readType
    rw [readExp, readIat, readType]
    exact .inl ⟨⟨_, rfl⟩, rfl⟩
  · rename_i other
    refine .inr ⟨rfl, ?_⟩
    rw [← Bool.not_eq_true]
    intro typed
    simp only [Bool.and_eq_true, Option.isSome_iff_exists] at typed
    obtain ⟨⟨⟨⟨text, ⟨exp', readExp⟩⟩, ⟨iat', readIat⟩⟩, ⟨type, readType⟩⟩, jtiText⟩ := typed
    obtain ⟨sub', named⟩ := isText_iff.mp text
    obtain ⟨jti', identified⟩ := isText_iff.mp jtiText
    exact other sub' exp' iat' type jti' named readExp readIat readType identified

/-- What does not fit is a `KeyError` or a `ValidationError`. -/
theorem payloadData_cases (payload : ClaimSet) :
    (∃ data, reader.payloadData payload = .ok data) ∧ reader.fits payload = true ∨
      (∃ e, reader.payloadData payload = .error e ∧ ¬ Answered (.error (.auth e))) ∧
        reader.fits payload = false := by
  unfold ClaimReader.payloadData ClaimReader.fits ClaimReader.readsTime
  cases payload.lookup "exp" with
  | none => exact .inr ⟨⟨.keyError "exp", rfl, id⟩, by simp⟩
  | some exp =>
      cases payload.lookup "iat" with
      | none => exact .inr ⟨⟨.keyError "iat", rfl, id⟩, by simp⟩
      | some iat =>
          simp only [Option.any_some, ← TokenType.ofJson_isSome]
          rcases tokenPayload_cases reader payload.sub exp iat payload.tokenType
            payload.jti with ⟨made, typed⟩ | ⟨refused, untyped⟩
          · exact .inl ⟨made, typed⟩
          · exact .inr ⟨⟨.validationError, refused, id⟩, untyped⟩

theorem answered_claims {env : Env} {redis : List (String × ℕ)} {token : J} {payload : ClaimSet}
    (decoded : reader.decode token env.seconds = .claims payload) :
    Answered (reader.verifyToken env redis token) ↔ reader.namelessOrFits payload = true := by
  unfold ClaimReader.verifyToken ClaimReader.namelessOrFits
  rw [decoded]
  simp only
  split
  · exact iff_of_true rfl rfl
  · rcases payloadData_cases reader payload with
      ⟨⟨data, made⟩, typed⟩ | ⟨⟨e, refused, unanswered⟩, untyped⟩
    · rw [made, typed]
      simp only [iff_true]
      split
      · rfl
      · trivial
    · rw [refused, untyped]
      exact iff_of_false unanswered Bool.false_ne_true

end Payloads

/-- `verify_token` answers exactly the tokens that are `answerable`, whatever is revoked. -/
theorem answered_iff {J : Type} (reader : ClaimReader J) (env : Env) (redis : List (String × ℕ))
    (token : J) :
    Answered (reader.verifyToken env redis token) ↔
      reader.answerable (reader.decode token env.seconds) = true := by
  cases decoded : reader.decode token env.seconds with
  | claims payload => exact answered_claims reader decoded
  | jwtError =>
      unfold ClaimReader.verifyToken
      rw [decoded]
      exact iff_of_true rfl rfl
  | raised =>
      unfold ClaimReader.verifyToken
      rw [decoded]
      exact iff_of_false id Bool.false_ne_true

/-! ## Tokens of the gateway -/

/-- `jwt.encode` leaves out the claims that are not given. -/
def Claims.claimSet (claims : Claims) : ClaimSet :=
  (claims.sub.map fun sub => ("sub", Json.str sub)).toList ++
  (claims.exp.map fun exp => ("exp", Json.num exp)).toList ++
  (claims.iat.map fun iat => ("iat", Json.num iat)).toList ++
  (claims.tokenType.map fun tokenType => ("token_type", Json.str tokenType)).toList ++
  (claims.jti.map fun jti => ("jti", Json.str jti)).toList

/-- The reader sees the claims that `ext` sees, and a number of seconds is a time. -/
structure Reads {J : Type} (reader : ClaimReader J) (ext : External J) : Prop where
  decode : ∀ token seconds, reader.decode token seconds =
    match ext.decode token seconds with
    | none => .jwtError
    | some claims => .claims claims.claimSet
  datetime : ∀ seconds : ℕ, reader.datetime (.num seconds) = some seconds

section Typed
variable {J : Type} {reader : ClaimReader J} {ext : External J}

theorem ofValue_error {value : String} {e : AuthError}
    (unread : TokenType.ofValue value = .error e) : e = .validationError := by
  unfold TokenType.ofValue at unread
  split at unread
  · cases unread
  · split at unread
    · cases unread
    · cases unread
      rfl

theorem payloadData_claimSet (reads : Reads reader ext) (claims : Claims) {sub : String}
    (named : claims.sub = some sub) :
    reader.payloadData claims.claimSet = claims.payload sub := by
  obtain ⟨sub', exp, iat, tokenType, jti⟩ := claims
  obtain rfl : sub' = some sub := named
  cases exp with
  | none => cases iat <;> cases tokenType <;> cases jti <;> rfl
  | some exp =>
      cases iat with
      | none => cases tokenType <;> cases jti <;> rfl
      | some iat =>
          have same : reader.payloadData (Claims.claimSet ⟨some sub, some exp, some iat, tokenType,
              jti⟩) = reader.tokenPayload (.str sub) (.num exp) (.num iat)
                (.str (tokenType.getD TokenType.ACCESS.value)) (.str (jti.getD "")) := by
            cases tokenType <;> cases jti <;> rfl
          rw [same]
          simp only [ClaimReader.tokenPayload, reads.datetime, TokenType.ofJson, Claims.payload]
          cases type : TokenType.ofValue (tokenType.getD TokenType.ACCESS.value) with
          | ok tokenType => rfl
          | error e =>
              rw [ofValue_error type]
              rfl

/-- On the gateway's own claims this is `verifyToken`. -/
theorem verifyToken_claimSet (reads : Reads reader ext) (env : Env) (token : J) (w : World) :
    reader.verifyToken env w.redis token = match (verifyToken ext env token).run w with
      | .ok payload _ => .ok payload
      | .error e _ => .error (.auth e) := by
  rw [verifyToken_run]
  unfold ClaimReader.verifyToken tokenPayload
  rw [reads.decode]
  cases ext.decode token env.seconds with
  | none => rfl
  | some claims =>
      simp only
      cases named : claims.sub with
      | none =>
          have missing : claims.claimSet.sub = .null := by
            obtain ⟨sub, exp, iat, tokenType, jti⟩ := claims
            obtain rfl : sub = none := named
            cases exp <;> cases iat <;> cases tokenType <;> cases jti <;> rfl
          rw [missing]
      | some sub =>
          have present : claims.claimSet.sub = .str sub := by
            simp [Claims.claimSet, ClaimSet.sub, named]
          rw [present]
          simp only
          rw [payloadData_claimSet reads claims named]
          cases claims.payload sub with
          | error e => rfl
          | ok data =>
              simp only
              split <;> rfl

end Typed

/-- The claims of `create_node_token`. -/
def nodeClaimSet (token : Scheduler.NodeToken) : ClaimSet :=
  [("sub", .str token.sub), ("exp", .num token.exp), ("iat", .num token.iat),
    ("token_type", .str token.tokenType), ("capabilities", .arr token.capabilities),
    ("jti", .str token.jti)]

/-- No token of a node is answered. -/
theorem not_answered_node {J : Type} (reader : ClaimReader J) (env : Env)
    (redis : List (String × ℕ)) (token : J) (now : ℕ) (jti nodeId : Uuid)
    (capabilities : List Json) (decoded : reader.decode token env.seconds =
      .claims (nodeClaimSet (Scheduler.createNodeToken now jti nodeId capabilities))) :
    ¬ Answered (reader.verifyToken env redis token) := by
  rw [answered_claims reader decoded]
  have type : (nodeClaimSet (Scheduler.createNodeToken now jti nodeId capabilities)).tokenType =
      .str "node" := rfl
  have misfit : reader.fits (nodeClaimSet (Scheduler.createNodeToken now jti nodeId
      capabilities)) = false := by
    unfold ClaimReader.fits
    rw [type]
    simp [Json.isStr]
  change ¬ reader.fits _ = true
  rw [misfit]
  exact Bool.false_ne_true

/-- A token is its claims, a time is a number of seconds. -/
def plainReader : ClaimReader ClaimSet where
  decode token seconds :=
    match token.lookup "exp" with
    | some (.num exp) => if seconds ≤ exp then .claims token else .jwtError
    | none => .claims token
    | _ => .raised
  datetime
    | .num seconds => if 0 ≤ seconds then some ⌊seconds⌋.toNat else none
    | _ => none

/-- A token of a node that has not expired. -/
theorem not_answered : ¬ ∀ env redis (token : ClaimSet),
    Answered (plainReader.verifyToken env redis token) := by
  intro answered
  have decoded : plainReader.decode (nodeClaimSet (Scheduler.createNodeToken 0 7 3 [])) 0 =
      .claims (nodeClaimSet (Scheduler.createNodeToken 0 7 3 [])) := by
    have expiry : (nodeClaimSet (Scheduler.createNodeToken 0 7 3 [])).lookup "exp" =
        some (.num ((0 / 1000000 + 24 * 3600 : ℕ) : ℚ)) := rfl
    unfold plainReader
    simp only [expiry]
    exact if_pos (Nat.cast_le.mpr (Nat.zero_le _))
  exact not_answered_node plainReader ⟨0, true, "", 0, 0, 0⟩ [] _ 0 7 3 [] decoded (answered _ _ _)

end RenderTrust.Auth
