import RenderTrust.Ledger.Models
import RenderTrust.Lib.Keyed
import RenderTrust.Lib.Uuid

/-!
# Users and their sessions

The `users` table of `core/models/base.py`, the Redis keys of the token blacklist, and the
session that `get_db_session` of `core/database.py` gives to a request.
-/
namespace RenderTrust.Auth
open Lib Lib.Keyed
open Ledger (bindable)

structure User where
  id : Uuid
  email : String
  name : String
  hashedPassword : String
  isActive : Bool
  isAdmin : Bool
  deriving DecidableEq, Repr

/-- What a column `String(255)` takes. -/
def string255 (s : String) : Bool := s.length ≤ 255 ∧ bindable s

def User.storable (user : User) : Bool :=
  string255 user.email ∧ string255 user.name ∧ string255 user.hashedPassword

structure Users where
  rows : List User
  ids : DistinctKeys User.id rows
  emails : DistinctKeys User.email rows
  deriving DecidableEq

inductive AuthError where
  | httpException (statusCode : ℕ) (detail : String)
  | dataError
  | integrityError
  | keyError (key : String)
  | validationError
  | passwordError
  deriving DecidableEq, Repr

def Users.insert (users : Users) (user : User) : Except AuthError Users :=
  if user.storable then
    if fresh : user.id ∉ users.rows.map User.id ∧ user.email ∉ users.rows.map User.email then
      .ok ⟨users.rows ++ [user], users.ids.append_singleton fresh.1,
        users.emails.append_singleton fresh.2⟩
    else .error .integrityError
  else .error .dataError

def Users.empty : Users := ⟨[], List.nodup_nil, List.nodup_nil⟩

structure Session where
  committed : Users
  working : Users
  deriving DecidableEq

/-- What a request works on. A key of Redis has the time it expires at, in microseconds. -/
structure World where
  session : Session
  redis : List (String × ℕ)
  deriving DecidableEq

abbrev AuthM := EStateM AuthError World

instance : MonadLift (Except AuthError) AuthM where
  monadLift
    | .ok a => pure a
    | .error e => throw e

/-- `SELECT … FROM users WHERE email = …`. -/
def userByEmail (email : String) : AuthM (Option User) := do
  if bindable email then
    let w ← get
    return w.session.working.rows.find? fun user => user.email = email
  else throw .dataError

/-- `SELECT … FROM users WHERE id = …`. -/
def userById (id : Uuid) : AuthM (Option User) := do
  let w ← get
  return w.session.working.rows.find? fun user => user.id = id

/-- `session.add` and `session.flush`. A failed flush rolls the transaction back. -/
def addUser (user : User) : AuthM Unit := do
  let w ← get
  match w.session.working.insert user with
  | .ok users => modify fun w => { w with session := { w.session with working := users } }
  | .error e =>
      modify fun w => { w with session := { w.session with working := w.session.committed } }
      throw e

/-- `get_db_session`: a session of its own for a request, closed when the request is done;
what it has not committed is gone. -/
def withSession {α : Type} (handler : AuthM α) (users : Users) (redis : List (String × ℕ)) :
    Except AuthError α × Users × List (String × ℕ) :=
  match handler.run ⟨⟨users, users⟩, redis⟩ with
  | .ok a w => (.ok a, w.session.committed, w.redis)
  | .error e w => (.error e, w.session.committed, w.redis)

end RenderTrust.Auth
