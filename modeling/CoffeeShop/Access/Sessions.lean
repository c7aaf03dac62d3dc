import CoffeeShop.Access.Employees

/-!
Sessions, refresh tokens, sign-ins and password resets.
-/

namespace CoffeeShop

open Transaction AccessStore

namespace AuthSessionService

def invalidToken : Failure := .unauthorized "Invalid token"

def invalidCredentials : Failure := .unauthorized "Invalid email or password"

/-- `REFRESH_TOKEN_TTL_MS`, and `REFRESH_TOKEN_EXPIRE_IN` in milliseconds. -/
def refreshTokenTtlMs : Nat := 30 * 24 * 60 * 60 * 1000

/-- The refresh token of `createTokenPair`, whose times are in whole seconds. -/
def refreshToken (employeeId : Id) (email : String) (sessionId familyId : Id) (now : Timestamp) :
    RefreshToken where
  sub := employeeId
  email
  sid := sessionId
  familyId
  exp := now / 1000 + refreshTokenTtlMs / 1000

def sign (token : RefreshToken) : Tx AccessStore Failure Unit :=
  modify fun store => { store with signed := token :: store.signed }

/-- `verifyRefreshToken`: the signature is one of the server, and the token is not past its own
expiry. -/
def isVerified (store : AccessStore) (token : RefreshToken) (now : Timestamp) : Bool :=
  token ∈ store.signed && now / 1000 < token.exp

def newSession (token : RefreshToken) (now : Timestamp) : AuthSession where
  id := token.sid
  familyId := token.familyId
  employeeId := token.sub
  refreshTokenHash := token
  expiresAt := now + refreshTokenTtlMs
  lastUsedAt := none
  revokedAt := none
  revokeReason := none

/-- What `createSession` checks again in its transaction. -/
inductive SignInProof where
  | none
  | google (subject : String)
  | password (hash : String)

def SignInProof.accepts (proof : SignInProof) (employee : EmployeeAccount) : Bool :=
  match proof with
  | .none => true
  | .google subject => employee.googleSubject = some subject && employee.isEnabled
  | .password hash => employee.password = hash && employee.isEnabled

def createSession (employeeId : Id) (email : String) (proof : SignInProof) (now : Timestamp) :
    Tx AccessStore Failure Unit := do
  let sessionId ← freshId
  let familyId ← freshId
  let token := refreshToken employeeId email sessionId familyId now
  sign token
  let _ ← findFirstOrFail accessEmployee
    (fun employee => employee.id = employeeId && proof.accepts employee) invalidCredentials
  create authSession (newSession token now) (.constraint "AuthSession_pkey")

/-- The session is the one that the token was issued for, and both are in force. -/
def isValid (store : AccessStore) (token : RefreshToken) (now : Timestamp)
    (session : AuthSession) : Bool :=
  session.employeeId = token.sub && session.familyId = token.familyId &&
    (store.employees.find? session.employeeId).any
      (fun employee => employee.isEnabled && employee.email = token.email) &&
    session.isUsable now && session.refreshTokenHash = token

/-- The verification and the first transaction of `rotate`: the next token, unless the token is
refused. -/
def rotate (token : RefreshToken) (now : Timestamp) :
    Tx AccessStore Failure (Option RefreshToken) := do
  let store ← get
  require (isVerified store token now) invalidToken
  let current ← findUnique authSession token.sid
  if current.any (isValid store token now) then do
    let nextSessionId ← freshId
    let consumed ← updateMany authSession
      (fun session => session.id = token.sid &&
        (session.isUsable now && session.refreshTokenHash = token))
      fun session => { session with
        revokedAt := some now
        lastUsedAt := some now
        revokeReason := some .refreshRotated }
    if consumed = 1 then do
      let next := refreshToken token.sub token.email nextSessionId token.familyId now
      sign next
      create authSession (newSession next now) (.constraint "AuthSession_pkey")
      pure (some next)
    else pure none
  else pure none

/-- The sessions of the family that are not revoked. -/
def isOpen (employeeId familyId : Id) (session : AuthSession) : Bool :=
  session.employeeId = employeeId && session.familyId = familyId && session.revokedAt.isNone

/-- The second transaction of `rotate`, for a token that was refused. -/
def revokeFamily (employeeId familyId : Id) (reason : SessionRevokeReason) (now : Timestamp) :
    Tx AccessStore Failure Unit := do
  let _ ← updateMany authSession (isOpen employeeId familyId)
    (fun session => { session with revokedAt := some now, revokeReason := some reason })
    (AuthSession.id_revoked now reason)

/-- The logout. -/
def revoke (token : RefreshToken) (now : Timestamp) : Tx AccessStore Failure Unit := do
  let store ← get
  when (isVerified store token now) (do
    let session ← findFirst authSession fun session => session.id = token.sid &&
      session.employeeId = token.sub && session.familyId = token.familyId
    whenSome session fun session =>
      revokeFamily token.sub token.familyId
        (if session.refreshTokenHash = token then .logout else .refreshReuse) now)

/-- The session part of `runHousekeepingIfNeeded`, for the rows that fit in a batch and are not
locked. -/
def dropExpired (batch : Id → Bool) (now : Timestamp) : Tx AccessStore Failure Unit := do
  let _ ← deleteMany authSession fun session =>
    batch session.id && session.expiresAt + 30 * 86400000 < now

end AuthSessionService

namespace AuthService

/-- The transaction of `linkGoogle`. -/
def linkGoogle (employeeId : Id) (email password subject : String) (now : Timestamp) :
    Tx AccessStore Failure Unit := do
  let linked ← findFirst accessEmployee fun other => other.googleSubject = some subject
  require (linked.isNone) (.badRequest "Google account is already linked.")
  updateExpecting accessEmployee employeeId
    (fun row => row.googleSubject.isNone && row.isEnabled && row.email = email &&
      row.password = password)
    (fun row => { row with googleSubject := some subject, updatedAt := now })
    (.badRequest "Google account link changed.")

/-- The transaction of `unlinkGoogle`. -/
def unlinkGoogle (employeeId : Id) (password subject : String) (now : Timestamp) :
    Tx AccessStore Failure Unit := do
  updateExpecting accessEmployee employeeId
    (fun row => row.googleSubject = some subject && row.isEnabled && row.password = password)
    (fun row => { row with googleSubject := none, updatedAt := now })
    (.badRequest "Google account link changed.")
  EmployeesService.revokeSessions employeeId .googleUnlinked now

end AuthService

namespace PasswordResetService

/-- `PASSWORD_RESET_EXPIRE_IN_MINUTES`. -/
def resetTtlMs : Nat := 15 * 60 * 1000

/-- The transaction of `requestReset`. -/
def requestReset (employeeId : Id) (now : Timestamp) : Tx AccessStore Failure Unit := do
  let _ ← findFirstOrFail accessEmployee
    (fun employee => employee.id = employeeId && employee.isEnabled)
    (.notFound "User not found")
  let id ← freshId
  EmployeesService.useResetTokens employeeId now
  create passwordResetToken
    { id, tokenHash := id, expiresAt := now + resetTtlMs, usedAt := none, employeeId }
    (.constraint "PasswordResetToken_pkey")

/-- The row may still be used for a reset. -/
def isUsable (store : AccessStore) (now : Timestamp) (record : PasswordResetToken) : Bool :=
  record.usedAt.isNone && now < record.expiresAt &&
    (store.employees.find? record.employeeId).any (·.isEnabled)

/-- The transaction of `resetPassword`, with nothing between its statements. -/
def resetPassword (tokenHash : Id) (passwordHash : String) (now : Timestamp) :
    Tx AccessStore Failure Unit := do
  let store ← get
  let record ← findFirstOrFail passwordResetToken
    (fun record => record.tokenHash = tokenHash && isUsable store now record)
    AuthSessionService.invalidToken
  updateExpecting passwordResetToken record.id
    (fun row => row.usedAt.isNone && now < row.expiresAt)
    (fun row => { row with usedAt := some now }) AuthSessionService.invalidToken
    (PasswordResetToken.id_used now)
  updateExpecting accessEmployee record.employeeId (fun _ => true)
    (fun row => { row with password := passwordHash, updatedAt := now })
    (.notFound "Record to update not found.")
  EmployeesService.revokeSessions record.employeeId .passwordReset now

end PasswordResetService

end CoffeeShop
