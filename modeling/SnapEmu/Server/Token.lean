import SnapEmu.Semantics.Base64
import SnapEmu.Semantics.Text
import SnapEmu.Server.Database

/-! Access and refresh tokens. A row remembers each token; an access token is
good for as long as its entry in the cache, which every login renews. -/
namespace SnapEmu.Server

open Device Management Semantics User Action

structure Token where
  accessToken : String
  expires : Nat
  refreshToken : String

/-- The random part of an access token, and a refresh token. -/
structure TokenTexts where
  hash : String
  refresh : String

namespace World

def now (world : World) : Timestamp := ⟨world.cache.tokens.now⟩

def withTokens (world : World) (tokens : ExpiringStore String RedisToken) : World :=
  { world with cache := { world.cache with tokens := tokens } }

end World

namespace TokenService

/-- In seconds. -/
def accessExpires : Nat := 60 * 60 * 24 * 10

def refreshExpires : Nat := 60 * 60 * 24 * 15

/-- A number of seconds in microseconds. -/
def seconds (count : Nat) : Nat := count * 1000000

def standardEncodeNoPad (text : String) : String :=
  String.ofList ((Base64.encodeChars (Semantics.Text.ascii text)).filter fun char => char ≠ '=')

def genAccessToken (id : Id) (hash : String) : String :=
  standardEncodeNoPad (showId id) ++ String.ofList (hash.toList.take 20)

def tokenErr : AppString := .translated "messages.user.login.token_err" []

def insertToken (userId : Id) (token : String) (tokenType : TokenType) (expires : Nat) :
    Service Unit := do
  let world ← get
  let id ← draw (·.token) fun next => { next with token := next.token + 1 }
  insertRow (fun world => world.rows.tokens.any fun row => row.id = id) fun rows =>
    { rows with
      tokens := rows.tokens ++
        [⟨id, userId, token, tokenType, true, ⟨world.now.micros + seconds expires⟩, world.now⟩] }

def accessToken (userId : Id) (texts : TokenTexts) : Service String := do
  insertToken userId (genAccessToken userId texts.hash) .Access accessExpires
  return genAccessToken userId texts.hash

def refreshToken (userId : Id) (texts : TokenTexts) : Service String := do
  insertToken userId texts.refresh .Refresh refreshExpires
  return texts.refresh

def authToken (token : UserTokenModel) (now : Timestamp) : Except ApiError TokenType :=
  match token.tokenType with
  | .Access =>
      if token.expiresTime.micros < now.micros then
        .error (.access (.translated "messages.user.access.access_timeout" []))
      else if ¬token.enable then
        .error (.access (.translated "messages.user.access.access_timeout" []))
      else .ok .Access
  | .Refresh =>
      if token.expiresTime.micros < now.micros then
        .error (.auth (.translated "messages.user.access.refresh_timeout" []))
      else if ¬token.enable then
        .error (.user (.translated "messages.user.access.refresh_disabled" []))
      else .ok .Refresh

def key (token : String) : String := "token:" ++ token

/-- `EX` with the lifetime of access tokens. -/
def setToken (token : String) (value : RedisToken) : Service Unit :=
  Action.modify fun world =>
    world.withTokens (world.cache.tokens.set (key token) value (seconds accessExpires))

def createToken (user : UsersModel) (texts : TokenTexts) : Service Token := do
  let (access, refresh) ← transaction rollback do
    let access ← accessToken user.id texts
    let refresh ← refreshToken user.id texts
    return (access, refresh)
  setToken access ⟨user.id, user.userLogin⟩
  return ⟨access, accessExpires, refresh⟩

/-- A token with the user it belongs to, as far as there are rows. -/
def findToken (world : World) (token : String) : Option (UserTokenModel × Option UsersModel) :=
  (world.rows.tokens.find? fun row => row.token = token).map fun row =>
    (row, world.rows.users.find? fun user => user.id = row.userId)

def refreshKey (token : String) (texts : TokenTexts) : Service Token := do
  let world ← get
  match findToken world token with
  | none => throw (.access tokenErr)
  | some (refresh, user) => do
      let tokenType ← ofExcept (authToken refresh world.now)
      match tokenType, user with
      | .Access, _ => throw (.user (.plain "require refresh token"))
      | .Refresh, some user => createToken user texts
      | .Refresh, none => throw (.user (.plain "Invalid token"))

/-- `GETEX`: what is found lives on from now. -/
def tokenLogin (token : String) : Service RedisToken := do
  let world ← get
  match world.cache.tokens.get (key token) with
  | none => throw (.access tokenErr)
  | some value => do
      setToken token value
      return value

/-- The keys are the texts of the tokens. -/
def delTokens (tokens : List String) : Service Unit :=
  Action.modify fun world =>
    world.withTokens (tokens.foldl (fun store token => store.delete token) world.cache.tokens)

def deleteUserToken (userId : Id) : Service Unit := do
  let world ← get
  let express := world.now.micros - seconds accessExpires
  let accessTokens := world.rows.tokens.filter fun row =>
    row.userId = userId ∧ row.tokenType = .Access ∧ express < row.expiresTime.micros
  delTokens (accessTokens.map fun row => row.token)
  Action.modify fun world =>
    { world with
      rows := { world.rows with
        tokens := world.rows.tokens.filter fun row => row.userId ≠ userId } }

end TokenService
end SnapEmu.Server
