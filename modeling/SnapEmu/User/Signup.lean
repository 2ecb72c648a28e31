import SnapEmu.User.Status

/-! The two account requests that are guarded by a verification code. The
account service and the database are used through the operations below. -/
namespace SnapEmu.User

abbrev Id := Nat
abbrev Uuid := String

structure UserResp where
  id : Uuid
  username : String
  email : Option String

/-- A row of the users table, as far as the requests read it. -/
structure UserModel where
  id : Id
  uId : Option Uuid
  email : Option String
  password : String

/-- A request body over a world of services; effects before an error stay. -/
abbrev ApiM (World : Type) := ExceptT ApiError (StateM World)

/-- The remote account service. -/
structure UserManager (World : Type) where
  checkEmail : String → ApiM World (Option UserResp)
  resetPassword : Uuid → String → ApiM World Unit
  deleteUser : Uuid → ApiM World Unit

structure AppState (World : Type) where
  loadUserManager : Except ApiError (Option (UserManager World))
  findByEmail : String → ApiM World (Option UserModel)
  findByUId : Uuid → ApiM World (Option UserModel)
  genPassword : String → ApiM World String
  update : UserModel → ApiM World Unit
  deleteLocalUser : Id → ApiM World Unit

structure UserResetPassword where
  email : String
  code : String
  password : String

structure UserDelete where
  email : String
  code : String
  password : String

/-- How a guarded request ends: refused on its first line, or run. -/
inductive Answer where
  | refused (error : ApiError)
  | ran (result : Except ApiError String)

def Answer.passed : Answer → Prop
  | refused _ => False
  | ran _ => True

@[simp] theorem Answer.refused_passed (error : ApiError) :
    ¬ (Answer.refused error).passed := id

@[simp] theorem Answer.ran_passed (result : Except ApiError String) :
    (Answer.ran result).passed := trivial

variable {World : Type}

def notFoundEmail (email : String) : ApiError :=
  .user (.translated "messages.user.signup.not_found_email" [("email", email)])

/-- `?` on an optional row. -/
def okOr {α : Type} (found : Option α) (error : ApiError) : ApiM World α :=
  match found with
  | some value => pure value
  | none => throw error

namespace UserService

/-- A request whose first line is `valid_code(..)?`. -/
def whenValid (redis : Redis) (email code : String) (body : ApiM World String) (world : World) :
    Answer × World :=
  match UserStatus.validCode redis email code with
  | .error error => (.refused error, world)
  | .ok () =>
      let answer := body.run.run world
      (.ran answer.1, answer.2)

def resetPassword (state : AppState World) (redis : Redis) (user : UserResetPassword) :
    World → Answer × World :=
  whenValid redis user.email user.code do
    match ← liftExcept state.loadUserManager with
    | some userManager =>
        let userRemote ← okOr (← userManager.checkEmail user.email) (notFoundEmail user.email)
        userManager.resetPassword userRemote.id user.password
        return "password is changed"
    | none =>
        let model ← okOr (← state.findByEmail user.email) (notFoundEmail user.email)
        let s ← state.genPassword user.password
        state.update { model with password := s }
        return "password is changed"

def deleteUser (state : AppState World) (redis : Redis) (user : UserDelete) :
    World → Answer × World :=
  whenValid redis user.email user.code do
    if let some userManager ← liftExcept state.loadUserManager then
      let userRemote ← okOr (← userManager.checkEmail user.email) (notFoundEmail user.email)
      if let some userDb ← state.findByUId userRemote.id then
        state.deleteLocalUser userDb.id
        userManager.deleteUser userRemote.id
        return "user deleted"
    let user ← okOr (← state.findByEmail user.email) (.user (.plain "user not found"))
    state.deleteLocalUser user.id
    return "user deleted"

end UserService
end SnapEmu.User
