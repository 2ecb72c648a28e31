import SnapEmu.User.PasswordHash
import SnapEmu.User.Signup

/-! The change of a password by its user: in the remote account service, where
one is configured, and then in the local table. -/
namespace SnapEmu.User.PasswordChange

open Semantics Semantics.Exec

/-- A row of the users table, as far as the request reads it. -/
structure UsersModel where
  uId : Uuid
  password : List UInt8

/-- The remote account service. An account accepts at most one password. A
change that is confirmed was asked for with that password, and sets the new
one; what a change does that is not confirmed is left open. -/
structure UserManager (Remote : Type) where
  password : Remote → Uuid → Option (List UInt8)
  changePassword (remote : Remote) (id : Uuid) (new old : List UInt8) :
    Remote × Except ApiError Unit
  changed (remote : Remote) (id : Uuid) (new old : List UInt8) :
    (changePassword remote id new old).2 = .ok () →
      password remote id = some old ∧
        password (changePassword remote id new old).1 id = some new

structure UserPutInfo where
  password : Option (List UInt8)
  oldPassword : Option (List UInt8)

structure State (Remote : Type) where
  users : Id → Option UsersModel
  remote : Remote

/-- `update` of the row of a user. -/
def State.updateUser {Remote : Type} (state : State Remote) (user : Id) (m : UsersModel) :
    State Remote :=
  { state with users := Function.update state.users user (some m) }

@[simp] theorem State.updateUser_self {Remote : Type} (state : State Remote) (user : Id)
    (m : UsersModel) : (state.updateUser user m).users user = some m := Function.update_self ..

/-- What a request depends on beside the stored passwords: the digest function
and the salt drawn, the configuration, and errors of the database. -/
structure Environment (Remote : Type) where
  md5 : Md5
  salt : Salt
  loadUserManager : Except ApiError (Option (UserManager Remote))
  findError : Option ApiError
  updateError : Option ApiError

variable {Remote : Type}

/-- The second half of the request, on the row that was read. -/
def changeLocal (env : Environment Remote) (state : State Remote) (user : Id) (u : UsersModel)
    (password oldPassword : List UInt8) : State Remote × Exec ApiError Unit :=
  match checkPassword env.md5 oldPassword u.password with
  | .ok false => (state, .err (.user (.plain "password error")))
  | .ok true =>
      match genPassword env.md5 password env.salt.bytes with
      | .ok newPassword =>
          match env.updateError with
          | some error => (state, .err error)
          | none => (state.updateUser user { u with password := newPassword }, .ok ())
      | _ => (state, .panic)
  | _ => (state, .panic)

/-- `UserService::info`. -/
def info (env : Environment Remote) (state : State Remote) (user : Id) (info : UserPutInfo) :
    State Remote × Exec ApiError Unit :=
  match info.password, info.oldPassword with
  | none, _ => (state, .err (.user (.translated "messages.user.reset_password.password" [])))
  | some _, none =>
      (state, .err (.user (.translated "messages.user.reset_password.old_password" [])))
  | some password, some oldPassword =>
      if password.length < 8 then
        (state, .err (.user (.translated "messages.user.reset_password.short" [])))
      else
        match env.findError with
        | some error => (state, .err error)
        | none =>
            match state.users user with
            | none => (state, .err (.user (.translated "messages.user.info.not_found" [])))
            | some u =>
                match env.loadUserManager with
                | .error error => (state, .err error)
                | .ok none => changeLocal env state user u password oldPassword
                | .ok (some userManager) =>
                    let change :=
                      userManager.changePassword state.remote u.uId password oldPassword
                    let state := { state with remote := change.1 }
                    match change.2 with
                    | .error error => (state, .err error)
                    | .ok () => changeLocal env state user u password oldPassword

/-- No password of the user is changed. -/
structure Unchanged (env : Environment Remote) (user : Id) (before after : State Remote) :
    Prop where
  users : after.users = before.users
  remote : ∀ manager u, env.loadUserManager = .ok (some manager) → before.users user = some u →
    manager.password after.remote u.uId = manager.password before.remote u.uId

/-- Both accounts accept the new password and not the old one. -/
structure Changed (env : Environment Remote) (user : Id) (before after : State Remote)
    (password oldPassword : List UInt8) : Prop where
  users : ∃ u, after.users user = some u ∧
    checkPassword env.md5 password u.password = .ok true ∧
    checkPassword env.md5 oldPassword u.password = .ok false
  remote : ∀ manager u, env.loadUserManager = .ok (some manager) → before.users user = some u →
    manager.password after.remote u.uId = some password ∧ password ≠ oldPassword

/-- An error leaves all passwords, and a success changes both. -/
def AllOrNothing (env : Environment Remote) (state : State Remote) (user : Id)
    (request : UserPutInfo) : Prop :=
  let result := info env state user request
  (∀ error, result.2 = .err error → Unchanged env user state result.1) ∧
    (result.2 = .ok () → ∃ password oldPassword, request = ⟨some password, some oldPassword⟩ ∧
      Changed env user state result.1 password oldPassword)

/-- What the local half needs: where the remote password has become another
one, the local check and the update succeed, and the new password has another
digest than the old one. -/
def LocalHolds (env : Environment Remote) (u : UsersModel) (password oldPassword : List UInt8)
    (remoteChanged : Prop) : Prop :=
  (checkPassword env.md5 oldPassword u.password = .ok false → ¬remoteChanged) ∧
    (checkPassword env.md5 oldPassword u.password = .ok true → password.length ≤ 84 →
      (env.updateError ≠ none → ¬remoteChanged) ∧
        (env.updateError = none →
          iteratedDigest env.md5 oldPassword env.salt.bytes (1 <<< 13) ≠
            iteratedDigest env.md5 password env.salt.bytes (1 <<< 13)))

/-- There is no service, or its refusal leaves the password, or the local half
follows its change. -/
def ServiceHolds (env : Environment Remote) (state : State Remote) (u : UsersModel)
    (password oldPassword : List UInt8) : Prop :=
  match env.loadUserManager with
  | .error _ => True
  | .ok none => LocalHolds env u password oldPassword False
  | .ok (some manager) =>
      let change := manager.changePassword state.remote u.uId password oldPassword
      match change.2 with
      | .error _ => manager.password change.1 u.uId = manager.password state.remote u.uId
      | .ok () => LocalHolds env u password oldPassword (password ≠ oldPassword)

/-- The same, of a request that gets as far as the change. -/
def Follows (env : Environment Remote) (state : State Remote) (user : Id)
    (request : UserPutInfo) : Prop :=
  ∀ password oldPassword u, request = ⟨some password, some oldPassword⟩ →
    8 ≤ password.length → env.findError = none → state.users user = some u →
      ServiceHolds env state u password oldPassword

section Local

variable {env : Environment Remote} {before state : State Remote} {user : Id} {u : UsersModel}
  {password oldPassword : List UInt8} {remoteChanged : Prop}

/-- The two parts of the property, on a result. -/
def Keeps (env : Environment Remote) (before : State Remote) (user : Id)
    (password oldPassword : List UInt8) (result : State Remote × Exec ApiError Unit) : Prop :=
  (∀ error, result.2 = .err error → Unchanged env user before result.1) ∧
    (result.2 = .ok () → Changed env user before result.1 password oldPassword)

/-- An error keeps the account exactly when nothing changed. -/
theorem keeps_err {error : ApiError} :
    Keeps env before user password oldPassword (state, .err error) ↔
      Unchanged env user before state := by
  constructor
  · intro h
    exact h.1 error rfl
  · intro h
    refine ⟨fun _ _ => h, fun hOk => ?_⟩
    cases hOk

/-- A success keeps the account exactly when the password changed on both sides. -/
theorem keeps_ok :
    Keeps env before user password oldPassword (state, .ok ()) ↔
      Changed env user before state password oldPassword := by
  constructor
  · intro h
    exact h.2 rfl
  · intro h
    refine ⟨fun _ hErr => ?_, fun _ => h⟩
    cases hErr

/-- A panic keeps nothing. -/
theorem keeps_panic : Keeps env before user password oldPassword (state, .panic) := by
  constructor
  · rintro _ ⟨⟩
  · rintro ⟨⟩

/-- The row with the new hash accepts the new password, and the old one unless
their digests are the same. -/
theorem changed_iff (hOld : oldPassword.length ≤ 84) (hPassword : password.length ≤ 84)
    (hNew : password ≠ oldPassword → ∀ manager w, env.loadUserManager = .ok (some manager) →
      before.users user = some w → manager.password state.remote w.uId = some password) :
    Changed env user before
        (state.updateUser user { u with
          password := storedForm env.salt.bytes
            (iteratedDigest env.md5 password env.salt.bytes (1 <<< 13)) })
        password oldPassword ↔
      iteratedDigest env.md5 oldPassword env.salt.bytes (1 <<< 13) ≠
        iteratedDigest env.md5 password env.salt.bytes (1 <<< 13) := by
  have hOldCheck := checkPassword_eq env.md5 env.salt hOld
    (iteratedDigest env.md5 password env.salt.bytes (1 <<< 13))
  have hNewCheck := checkPassword_eq env.md5 env.salt hPassword
    (iteratedDigest env.md5 password env.salt.bytes (1 <<< 13))
  rw [decide_eq_true rfl] at hNewCheck
  constructor
  · rintro ⟨⟨row, hRow, -, hRefused⟩, -⟩ hSame
    rw [State.updateUser_self, Option.some.injEq] at hRow
    rw [← hRow, hOldCheck, decide_eq_true hSame] at hRefused
    cases hRefused
  · intro hDiffer
    have hNe : password ≠ oldPassword := fun hEq => hDiffer (by rw [hEq])
    refine ⟨⟨_, State.updateUser_self .., hNewCheck, ?_⟩, fun manager w hManager hRow =>
      ⟨hNew hNe manager w hManager hRow, hNe⟩⟩
    rw [hOldCheck, decide_eq_false hDiffer]

/-- The local half, after a remote half that has changed the password or not. -/
theorem changeLocal_keeps_iff (hUsers : state.users = before.users)
    (hRemote : (∀ manager w, env.loadUserManager = .ok (some manager) →
      before.users user = some w →
        manager.password state.remote w.uId = manager.password before.remote w.uId) ↔
      ¬remoteChanged)
    (hNew : password ≠ oldPassword → ∀ manager w, env.loadUserManager = .ok (some manager) →
      before.users user = some w → manager.password state.remote w.uId = some password) :
    Keeps env before user password oldPassword
        (changeLocal env state user u password oldPassword) ↔
      LocalHolds env u password oldPassword remoteChanged := by
  have hUnchanged : Unchanged env user before state ↔ ¬remoteChanged := by
    rw [← hRemote]
    exact ⟨fun h => h.remote, fun h => ⟨hUsers, h⟩⟩
  rw [changeLocal, LocalHolds]
  cases hCheck : checkPassword env.md5 oldPassword u.password with
  | ok answer =>
      cases answer with
      | false =>
          simp only [keeps_err, hUnchanged]
          simp
      | true =>
          by_cases hLength : password.length ≤ 84
          · have hOld := length_of_checkPassword hCheck
            rw [genPassword_eq env.md5 hLength]
            cases hUpdate : env.updateError with
            | some error =>
                simp only [keeps_err, hUnchanged]
                simp [hLength]
            | none =>
                simp only [keeps_ok, changed_iff hOld hLength hNew]
                simp [hLength]
          · rw [genPassword_long env.md5 (Nat.lt_of_not_le hLength)]
            exact iff_of_true keeps_panic
              ⟨(by rintro ⟨⟩), fun _ hShort => absurd hShort hLength⟩
  | err error => cases error
  | panic => simpa using keeps_panic
  | diverge => simpa using keeps_panic

end Local

section Request

variable {env : Environment Remote} {state : State Remote} {user : Id} {request : UserPutInfo}
  {password oldPassword : List UInt8}

/-- A state is unchanged from itself. -/
theorem unchanged_self : Unchanged env user state state := ⟨rfl, fun _ _ _ _ => rfl⟩

/-- A request refused before its first write changes nothing. -/
theorem allOrNothing_of_err {error : ApiError}
    (h : info env state user request = (state, .err error)) :
    AllOrNothing env state user request := by
  rw [AllOrNothing, h]
  refine ⟨fun _ _ => unchanged_self, ?_⟩
  rintro ⟨⟩

/-- All or nothing, for a request that carries both passwords. -/
theorem allOrNothing_iff_keeps :
    AllOrNothing env state user ⟨some password, some oldPassword⟩ ↔
      Keeps env state user password oldPassword
        (info env state user ⟨some password, some oldPassword⟩) := by
  refine and_congr_right fun _ => imp_congr_right fun _ => ?_
  constructor
  · rintro ⟨_, _, hRequest, hChanged⟩
    cases hRequest
    exact hChanged
  · exact fun hChanged => ⟨password, oldPassword, rfl, hChanged⟩

/-- A request refused early follows the rule. -/
theorem follows_of_early
    (h : ∀ password oldPassword u, request = ⟨some password, some oldPassword⟩ →
      8 ≤ password.length → env.findError = none → state.users user ≠ some u) :
    Follows env state user request :=
  fun password oldPassword u hRequest hLength hFind hRow =>
    absurd hRow (h password oldPassword u hRequest hLength hFind)

/-- The part of a request that reads the row of its user. -/
theorem service_keeps_iff {u : UsersModel} (hShort : ¬password.length < 8)
    (hFind : env.findError = none) (hRow : state.users user = some u) :
    Keeps env state user password oldPassword
        (info env state user ⟨some password, some oldPassword⟩) ↔
      ServiceHolds env state u password oldPassword := by
  rcases hManager : env.loadUserManager with error | (_ | manager)
  · simp only [info, hShort, if_false, hFind, hRow, ServiceHolds, hManager]
    exact iff_of_true (keeps_err.mpr unchanged_self) trivial
  · have hNone : ∀ manager : UserManager Remote, env.loadUserManager ≠ .ok (some manager) := by
      intro manager hSome
      rw [hManager] at hSome
      cases hSome
    simp only [info, hShort, if_false, hFind, hRow, ServiceHolds, hManager]
    exact changeLocal_keeps_iff rfl
      (iff_of_true (fun manager _ hSome => absurd hSome (hNone manager)) not_false)
      fun _ manager _ hSome => absurd hSome (hNone manager)
  · have hOnly : ∀ manager' w, env.loadUserManager = .ok (some manager') →
        state.users user = some w → manager' = manager ∧ w = u := by
      intro manager' w hSome hW
      rw [hManager] at hSome
      rw [hRow] at hW
      cases hSome
      cases hW
      exact ⟨rfl, rfl⟩
    have hLaw := manager.changed state.remote u.uId password oldPassword
    simp only [info, hShort, if_false, hFind, hRow, ServiceHolds, hManager]
    rcases hAnswer : (manager.changePassword state.remote u.uId password oldPassword).2 with
      error | ⟨⟩
    · refine keeps_err.trans ⟨fun h => h.remote manager u hManager hRow, fun h => ⟨rfl, ?_⟩⟩
      intro manager' w hSome hW
      obtain ⟨rfl, rfl⟩ := hOnly manager' w hSome hW
      exact h
    · obtain ⟨hBefore, hAfter⟩ := hLaw hAnswer
      refine changeLocal_keeps_iff rfl ⟨fun h hNe => ?_, fun h manager' w hSome hW => ?_⟩ ?_
      · have hSame := h manager u hManager hRow
        rw [hAfter, hBefore, Option.some.injEq] at hSame
        exact hNe hSame
      · obtain ⟨rfl, rfl⟩ := hOnly manager' w hSome hW
        rw [hAfter, hBefore, not_not.mp h]
      · intro _ manager' w hSome hW
        obtain ⟨rfl, rfl⟩ := hOnly manager' w hSome hW
        exact hAfter

end Request

/-- A password change is all or nothing exactly if its local half follows. -/
theorem allOrNothing_iff_follows (env : Environment Remote) (state : State Remote) (user : Id)
    (request : UserPutInfo) :
    AllOrNothing env state user request ↔ Follows env state user request := by
  rcases request with ⟨password, oldPassword⟩
  rcases password with _ | password
  · exact iff_of_true (allOrNothing_of_err rfl) (follows_of_early (by rintro _ _ _ ⟨⟩))
  rcases oldPassword with _ | oldPassword
  · exact iff_of_true (allOrNothing_of_err rfl) (follows_of_early (by rintro _ _ _ ⟨⟩))
  by_cases hShort : password.length < 8
  · refine iff_of_true (allOrNothing_of_err (by simp only [info, hShort, if_true]; rfl))
      (follows_of_early ?_)
    rintro _ _ _ ⟨⟩ hLength
    omega
  cases hFind : env.findError with
  | some error =>
      refine iff_of_true (allOrNothing_of_err (by simp only [info, hShort, if_false, hFind]; rfl))
        (follows_of_early ?_)
      rintro _ _ _ - - hNone
      rw [hFind] at hNone
      cases hNone
  | none =>
      cases hRow : state.users user with
      | none =>
          refine iff_of_true
            (allOrNothing_of_err (by simp only [info, hShort, if_false, hFind, hRow]; rfl))
            (follows_of_early ?_)
          rintro _ _ _ - - - hSome
          rw [hRow] at hSome
          cases hSome
      | some u =>
          have hFollows : Follows env state user ⟨some password, some oldPassword⟩ ↔
              ServiceHolds env state u password oldPassword := by
            constructor
            · intro h
              exact h password oldPassword u rfl (Nat.le_of_not_lt hShort) hFind hRow
            · rintro h _ _ other ⟨⟩ _ _ hOther
              rw [hRow] at hOther
              cases hOther
              exact h
          rw [hFollows, allOrNothing_iff_keeps]
          exact service_keeps_iff hShort hFind hRow

/-- A service that keeps the passwords of its accounts. -/
def accounts : UserManager (Uuid → Option (List UInt8)) where
  password remote id := remote id
  changePassword remote id new old :=
    if remote id = some old then (Function.update remote id (some new), .ok ())
    else (remote, .error (.user (.plain "password error")))
  changed remote id new old := by
    intro h
    split_ifs at h ⊢ with hOld
    exact ⟨hOld, Function.update_self ..⟩

/-- A user who came by a remote login: the local password is empty. -/
def remoteUser : State (Uuid → Option (List UInt8)) where
  users := fun _ => some ⟨"id", []⟩
  remote := fun _ => some (Text.ascii "old-password")

/-- The request fails after the remote password has changed. -/
theorem remote_user_half_changed :
    ¬∀ (env : Environment (Uuid → Option (List UInt8)))
      (state : State (Uuid → Option (List UInt8))) (user : Id) (request : UserPutInfo),
      AllOrNothing env state user request := by
  intro h
  let env : Environment (Uuid → Option (List UInt8)) :=
    { md5 := fun _ => Vector.replicate 16 0
      salt := ⟨Text.ascii "1f90657d", by decide, by decide +kernel⟩
      loadUserManager := .ok (some accounts)
      findError := none
      updateError := none }
  let request : UserPutInfo := ⟨some (Text.ascii "new-password"), some (Text.ascii "old-password")⟩
  have hUnchanged := (h env remoteUser 1 request).1 (.user (.plain "password error")) rfl
  have hRemote := hUnchanged.remote accounts ⟨"id", []⟩ rfl rfl
  exact absurd hRemote (by decide)

end SnapEmu.User.PasswordChange
