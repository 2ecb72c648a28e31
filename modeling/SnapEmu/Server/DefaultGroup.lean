import SnapEmu.Semantics.Run
import SnapEmu.Server.Database

/-! The requests that look for the default group of a user and create it if it
is missing, each taken step by step while others run. A transaction keeps its
rows to itself until it commits. -/
namespace SnapEmu.Server.DefaultGroup

open Device Semantics

/-- A row of a user, with the columns that are unique. -/
structure UserRow where
  id : Id
  uId : String
  userLogin : String
  email : Option String
  deriving DecidableEq

/-- Whether a unique column of two rows is the same. -/
def UserRow.clashes (row other : UserRow) : Bool :=
  row.uId = other.uId || row.userLogin = other.userLogin ||
    row.email.isSome && row.email = other.email

/-- A user to be: name and address of the form, and what the account service
says. A login has no form. -/
structure NewUser where
  userLogin : String
  formEmail : String
  uId : String
  email : Option String
  deriving DecidableEq

def NewUser.row (user : NewUser) (id : Id) : UserRow := ⟨id, user.uId, user.userLogin, user.email⟩

def allGroup (id owner : Id) (now : Timestamp) : DeviceGroupModel :=
  ⟨id, "All", "All", true, owner, now⟩

/-- A new user, in `signup` from `findName` on and in `login` from `findUser`
on; the rows are inserted in one transaction. -/
inductive EnterPhase where
  | findName
  | findEmail
  | findUser
  | insertUser
  | insertGroup (row : UserRow)
  | dropEntry (row : UserRow) (group : DeviceGroupModel)
  | commit (row : UserRow) (group : DeviceGroupModel)
  | done
  deriving DecidableEq

/-- `query_user_default_group`, when a device is created, in the transaction of
the request, or put on top. After it the creation drops the entry. -/
inductive QueryPhase where
  | loadEntry
  | findRow
  | insertRow
  | dropEntry (own : Option DeviceGroupModel)
  | commit (own : Option DeviceGroupModel)
  | done
  deriving DecidableEq

/-- `select_default_group`. -/
inductive SelectPhase where
  | loadEntry
  | findRow
  | insertRow
  | dropEntry (group : DeviceGroupModel)
  | readRows (group : DeviceGroupModel)
  | saveEntry (group : DeviceGroupModel) (rows : List DeviceGroupModel)
  | done
  deriving DecidableEq

/-- A request that only renews the entry of its user. -/
inductive RenewPhase where
  | readRows
  | saveEntry (rows : List DeviceGroupModel)
  | done
  deriving DecidableEq

inductive Request where
  | enter (user : NewUser) (phase : EnterPhase)
  | query (userId : Id) (creates : Bool) (phase : QueryPhase)
  | select (userId : Id) (phase : SelectPhase)
  | renew (userId : Id) (phase : RenewPhase)
  deriving DecidableEq

/-- The row of a user that an open transaction has inserted. -/
def EnterPhase.openRow : EnterPhase → Option UserRow
  | .insertGroup row => some row
  | .dropEntry row _ => some row
  | .commit row _ => some row
  | .findName | .findEmail | .findUser | .insertUser | .done => none

namespace Request

def openRow : Request → Option UserRow
  | enter _ phase => phase.openRow
  | _ => none

/-- The groups that an open transaction has inserted. -/
def openGroups : Request → List DeviceGroupModel
  | enter _ (.dropEntry _ group) => [group]
  | enter _ (.commit _ group) => [group]
  | query _ _ (.dropEntry own) => own.toList
  | query _ _ (.commit own) => own.toList
  | _ => []

/-- The user that a request is about. -/
def userId : Request → Option Id
  | enter _ phase => phase.openRow.map fun row => row.id
  | query userId _ _ => some userId
  | select userId _ => some userId
  | renew userId _ => some userId

/-- The end of a request; an open transaction is taken back. -/
def stop : Request → Request
  | enter user _ => enter user .done
  | query userId creates _ => query userId creates .done
  | select userId _ => select userId .done
  | renew userId _ => renew userId .done

end Request

/-- The committed rows, the entries of the cache, and the numbers that are next.
Besides, `known` are the users that were ever given a token, and `returned` the
default groups that callers were given. -/
structure State where
  users : List UserRow
  known : List Id
  groups : List DeviceGroupModel
  entries : Id → Option (List DeviceGroupModel)
  returned : List (Id × Id)
  requests : List Request
  nextUser : Nat
  nextGroup : Nat

/-- What a step of a request commits, writes to the cache and returns. -/
structure Effect where
  next : Request
  users : List UserRow := []
  groups : List DeviceGroupModel := []
  entry : Option (Id × Option (List DeviceGroupModel)) := none
  returned : List (Id × Id) := []
  drawnUsers : Nat := 0
  drawnGroups : Nat := 0

namespace State

def empty : State := ⟨[], [], [], fun _ => none, [], [], 1, 1⟩

def openRows (state : State) : List UserRow := state.requests.filterMap Request.openRow

/-- `load_default_by_user_id`. -/
def loadDefault (state : State) (userId : Id) : Option DeviceGroupModel :=
  (state.entries userId).bind fun rows => rows.find? fun group => group.defaultGroup

def defaultRow (state : State) (userId : Id) : Option DeviceGroupModel :=
  state.groups.find? fun group => group.owner = userId ∧ group.defaultGroup

def apply (state : State) (n : Nat) (effect : Effect) : State where
  users := state.users ++ effect.users
  known := state.known ++ effect.users.map fun row => row.id
  groups := state.groups ++ effect.groups
  entries := match effect.entry with
    | none => state.entries
    | some (userId, rows) => Function.update state.entries userId rows
  returned := state.returned ++ effect.returned
  requests := state.requests.set n effect.next
  nextUser := state.nextUser + effect.drawnUsers
  nextGroup := state.nextGroup + effect.drawnGroups

end State

/-- The row of a user is refused where a unique column is taken, and waits where
another transaction has not decided yet. -/
def EnterPhase.advance (state : State) (now : Timestamp) (user : NewUser) : EnterPhase → Effect
  | .findName =>
      if state.users.any fun row => row.userLogin = user.userLogin then
        { next := .enter user .done }
      else { next := .enter user .findEmail }
  | .findEmail =>
      if state.users.any fun row => row.email = some user.formEmail then
        { next := .enter user .done }
      else { next := .enter user .insertUser }
  | .findUser =>
      if state.users.any fun row => row.uId = user.uId then { next := .enter user .done }
      else { next := .enter user .insertUser }
  | .insertUser =>
      match numbered state.nextUser with
      | .error _ => { next := .enter user .done }
      | .ok id =>
          let row := user.row id
          if state.users.any row.clashes then { next := .enter user .done, drawnUsers := 1 }
          else if state.openRows.any row.clashes then { next := .enter user .insertUser }
          else { next := .enter user (.insertGroup row), drawnUsers := 1 }
  | .insertGroup row =>
      match numbered state.nextGroup with
      | .error _ => { next := .enter user .done }
      | .ok id =>
          { next := .enter user (.dropEntry row (allGroup id row.id now)), drawnGroups := 1 }
  | .dropEntry row group =>
      { next := .enter user (.commit row group)
        entry := some (row.id, none)
        returned := [(row.id, group.id)] }
  | .commit row group => { next := .enter user .done, users := [row], groups := [group] }
  | .done => { next := .enter user .done }

/-- What follows when the default group is found. -/
def QueryPhase.found (creates : Bool) : QueryPhase :=
  if creates then .dropEntry none else .done

def QueryPhase.advance (state : State) (now : Timestamp) (userId : Id) (creates : Bool) :
    QueryPhase → Effect
  | .loadEntry =>
      match state.loadDefault userId with
      | some group =>
          { next := .query userId creates (.found creates), returned := [(userId, group.id)] }
      | none => { next := .query userId creates .findRow }
  | .findRow =>
      match state.defaultRow userId with
      | some group =>
          { next := .query userId creates (.found creates), returned := [(userId, group.id)] }
      | none => { next := .query userId creates .insertRow }
  | .insertRow =>
      match numbered state.nextGroup with
      | .error _ => { next := .query userId creates .done }
      | .ok id =>
          let group := allGroup id userId now
          if creates then
            { next := .query userId creates (.dropEntry (some group))
              returned := [(userId, group.id)]
              drawnGroups := 1 }
          else
            { next := .query userId creates .done
              groups := [group]
              returned := [(userId, group.id)]
              drawnGroups := 1 }
  | .dropEntry own =>
      { next := .query userId creates (.commit own), entry := some (userId, none) }
  | .commit own => { next := .query userId creates .done, groups := own.toList }
  | .done => { next := .query userId creates .done }

def SelectPhase.advance (state : State) (now : Timestamp) (userId : Id) : SelectPhase → Effect
  | .loadEntry =>
      match state.loadDefault userId with
      | some group => { next := .select userId .done, returned := [(userId, group.id)] }
      | none => { next := .select userId .findRow }
  | .findRow =>
      match state.defaultRow userId with
      | some group => { next := .select userId .done, returned := [(userId, group.id)] }
      | none => { next := .select userId .insertRow }
  | .insertRow =>
      match numbered state.nextGroup with
      | .error _ => { next := .select userId .done }
      | .ok id =>
          let group := allGroup id userId now
          { next := .select userId (.dropEntry group), groups := [group], drawnGroups := 1 }
  | .dropEntry group =>
      { next := .select userId (.readRows group), entry := some (userId, none) }
  | .readRows group =>
      { next := .select userId (.saveEntry group
          (state.groups.filter fun row => row.owner = userId)) }
  | .saveEntry group rows =>
      { next := .select userId .done
        entry := some (userId, some rows)
        returned := [(userId, group.id)] }
  | .done => { next := .select userId .done }

def RenewPhase.advance (state : State) (userId : Id) : RenewPhase → Effect
  | .readRows =>
      { next := .renew userId (.saveEntry (state.groups.filter fun row => row.owner = userId)) }
  | .saveEntry rows => { next := .renew userId .done, entry := some (userId, some rows) }
  | .done => { next := .renew userId .done }

def Request.advance (state : State) (now : Timestamp) : Request → Effect
  | .enter user phase => phase.advance state now user
  | .query userId creates phase => phase.advance state now userId creates
  | .select userId phase => phase.advance state now userId
  | .renew userId phase => phase.advance state userId

inductive Input where
  | signup (user : NewUser)
  | login (user : NewUser)
  | postDevice (userId : Id)
  | putTop (userId : Id)
  | getAllDevice (userId : Id)
  | getGroup (userId : Id)
  | advance (n : Nat) (now : Timestamp)
  | fail (n : Nat)
  | dropEntry (userId : Id)
  | deleteUser (userId : Id)

namespace State

def start (state : State) (request : Request) : State :=
  { state with requests := state.requests ++ [request] }

/-- A request of a user comes with a token. -/
def startKnown (state : State) (userId : Id) (request : Request) : State :=
  if userId ∈ state.known then state.start request else state

/-- Besides the steps of requests, they may fail anywhere, entries may be
dropped by other requests, and accounts deleted with their groups. -/
def step (state : State) : Input → State
  | .signup user => state.start (.enter user .findName)
  | .login user => state.start (.enter user .findUser)
  | .postDevice userId => state.startKnown userId (.query userId true .loadEntry)
  | .putTop userId => state.startKnown userId (.query userId false .loadEntry)
  | .getAllDevice userId => state.startKnown userId (.select userId .loadEntry)
  | .getGroup userId => state.startKnown userId (.renew userId .readRows)
  | .advance n now =>
      match state.requests[n]? with
      | none => state
      | some request => state.apply n (request.advance state now)
  | .fail n =>
      match state.requests[n]? with
      | none => state
      | some request => state.apply n { next := request.stop }
  | .dropEntry userId => { state with entries := Function.update state.entries userId none }
  | .deleteUser userId =>
      { state with
        users := state.users.filter fun row => row.id ≠ userId
        groups := state.groups.filter fun row => row.owner ≠ userId
        entries := Function.update state.entries userId none }

/-- A user whose row is committed or in an open transaction. -/
def HasUser (state : State) (userId : Id) : Prop :=
  ∃ row ∈ state.users ++ state.openRows, row.id = userId

/-- The default groups of a user, committed or in open transactions. -/
def defaults (state : State) (userId : Id) : List DeviceGroupModel :=
  (state.groups ++ state.requests.flatMap Request.openGroups).filter fun group =>
    group.owner = userId ∧ group.defaultGroup

end State

/-- Each user has one default group at most, and every default group that a
caller was given is that one. -/
structure OneDefault (state : State) : Prop where
  one : ∀ userId, state.HasUser userId → (state.defaults userId).length ≤ 1
  returned : ∀ userId, state.HasUser userId → ∀ id, (userId, id) ∈ state.returned →
    ∃ group ∈ state.defaults userId, group.id = id

/-- What concerns one user. -/
@[ext] structure View where
  known : List Id
  users : List UserRow
  groups : List DeviceGroupModel
  entry : Option (List DeviceGroupModel)
  returned : List (Id × Id)
  requests : List Request

def View.empty : View := ⟨[], [], [], none, [], []⟩

def State.view (state : State) (userId : Id) : View where
  known := state.known.filter fun id => id = userId
  users := state.users.filter fun row => row.id = userId
  groups := state.groups.filter fun row => row.owner = userId
  entry := state.entries userId
  returned := state.returned.filter fun pair => pair.1 = userId
  requests := state.requests.filter fun request => request.userId = some userId

/-- A request for a user with this default group, who never lacks it. -/
def Request.Fits (group : DeviceGroupModel) : Request → Prop
  | .enter _ _ => False
  | .query _ _ .insertRow => False
  | .query _ _ (.dropEntry own) => own = none
  | .query _ _ (.commit own) => own = none
  | .query _ _ _ => True
  | .select _ .loadEntry => True
  | .select _ .findRow => True
  | .select _ .done => True
  | .select _ _ => False
  | .renew _ (.saveEntry rows) => ∀ row ∈ rows, row.defaultGroup → row = group
  | .renew _ _ => True

/-- A request whose transaction has inserted its user, and what it has returned. -/
def Request.Opens (returned : List (Id × Id)) : Request → Prop
  | .enter _ (.insertGroup _) => returned = []
  | .enter _ (.dropEntry _ group) => returned = [] ∧ group.defaultGroup
  | .enter _ (.commit _ group) => (∀ pair ∈ returned, pair.2 = group.id) ∧ group.defaultGroup
  | _ => False

/-- A user with a default group, which is the one in the entry and the one that
callers were given. -/
structure Live (view : View) (group : DeviceGroupModel) : Prop where
  known : view.known ≠ []
  groups : view.groups.filter (fun row => row.defaultGroup) = [group]
  entry : ∀ rows ∈ view.entry, ∀ row ∈ rows, row.defaultGroup → row = group
  returned : ∀ pair ∈ view.returned, pair.2 = group.id
  requests : ∀ request ∈ view.requests, request.Fits group

/-- A user not known yet has at most one request, the one that brings it; a
known one is there with a default group, or gone. -/
inductive Standing : View → Prop where
  | closed (returned : List (Id × Id)) : Standing ⟨[], [], [], none, returned, []⟩
  | opening (request : Request) (returned : List (Id × Id)) (h : request.Opens returned) :
      Standing ⟨[], [], [], none, returned, [request]⟩
  | live (view : View) (group : DeviceGroupModel) (h : Live view group) : Standing view
  | gone (view : View) (hKnown : view.known ≠ []) (hUsers : view.users = [])
      (hRequests : ∀ request ∈ view.requests, request.openRow = none) : Standing view

structure Sound (state : State) : Prop where
  standing : ∀ userId, Standing (state.view userId)
  fresh : ∀ userId : Id, state.nextUser ≤ userId.value.toNat → state.view userId = View.empty
  owned : ∀ request ∈ state.requests, ∀ group ∈ request.openGroups,
    request.userId = some group.owner

/-- A step that concerns one user, who is born by then. -/
theorem Sound.of_views {state next : State} (h : Sound state) (userId : Id)
    (hOther : ∀ other ≠ userId, next.view other = state.view other)
    (hOwn : Standing (next.view userId)) (hNext : state.nextUser ≤ next.nextUser)
    (hBorn : userId.value.toNat < next.nextUser)
    (hOwned : ∀ request ∈ next.requests, ∀ group ∈ request.openGroups,
      request.userId = some group.owner) : Sound next where
  standing := by
    intro other
    by_cases hSame : other = userId
    · rw [hSame]
      exact hOwn
    · rw [hOther other hSame]
      exact h.standing other
  fresh := by
    intro other hFresh
    have hNe : other ≠ userId := by
      rintro rfl
      omega
    rw [hOther other hNe]
    exact h.fresh other (Nat.le_trans hNext hFresh)
  owned := hOwned

/-- A step that concerns no user. -/
theorem Sound.of_same_views {state next : State} (h : Sound state)
    (hViews : ∀ userId, next.view userId = state.view userId)
    (hNext : state.nextUser ≤ next.nextUser)
    (hOwned : ∀ request ∈ next.requests, ∀ group ∈ request.openGroups,
      request.userId = some group.owner) : Sound next where
  standing := fun userId => hViews userId ▸ h.standing userId
  fresh := fun userId hFresh =>
    (hViews userId).trans (h.fresh userId (Nat.le_trans hNext hFresh))
  owned := hOwned

/-! A known user with requests is born. -/

/-- A user of whom anything is known has a number that has been given. -/
theorem Sound.born {state : State} (h : Sound state) {userId : Id}
    (hView : state.view userId ≠ View.empty) : userId.value.toNat < state.nextUser := by
  by_contra hFresh
  exact hView (h.fresh userId (Nat.le_of_not_lt hFresh))

section Requests

variable {requests : List Request} {n : Nat} {request : Request} {kept : Request → Bool}

/-- A request of another user may be replaced unseen. -/
theorem filter_set_other (hRequest : requests[n]? = some request) {next : Request}
    (hOld : kept request = false) (hNew : kept next = false) :
    (requests.set n next).filter kept = requests.filter kept := by
  obtain ⟨hLength, rfl⟩ := List.getElem?_eq_some_iff.mp hRequest
  obtain ⟨before, after, hSplit, -, hSet⟩ :
      ∃ before after, requests = before ++ requests[n] :: after ∧ before.length = n ∧
        requests.set n next = before ++ next :: after := List.exists_of_set hLength
  rw [hSet]
  conv_rhs => rw [hSplit]
  simp [hOld, hNew]

/-- Where no other request counts, the new one does in its place. -/
theorem filter_set_only (hRequest : requests[n]? = some request) (next : Request)
    (hOnly : requests.filter kept = [request].filter kept) :
    (requests.set n next).filter kept = [next].filter kept := by
  obtain ⟨hLength, rfl⟩ := List.getElem?_eq_some_iff.mp hRequest
  obtain ⟨before, after, hSplit, -, hSet⟩ :
      ∃ before after, requests = before ++ requests[n] :: after ∧ before.length = n ∧
        requests.set n next = before ++ next :: after := List.exists_of_set hLength
  have hParts : (before ++ requests[n] :: after).filter kept = [requests[n]].filter kept := by
    rw [← hSplit]
    exact hOnly
  have hNone : before.filter kept = [] ∧ after.filter kept = [] := by
    have hCount := congrArg List.length hParts
    rw [List.filter_append, ← List.singleton_append, List.filter_append] at hCount
    simp only [List.length_append] at hCount
    exact ⟨List.length_eq_zero_iff.mp (by omega), List.length_eq_zero_iff.mp (by omega)⟩
  rw [hSet, List.filter_append, ← List.singleton_append, List.filter_append, hNone.1, hNone.2]
  simp

theorem filter_append_none {α : Type} {rows added : List α} {kept : α → Bool}
    (h : ∀ row ∈ added, ¬kept row) : (rows ++ added).filter kept = rows.filter kept := by
  rw [List.filter_append, List.filter_eq_nil_iff.mpr h, List.append_nil]

theorem filter_append_all {α : Type} {rows added : List α} {kept : α → Bool}
    (h : ∀ row ∈ added, kept row) : (rows ++ added).filter kept = rows.filter kept ++ added := by
  rw [List.filter_append, List.filter_eq_self.mpr h]

/-- After a request is replaced there is none but it and those from before. -/
theorem mem_filter_set {next other : Request} (h : other ∈ (requests.set n next).filter kept) :
    other = next ∨ other ∈ requests.filter kept := by
  obtain ⟨hMem, hKept⟩ := List.mem_filter.mp h
  rcases List.mem_or_eq_of_mem_set hMem with hOld | hNew
  · exact .inr (List.mem_filter.mpr ⟨hOld, hKept⟩)
  · exact .inl hNew

end Requests

/-- All that a step commits, writes and returns is of one user. -/
structure Effect.Only (effect : Effect) (userId : Id) : Prop where
  users : ∀ row ∈ effect.users, row.id = userId
  groups : ∀ group ∈ effect.groups, group.owner = userId
  entry : ∀ pair ∈ effect.entry, pair.1 = userId
  returned : ∀ pair ∈ effect.returned, pair.1 = userId

/-- All users that an effect inserts are the one it concerns. -/
theorem Effect.Only.known {effect : Effect} {userId : Id} (h : effect.Only userId) :
    ∀ id ∈ effect.users.map fun row => row.id, id = userId := by
  intro id hId
  obtain ⟨row, hRow, rfl⟩ := List.mem_map.mp hId
  exact h.users row hRow

/-- The entry of its user after a step. -/
def Effect.entryAfter (effect : Effect) (before : Option (List DeviceGroupModel)) :
    Option (List DeviceGroupModel) :=
  match effect.entry with
  | none => before
  | some (_, rows) => rows

section Apply

variable {state : State} {n : Nat} {request : Request} {effect : Effect} {userId : Id}

/-- What an effect does to one user is not seen by another. -/
theorem view_apply_other (hRequest : state.requests[n]? = some request)
    (hOnly : effect.Only userId) {other : Id} (hOther : other ≠ userId)
    (hOld : request.userId ≠ some other) (hNew : effect.next.userId ≠ some other) :
    (state.apply n effect).view other = state.view other := by
  have hApart : ∀ id : Id, id = userId → ¬decide (id = other) = true := by
    intro id hId hSame
    exact hOther ((of_decide_eq_true hSame).symm.trans hId)
  have hEntry : (state.apply n effect).entries other = state.entries other := by
    unfold State.apply
    cases hWritten : effect.entry with
    | none => rfl
    | some pair =>
        have hPair := hOnly.entry pair hWritten
        exact Function.update_of_ne (fun hSame => hOther (hSame.trans hPair)) _ _
  have hRequests : (state.requests.set n effect.next).filter
      (fun request => request.userId = some other) =
        state.requests.filter fun request => request.userId = some other :=
    filter_set_other hRequest (decide_eq_false hOld) (decide_eq_false hNew)
  refine View.ext ?_ ?_ ?_ hEntry ?_ hRequests
  · exact filter_append_none fun id hId => hApart id (hOnly.known id hId)
  · exact filter_append_none fun row hRow => hApart row.id (hOnly.users row hRow)
  · exact filter_append_none fun row hRow => hApart row.owner (hOnly.groups row hRow)
  · exact filter_append_none fun pair hPair => hApart pair.1 (hOnly.returned pair hPair)

/-- The user of a step sees all of it. -/
theorem view_apply_self (hOnly : effect.Only userId) :
    (state.apply n effect).view userId =
      ⟨(state.view userId).known ++ effect.users.map fun row => row.id,
        (state.view userId).users ++ effect.users,
        (state.view userId).groups ++ effect.groups,
        effect.entryAfter (state.view userId).entry,
        (state.view userId).returned ++ effect.returned,
        (state.requests.set n effect.next).filter fun request => request.userId = some userId⟩ := by
  refine View.ext ?_ ?_ ?_ ?_ ?_ rfl
  · exact filter_append_all fun id hId => decide_eq_true (hOnly.known id hId)
  · exact filter_append_all fun row hRow => decide_eq_true (hOnly.users row hRow)
  · exact filter_append_all fun row hRow => decide_eq_true (hOnly.groups row hRow)
  · show (state.apply n effect).entries userId = effect.entryAfter (state.entries userId)
    unfold State.apply Effect.entryAfter
    cases hWritten : effect.entry with
    | none => rfl
    | some pair =>
        obtain rfl : pair.1 = userId := hOnly.entry pair hWritten
        exact Function.update_self _ _ _
  · exact filter_append_all fun pair hPair => decide_eq_true (hOnly.returned pair hPair)

/-- The groups of open transactions stay those of their users. -/
theorem Sound.owned_set (h : Sound state) {next : Request}
    (hNext : ∀ group ∈ next.openGroups, next.userId = some group.owner) :
    ∀ request ∈ state.requests.set n next, ∀ group ∈ request.openGroups,
      request.userId = some group.owner := by
  intro request hMem
  rcases List.mem_or_eq_of_mem_set hMem with hOld | hNew
  · exact h.owned request hOld
  · rw [hNew]
    exact hNext

theorem mem_view (hRequest : state.requests[n]? = some request)
    (hUser : request.userId = some userId) : request ∈ (state.view userId).requests :=
  List.mem_filter.mpr ⟨List.mem_of_getElem? hRequest, decide_eq_true hUser⟩

/-- A user with a request has a number that has been given. -/
theorem Sound.born_of_request (h : Sound state) (hRequest : state.requests[n]? = some request)
    (hUser : request.userId = some userId) : userId.value.toNat < state.nextUser := by
  refine h.born fun hEmpty => ?_
  have hMem := mem_view hRequest hUser
  rw [hEmpty] at hMem
  exact List.not_mem_nil hMem

end Apply

/-! What a step may add for its user. -/

section Effects

variable {effect : Effect} {userId : Id}

/-- To go on concerns nobody else. -/
theorem only_next (next : Request) (drawnUsers drawnGroups : Nat) (userId : Id) :
    Effect.Only { next := next, drawnUsers := drawnUsers, drawnGroups := drawnGroups } userId where
  users := List.forall_mem_nil _
  groups := List.forall_mem_nil _
  entry := nofun
  returned := List.forall_mem_nil _

theorem Effect.Only.insert (h : effect.Only userId) {group : DeviceGroupModel}
    (hOwner : group.owner = userId) : Effect.Only { effect with groups := [group] } userId :=
  ⟨h.users, List.forall_mem_singleton.mpr hOwner, h.entry, h.returned⟩

/-- The entry of the user concerns nobody else. -/
theorem Effect.Only.write (h : effect.Only userId) (rows : Option (List DeviceGroupModel)) :
    Effect.Only { effect with entry := some (userId, rows) } userId := by
  refine ⟨h.users, h.groups, fun pair hPair => ?_, h.returned⟩
  cases hPair
  rfl

theorem Effect.Only.give (h : effect.Only userId) (id : Id) :
    Effect.Only { effect with returned := [(userId, id)] } userId :=
  ⟨h.users, h.groups, h.entry, List.forall_mem_singleton.mpr rfl⟩

end Effects

/-! A step of a request of a known user. -/

structure Effect.OfKnown (effect : Effect) (userId : Id) : Prop extends effect.Only userId where
  noUsers : effect.users = []
  user : effect.next.userId = some userId
  closed : effect.next.openRow = none
  owned : ∀ group ∈ effect.next.openGroups, group.owner = userId

/-- A step that does nothing to a user with this default group. -/
structure Effect.Suits (effect : Effect) (group : DeviceGroupModel) : Prop where
  groups : effect.groups = []
  entry : ∀ pair ∈ effect.entry, ∀ rows ∈ pair.2, ∀ row ∈ rows, row.defaultGroup → row = group
  returned : ∀ pair ∈ effect.returned, pair.2 = group.id
  next : effect.next.Fits group

section Known

variable {state : State} {now : Timestamp} {userId : Id} {group : DeviceGroupModel}

/-- A step that only goes on. -/
theorem ofKnown_next {next : Request} (hUser : next.userId = some userId)
    (hClosed : next.openRow = none) (hOwned : ∀ group ∈ next.openGroups, group.owner = userId) :
    Effect.OfKnown { next := next } userId :=
  ⟨only_next _ 0 0 _, rfl, hUser, hClosed, hOwned⟩

theorem suits_next {next : Request} (h : next.Fits group) : Effect.Suits { next := next } group :=
  ⟨rfl, nofun, nofun, h⟩

theorem found_openGroups (userId : Id) (creates : Bool) :
    (Request.query userId creates (.found creates)).openGroups = [] := by
  cases creates <;> rfl

/-- A query that has found its group fits any default group. -/
theorem found_fits (userId : Id) (creates : Bool) (group : DeviceGroupModel) :
    (Request.query userId creates (.found creates)).Fits group := by
  cases creates
  · trivial
  · exact rfl

/-- A query of a user who is known stays with his groups. -/
theorem query_ofKnown (creates : Bool) (phase : QueryPhase)
    (hOwned : ∀ group ∈ (Request.query userId creates phase).openGroups, group.owner = userId) :
    (phase.advance state now userId creates).OfKnown userId := by
  have hFound : ∀ id : Id, Effect.OfKnown
      { next := .query userId creates (.found creates), returned := [(userId, id)] } userId := by
    intro id
    refine ⟨(only_next _ 0 0 _).give id, rfl, rfl, rfl, fun group hGroup => ?_⟩
    rw [found_openGroups] at hGroup
    cases hGroup
  cases phase with
  | loadEntry =>
      rw [QueryPhase.advance]
      cases state.loadDefault userId with
      | none => exact ofKnown_next rfl rfl (List.forall_mem_nil _)
      | some group => exact hFound group.id
  | findRow =>
      rw [QueryPhase.advance]
      cases state.defaultRow userId with
      | none => exact ofKnown_next rfl rfl (List.forall_mem_nil _)
      | some group => exact hFound group.id
  | insertRow =>
      rw [QueryPhase.advance]
      cases numbered state.nextGroup with
      | error error => exact ofKnown_next rfl rfl (List.forall_mem_nil _)
      | ok id =>
          cases creates
          · have hOwner : (allGroup id userId now).owner = userId := rfl
            have hOnly :=
              ((only_next (.query userId false .done) 0 1 userId).give id).insert hOwner
            exact ⟨hOnly, rfl, rfl, rfl, List.forall_mem_nil _⟩
          · exact ⟨(only_next _ 0 1 _).give id, rfl, rfl, rfl, List.forall_mem_singleton.mpr rfl⟩
  | dropEntry own => exact ⟨(only_next _ 0 0 _).write none, rfl, rfl, rfl, hOwned⟩
  | commit own =>
      have hOnly := only_next (.query userId creates .done) 0 0 userId
      exact ⟨⟨hOnly.users, hOwned, hOnly.entry, hOnly.returned⟩, rfl, rfl, rfl,
        List.forall_mem_nil _⟩
  | done => exact ofKnown_next rfl rfl (List.forall_mem_nil _)

/-- A selection for a user who is known stays with his groups. -/
theorem select_ofKnown (phase : SelectPhase) :
    (phase.advance state now userId).OfKnown userId := by
  cases phase with
  | loadEntry =>
      rw [SelectPhase.advance]
      cases state.loadDefault userId with
      | none => exact ofKnown_next rfl rfl (List.forall_mem_nil _)
      | some group =>
          exact ⟨(only_next _ 0 0 _).give group.id, rfl, rfl, rfl, List.forall_mem_nil _⟩
  | findRow =>
      rw [SelectPhase.advance]
      cases state.defaultRow userId with
      | none => exact ofKnown_next rfl rfl (List.forall_mem_nil _)
      | some group =>
          exact ⟨(only_next _ 0 0 _).give group.id, rfl, rfl, rfl, List.forall_mem_nil _⟩
  | insertRow =>
      rw [SelectPhase.advance]
      cases numbered state.nextGroup with
      | error error => exact ofKnown_next rfl rfl (List.forall_mem_nil _)
      | ok id => exact ⟨(only_next _ 0 1 _).insert rfl, rfl, rfl, rfl, List.forall_mem_nil _⟩
  | dropEntry group =>
      exact ⟨(only_next _ 0 0 _).write none, rfl, rfl, rfl, List.forall_mem_nil _⟩
  | readRows group => exact ofKnown_next rfl rfl (List.forall_mem_nil _)
  | saveEntry group rows =>
      exact ⟨((only_next _ 0 0 _).write (some rows)).give group.id, rfl, rfl, rfl,
        List.forall_mem_nil _⟩
  | done => exact ofKnown_next rfl rfl (List.forall_mem_nil _)

/-- The renewal of an entry stays with the groups of its user. -/
theorem renew_ofKnown (phase : RenewPhase) : (phase.advance state userId).OfKnown userId := by
  cases phase with
  | readRows => exact ofKnown_next rfl rfl (List.forall_mem_nil _)
  | saveEntry rows =>
      exact ⟨(only_next _ 0 0 _).write (some rows), rfl, rfl, rfl, List.forall_mem_nil _⟩
  | done => exact ofKnown_next rfl rfl (List.forall_mem_nil _)

/-- The entry of a user with a default group leads to it. -/
theorem loadDefault_live (h : Live (state.view userId) group) {found : DeviceGroupModel}
    (hFound : state.loadDefault userId = some found) : found = group := by
  obtain ⟨rows, hRows, hFind⟩ := Option.bind_eq_some_iff.mp hFound
  exact h.entry rows hRows found (List.mem_of_find?_eq_some hFind) (List.find?_some hFind)

/-- The default group of a user in the table is the one that is live. -/
theorem default_live (h : Live (state.view userId) group) {row : DeviceGroupModel}
    (hRow : row ∈ state.groups) (hOwner : row.owner = userId) (hDefault : row.defaultGroup) :
    row = group := by
  have hMem : row ∈ (state.view userId).groups.filter fun row => row.defaultGroup :=
    List.mem_filter.mpr ⟨List.mem_filter.mpr ⟨hRow, decide_eq_true hOwner⟩, hDefault⟩
  rw [h.groups] at hMem
  exact List.mem_singleton.mp hMem

/-- A user with a default group is never without it in the table. -/
theorem defaultRow_live (h : Live (state.view userId) group) :
    state.defaultRow userId = some group := by
  have hMem : group ∈ (state.view userId).groups.filter fun row => row.defaultGroup := by
    rw [h.groups]
    exact List.mem_singleton.mpr rfl
  obtain ⟨hGroup, hDefault⟩ := List.mem_filter.mp hMem
  obtain ⟨hRow, hOwner⟩ := List.mem_filter.mp hGroup
  cases hFound : state.defaultRow userId with
  | none =>
      have hBoth : group.owner = userId ∧ group.defaultGroup := ⟨of_decide_eq_true hOwner, hDefault⟩
      exact absurd (decide_eq_true hBoth) (List.find?_eq_none.mp hFound group hRow)
  | some row =>
      have hBoth : row.owner = userId ∧ row.defaultGroup := by
        simpa using List.find?_some hFound
      rw [default_live h (List.mem_of_find?_eq_some hFound) hBoth.1 hBoth.2]

/-- A query that finds the live default group inserts none beside it. -/
theorem query_suits (h : Live (state.view userId) group) (creates : Bool) (phase : QueryPhase)
    (hFits : (Request.query userId creates phase).Fits group) :
    (phase.advance state now userId creates).Suits group := by
  have hFound : ∀ found : DeviceGroupModel, found = group → Effect.Suits
      { next := .query userId creates (.found creates), returned := [(userId, found.id)] }
        group := by
    rintro found rfl
    exact ⟨rfl, nofun, by simp, found_fits userId creates found⟩
  cases phase with
  | loadEntry =>
      rw [QueryPhase.advance]
      cases hLoad : state.loadDefault userId with
      | none => exact suits_next trivial
      | some found => exact hFound found (loadDefault_live h hLoad)
  | findRow =>
      rw [QueryPhase.advance, defaultRow_live h]
      exact hFound group rfl
  | insertRow => exact hFits.elim
  | dropEntry own => exact ⟨rfl, by simp [QueryPhase.advance], nofun, hFits⟩
  | commit own =>
      obtain rfl : own = none := hFits
      exact suits_next trivial
  | done => exact suits_next trivial

/-- A selection that finds the live default group inserts none beside it. -/
theorem select_suits (h : Live (state.view userId) group) (phase : SelectPhase)
    (hFits : (Request.select userId phase).Fits group) :
    (phase.advance state now userId).Suits group := by
  cases phase with
  | loadEntry =>
      rw [SelectPhase.advance]
      cases hLoad : state.loadDefault userId with
      | none => exact suits_next trivial
      | some found =>
          rw [loadDefault_live h hLoad]
          exact ⟨rfl, nofun, by simp, trivial⟩
  | findRow =>
      rw [SelectPhase.advance, defaultRow_live h]
      exact ⟨rfl, nofun, by simp, trivial⟩
  | done => exact suits_next trivial
  | _ => exact hFits.elim

/-- A renewed entry has the live default group. -/
theorem renew_suits (h : Live (state.view userId) group) (phase : RenewPhase)
    (hFits : (Request.renew userId phase).Fits group) :
    (phase.advance state userId).Suits group := by
  cases phase with
  | readRows =>
      refine suits_next fun row hRow hDefault => ?_
      obtain ⟨hMem, hOwner⟩ := List.mem_filter.mp hRow
      exact default_live h hMem (of_decide_eq_true hOwner) hDefault
  | saveEntry rows =>
      refine ⟨rfl, fun pair hPair rows' hRows row hRow => ?_, nofun, trivial⟩
      cases hPair
      cases hRows
      exact hFits row hRow
  | done => exact suits_next trivial

end Known

/-- A request that fits holds no user row that is not committed. -/
theorem Request.Fits.openRow {group : DeviceGroupModel} {request : Request}
    (h : request.Fits group) : request.openRow = none := by
  cases request with
  | enter user phase => exact h.elim
  | _ => rfl

/-- A request that opens an account holds its row. -/
theorem Request.Opens.openRow {returned : List (Id × Id)} {request : Request}
    (h : request.Opens returned) : request.openRow ≠ none := by
  cases request with
  | enter user phase =>
      cases phase with
      | insertGroup row => exact Option.some_ne_none _
      | dropEntry row group => exact Option.some_ne_none _
      | commit row group => exact Option.some_ne_none _
      | _ => exact h.elim
  | _ => exact h.elim

/-- A user who is known has a live default group, or is gone. -/
theorem Standing.of_known {view : View} (h : Standing view) (hKnown : view.known ≠ []) :
    (∃ group, Live view group) ∨
      (view.users = [] ∧ ∀ request ∈ view.requests, request.openRow = none) := by
  cases h with
  | closed returned => exact absurd rfl hKnown
  | opening request returned hOpens => exact absurd rfl hKnown
  | live view group hLive => exact .inl ⟨group, hLive⟩
  | gone view _ hUsers hRequests => exact .inr ⟨hUsers, hRequests⟩

/-- The user of a request that brings no user is there, or gone. -/
theorem Standing.known_cases {view : View} (h : Standing view) {request : Request}
    (hMem : request ∈ view.requests) (hClosed : request.openRow = none) :
    (∃ group, Live view group) ∨ (view.known ≠ [] ∧ view.users = [] ∧
      ∀ request ∈ view.requests, request.openRow = none) := by
  cases h with
  | closed returned => exact absurd hMem List.not_mem_nil
  | opening other returned hOpens =>
      obtain rfl := List.mem_singleton.mp hMem
      exact absurd hClosed hOpens.openRow
  | live view group hLive => exact .inl ⟨group, hLive⟩
  | gone view hKnown hUsers hRequests => exact .inr ⟨hKnown, hUsers, hRequests⟩

/-- A request that brings a user is the only one that concerns it. -/
theorem Standing.open_cases {view : View} (h : Standing view) {request : Request}
    (hMem : request ∈ view.requests) (hOpen : request.openRow ≠ none) :
    ∃ returned, view = ⟨[], [], [], none, returned, [request]⟩ ∧ request.Opens returned := by
  cases h with
  | closed returned => exact absurd hMem List.not_mem_nil
  | opening other returned hOpens =>
      obtain rfl := List.mem_singleton.mp hMem
      exact ⟨returned, rfl, hOpens⟩
  | live view group hLive => exact absurd (hLive.requests request hMem).openRow hOpen
  | gone view hKnown hUsers hRequests => exact absurd (hRequests request hMem) hOpen

section Steps

variable {state : State} {n : Nat} {request : Request} {effect : Effect} {userId : Id}

/-- Each step of a user who is known keeps the state sound. -/
theorem Sound.apply_known (h : Sound state) (hRequest : state.requests[n]? = some request)
    (hUser : request.userId = some userId) (hClosed : request.openRow = none)
    (hEffect : effect.OfKnown userId)
    (hSuits : ∀ group, Live (state.view userId) group → request.Fits group → effect.Suits group) :
    Sound (state.apply n effect) := by
  have hOwned : ∀ group ∈ effect.next.openGroups, effect.next.userId = some group.owner := by
    intro group hGroup
    rw [hEffect.user, hEffect.owned group hGroup]
  refine h.of_views userId (fun other hOther => ?_) ?_ (Nat.le_add_right _ _)
    (Nat.lt_add_right _ (h.born_of_request hRequest hUser)) (h.owned_set hOwned)
  · refine view_apply_other hRequest hEffect.toOnly hOther ?_ ?_
    · rw [hUser]
      exact fun hSame => hOther (Option.some.inj hSame).symm
    · rw [hEffect.user]
      exact fun hSame => hOther (Option.some.inj hSame).symm
  · have hMem := mem_view hRequest hUser
    rw [view_apply_self hEffect.toOnly]
    rcases (h.standing userId).known_cases hMem hClosed with ⟨group, hLive⟩ | ⟨hKnown, hGone, hAll⟩
    · have hStep := hSuits group hLive (hLive.requests request hMem)
      refine .live _ group ⟨?_, ?_, ?_, ?_, ?_⟩
      · exact fun hNone => hLive.known (List.append_eq_nil_iff.mp hNone).1
      · rw [hStep.groups, List.append_nil]
        exact hLive.groups
      · intro rows hRows
        unfold Effect.entryAfter at hRows
        split at hRows
        · exact hLive.entry rows hRows
        · rename_i pair hWritten
          exact hStep.entry _ hWritten rows hRows
      · intro pair hPair
        exact (List.mem_append.mp hPair).elim (hLive.returned pair) (hStep.returned pair)
      · intro other hOther
        rcases mem_filter_set hOther with hNew | hOld
        · rw [hNew]
          exact hStep.next
        · exact hLive.requests other hOld
    · refine .gone _ (fun hNone => hKnown (List.append_eq_nil_iff.mp hNone).1) ?_ ?_
      · rw [hGone, hEffect.noUsers]
        rfl
      · intro other hOther
        rcases mem_filter_set hOther with hNew | hOld
        · rw [hNew]
          exact hEffect.closed
        · exact hAll other hOld

/-- A step within the transaction that brings a user. -/
theorem Sound.apply_open (h : Sound state) (hRequest : state.requests[n]? = some request)
    (hUser : request.userId = some userId) (hOpen : request.openRow ≠ none)
    (hOnly : effect.Only userId) (hNext : ∀ other ≠ userId, effect.next.userId ≠ some other)
    (hOwned : ∀ group ∈ effect.next.openGroups, effect.next.userId = some group.owner)
    (hStanding : ∀ returned, request.Opens returned →
      Standing ⟨effect.users.map fun row => row.id, effect.users, effect.groups,
        effect.entryAfter none, returned ++ effect.returned,
        [effect.next].filter fun request => request.userId = some userId⟩) :
    Sound (state.apply n effect) := by
  refine h.of_views userId (fun other hOther => ?_) ?_ (Nat.le_add_right _ _)
    (Nat.lt_add_right _ (h.born_of_request hRequest hUser)) (h.owned_set hOwned)
  · refine view_apply_other hRequest hOnly hOther ?_ (hNext other hOther)
    rw [hUser]
    exact fun hSame => hOther (Option.some.inj hSame).symm
  · obtain ⟨returned, hView, hOpens⟩ :=
      (h.standing userId).open_cases (mem_view hRequest hUser) hOpen
    have hOnlyRequest : state.requests.filter (fun request => request.userId = some userId) =
        [request].filter fun request => request.userId = some userId := by
      have hKept : [request].filter (fun request => request.userId = some userId) = [request] := by
        simp [hUser]
      rw [hKept]
      exact congrArg View.requests hView
    rw [view_apply_self hOnly, hView, filter_set_only hRequest effect.next hOnlyRequest]
    exact hStanding returned hOpens

/-- A step that goes on without a user. -/
theorem Sound.apply_quiet (h : Sound state) (hRequest : state.requests[n]? = some request)
    (hUser : request.userId = none) {next : Request} (hNext : next.userId = none)
    (hGroups : next.openGroups = []) (drawn : Nat) :
    Sound (state.apply n { next := next, drawnUsers := drawn }) := by
  refine h.of_same_views (fun userId => ?_) (Nat.le_add_right _ _) (h.owned_set ?_)
  · refine View.ext ?_ ?_ ?_ rfl ?_ ?_
    · exact congrArg (List.filter _) (List.append_nil _)
    · exact congrArg (List.filter _) (List.append_nil _)
    · exact congrArg (List.filter _) (List.append_nil _)
    · exact congrArg (List.filter _) (List.append_nil _)
    · exact filter_set_other hRequest (by simp [hUser]) (by simp [hNext])
  · rw [hGroups]
    nofun

/-- A user is inserted, under a number that was never given. -/
theorem Sound.apply_born (h : Sound state) (hRequest : state.requests[n]? = some request)
    (hUser : request.userId = none) {user : NewUser} (row : UserRow)
    (hNumber : row.id.value.toNat = state.nextUser) :
    Sound (state.apply n { next := .enter user (.insertGroup row), drawnUsers := 1 }) := by
  have hOnly := only_next (.enter user (.insertGroup row)) 1 0 row.id
  have hView := h.fresh row.id (Nat.le_of_eq hNumber.symm)
  refine h.of_views row.id (fun other hOther => ?_) ?_ (Nat.le_add_right _ _)
    (by rw [hNumber]; exact Nat.lt_add_one _) (h.owned_set nofun)
  · refine view_apply_other hRequest hOnly hOther ?_ ?_
    · rw [hUser]
      nofun
    · exact fun hSame => hOther (Option.some.inj hSame).symm
  · have hNone : state.requests.filter (fun request => request.userId = some row.id) =
        [request].filter fun request => request.userId = some row.id := by
      have hKept : [request].filter (fun request => request.userId = some row.id) = [] := by
        simp [hUser]
      rw [hKept]
      exact congrArg View.requests hView
    have hNew : [Request.enter user (.insertGroup row)].filter
        (fun request => request.userId = some row.id) = [.enter user (.insertGroup row)] := by
      simp [Request.userId, EnterPhase.openRow]
    rw [view_apply_self hOnly, hView, filter_set_only hRequest _ hNone, hNew]
    exact .opening _ [] rfl

/-- A transaction that has brought a user is taken back. -/
theorem Sound.apply_stopped (h : Sound state) (hRequest : state.requests[n]? = some request)
    (hUser : request.userId = some userId) (hOpen : request.openRow ≠ none) (user : NewUser) :
    Sound (state.apply n { next := .enter user .done }) :=
  h.apply_open hRequest hUser hOpen (only_next _ 0 0 _)
    (fun other _ => (Option.some_ne_none other).symm) (List.forall_mem_nil _)
    fun _ _ => .closed _

/-- The default group is inserted within the transaction of its user. -/
theorem Sound.enter_insertGroup (h : Sound state) {user : NewUser} {row : UserRow} (now : Timestamp)
    (hRequest : state.requests[n]? = some (.enter user (.insertGroup row))) :
    Sound (state.apply n ((EnterPhase.insertGroup row).advance state now user)) := by
  rw [EnterPhase.advance]
  cases numbered state.nextGroup with
  | error error => exact h.apply_stopped hRequest rfl (Option.some_ne_none _) user
  | ok id =>
      refine h.apply_open hRequest rfl (Option.some_ne_none _) (only_next _ 0 1 _)
        (fun other hOther hRow => hOther (Option.some.inj hRow).symm)
        (List.forall_mem_singleton.mpr rfl) fun returned hOpens => ?_
      obtain rfl : returned = [] := hOpens
      have hNext := Standing.opening
        (.enter user (.dropEntry row (allGroup id row.id now))) [] ⟨rfl, rfl⟩
      simpa [Request.userId, EnterPhase.openRow, Effect.entryAfter] using hNext

/-- With the commit the new user has his default group. -/
theorem Sound.enter_dropEntry (h : Sound state) {user : NewUser} {row : UserRow}
    {group : DeviceGroupModel} (now : Timestamp)
    (hRequest : state.requests[n]? = some (.enter user (.dropEntry row group))) :
    Sound (state.apply n ((EnterPhase.dropEntry row group).advance state now user)) := by
  have hOwned := h.owned _ (List.mem_of_getElem? hRequest)
  refine h.apply_open hRequest rfl (Option.some_ne_none _)
    (((only_next _ 0 0 _).write none).give group.id)
    (fun other hOther hRow => hOther (Option.some.inj hRow).symm) hOwned
    fun returned hOpens => ?_
  obtain ⟨rfl, hDefault⟩ := hOpens
  have hNext := Standing.opening (.enter user (.commit row group)) [(row.id, group.id)]
    ⟨List.forall_mem_singleton.mpr rfl, hDefault⟩
  simpa [Request.userId, EnterPhase.advance, EnterPhase.openRow, Effect.entryAfter] using hNext

/-- The user and its default group come together. -/
theorem Sound.enter_commit (h : Sound state) {user : NewUser} {row : UserRow}
    {group : DeviceGroupModel} (now : Timestamp)
    (hRequest : state.requests[n]? = some (.enter user (.commit row group))) :
    Sound (state.apply n ((EnterPhase.commit row group).advance state now user)) := by
  have hOwned := h.owned _ (List.mem_of_getElem? hRequest) group (List.mem_singleton.mpr rfl)
  have hOwner : group.owner = row.id := (Option.some.inj hOwned).symm
  have hOnly := (only_next (.enter user .done) 0 0 row.id).insert hOwner
  refine h.apply_open hRequest rfl (Option.some_ne_none _)
    ⟨List.forall_mem_singleton.mpr rfl, hOnly.groups, hOnly.entry, hOnly.returned⟩
    (fun other _ => (Option.some_ne_none other).symm) (List.forall_mem_nil _)
    fun returned hOpens => ?_
  obtain ⟨hReturned, hDefault⟩ := hOpens
  refine .live _ group ⟨List.cons_ne_nil _ _, ?_, nofun, ?_, List.forall_mem_nil _⟩
  · simp [EnterPhase.advance, hDefault]
  · simpa [EnterPhase.advance] using hReturned

/-- Each step of a registration keeps the state sound. -/
theorem Sound.enter (h : Sound state) {user : NewUser} {phase : EnterPhase} (now : Timestamp)
    (hRequest : state.requests[n]? = some (.enter user phase)) :
    Sound (state.apply n (phase.advance state now user)) := by
  cases phase with
  | findName =>
      rw [EnterPhase.advance]
      split_ifs
      · exact h.apply_quiet hRequest rfl rfl rfl 0
      · exact h.apply_quiet hRequest rfl rfl rfl 0
  | findEmail =>
      rw [EnterPhase.advance]
      split_ifs
      · exact h.apply_quiet hRequest rfl rfl rfl 0
      · exact h.apply_quiet hRequest rfl rfl rfl 0
  | findUser =>
      rw [EnterPhase.advance]
      split_ifs
      · exact h.apply_quiet hRequest rfl rfl rfl 0
      · exact h.apply_quiet hRequest rfl rfl rfl 0
  | insertUser =>
      rw [EnterPhase.advance]
      cases hNumber : numbered state.nextUser with
      | error error => exact h.apply_quiet hRequest rfl rfl rfl 0
      | ok id =>
          dsimp only
          split_ifs
          · exact h.apply_quiet hRequest rfl rfl rfl 1
          · exact h.apply_quiet hRequest rfl rfl rfl 0
          · exact h.apply_born hRequest rfl (user.row id) (numbered_ok hNumber)
  | insertGroup row => exact h.enter_insertGroup now hRequest
  | dropEntry row group => exact h.enter_dropEntry now hRequest
  | commit row group => exact h.enter_commit now hRequest
  | done => exact h.apply_quiet hRequest rfl rfl rfl 0

/-- Each step of a request keeps the state sound. -/
theorem Sound.advance (h : Sound state) (now : Timestamp)
    (hRequest : state.requests[n]? = some request) :
    Sound (state.apply n (request.advance state now)) := by
  have hOwned := h.owned _ (List.mem_of_getElem? hRequest)
  cases request with
  | enter user phase => exact h.enter now hRequest
  | query userId creates phase =>
      have hEffect : (phase.advance state now userId creates).OfKnown userId :=
        query_ofKnown creates phase fun group hGroup => (Option.some.inj (hOwned group hGroup)).symm
      exact h.apply_known hRequest rfl rfl hEffect
        fun group hLive hFits => query_suits hLive creates phase hFits
  | select userId phase =>
      exact h.apply_known hRequest rfl rfl (select_ofKnown phase)
        fun group hLive hFits => select_suits hLive phase hFits
  | renew userId phase =>
      exact h.apply_known hRequest rfl rfl (renew_ofKnown phase)
        fun group hLive hFits => renew_suits hLive phase hFits

/-- A request that fails takes back what its transaction has inserted. -/
theorem Sound.fail (h : Sound state) (hRequest : state.requests[n]? = some request) :
    Sound (state.apply n { next := request.stop }) := by
  cases request with
  | enter user phase =>
      cases hRow : phase.openRow with
      | none =>
          refine h.apply_quiet hRequest ?_ rfl rfl 0
          rw [Request.userId, hRow]
          rfl
      | some row =>
          have hUser : (Request.enter user phase).userId = some row.id := by
            rw [Request.userId, hRow]
            rfl
          have hOpen : (Request.enter user phase).openRow ≠ none := by
            rw [Request.openRow, hRow]
            exact Option.some_ne_none _
          exact h.apply_stopped hRequest hUser hOpen user
  | query userId creates phase =>
      exact h.apply_known hRequest rfl rfl (ofKnown_next rfl rfl (List.forall_mem_nil _))
        fun group hLive hFits => suits_next trivial
  | select userId phase =>
      exact h.apply_known hRequest rfl rfl (ofKnown_next rfl rfl (List.forall_mem_nil _))
        fun group hLive hFits => suits_next trivial
  | renew userId phase =>
      exact h.apply_known hRequest rfl rfl (ofKnown_next rfl rfl (List.forall_mem_nil _))
        fun group hLive hFits => suits_next trivial

end Steps

section Inputs

variable {state : State} {userId : Id} {request : Request}

/-- A request that starts holds no group of another user. -/
theorem Sound.owned_start (h : Sound state) (hGroups : request.openGroups = []) :
    ∀ other ∈ (state.start request).requests, ∀ group ∈ other.openGroups,
      other.userId = some group.owner := by
  intro other hOther
  rcases List.mem_append.mp hOther with hOld | hNew
  · exact h.owned other hOld
  · rw [List.mem_singleton.mp hNew, hGroups]
    nofun

/-- A request that may bring a user begins without one. -/
theorem Sound.start (h : Sound state) (hUser : request.userId = none)
    (hGroups : request.openGroups = []) : Sound (state.start request) := by
  refine h.of_same_views (fun userId => ?_) (Nat.le_refl _) (h.owned_start hGroups)
  refine View.ext rfl rfl rfl rfl rfl ?_
  show (state.requests ++ [request]).filter _ = _
  rw [List.filter_append, List.filter_cons_of_neg (by simp [hUser]), List.filter_nil,
    List.append_nil]
  rfl

/-- A request that starts for a user who is known keeps the state sound. -/
theorem Sound.startKnown (h : Sound state) (hUser : request.userId = some userId)
    (hClosed : request.openRow = none) (hGroups : request.openGroups = [])
    (hFits : ∀ group, request.Fits group) : Sound (state.startKnown userId request) := by
  unfold State.startKnown
  split_ifs with hKnown
  · have hThere : (state.view userId).known ≠ [] := by
      exact List.ne_nil_of_mem (List.mem_filter.mpr ⟨hKnown, decide_eq_true rfl⟩)
    have hBorn := h.born fun hEmpty => hThere (congrArg View.known hEmpty)
    have hRequests : ∀ other ∈ ((state.start request).view userId).requests,
        other ∈ (state.view userId).requests ∨ other = request := by
      intro other hOther
      obtain ⟨hMem, hAbout⟩ := List.mem_filter.mp hOther
      exact (List.mem_append.mp hMem).imp (fun hOld => List.mem_filter.mpr ⟨hOld, hAbout⟩)
        List.mem_singleton.mp
    refine h.of_views userId (fun other hOther => ?_) ?_ (Nat.le_refl _) hBorn
      (h.owned_start hGroups)
    · refine View.ext rfl rfl rfl rfl rfl ?_
      have hAbout : ¬request.userId = some other := by
        rw [hUser]
        exact fun hSame => hOther (Option.some.inj hSame).symm
      show (state.requests ++ [request]).filter _ = _
      rw [List.filter_append, List.filter_cons_of_neg (by simpa using hAbout), List.filter_nil,
        List.append_nil]
      rfl
    · rcases (h.standing userId).of_known hThere with ⟨group, hLive⟩ | ⟨hGone, hAll⟩
      · refine .live _ group ⟨hLive.known, hLive.groups, hLive.entry, hLive.returned, ?_⟩
        intro other hOther
        rcases hRequests other hOther with hOld | hNew
        · exact hLive.requests other hOld
        · exact hNew ▸ hFits group
      · refine .gone _ hThere hGone fun other hOther => ?_
        rcases hRequests other hOther with hOld | hNew
        · exact hAll other hOld
        · exact hNew ▸ hClosed
  · exact h

/-- A change of what concerns one user, besides requests. -/
theorem Sound.change (h : Sound state) (userId : Id) {next : State} (change : View → View)
    (hStanding : ∀ view, Standing view → Standing (change view))
    (hEmpty : change View.empty = View.empty)
    (hOwn : next.view userId = change (state.view userId))
    (hOther : ∀ other ≠ userId, next.view other = state.view other)
    (hNumber : next.nextUser = state.nextUser) (hRequests : next.requests = state.requests) :
    Sound next where
  standing := by
    intro other
    by_cases hSame : other = userId
    · rw [hSame, hOwn]
      exact hStanding _ (h.standing userId)
    · rw [hOther other hSame]
      exact h.standing other
  fresh := by
    intro other hFresh
    rw [hNumber] at hFresh
    by_cases hSame : other = userId
    · rw [hSame] at hFresh ⊢
      rw [hOwn, h.fresh userId hFresh, hEmpty]
    · rw [hOther other hSame, h.fresh other hFresh]
  owned := by
    rw [hRequests]
    exact h.owned

/-- Without an entry a user stands as before. -/
theorem Standing.dropEntry (view : View) (h : Standing view) :
    Standing { view with entry := none } := by
  cases h with
  | closed returned => exact .closed returned
  | opening request returned hOpens => exact .opening request returned hOpens
  | live view group hLive =>
      exact .live _ group ⟨hLive.known, hLive.groups, nofun, hLive.returned, hLive.requests⟩
  | gone view hKnown hUsers hRequests => exact .gone _ hKnown hUsers hRequests

/-- A user who is deleted with his groups and his entry leaves nothing behind. -/
theorem Standing.delete (view : View) (h : Standing view) :
    Standing { view with users := [], groups := [], entry := none } := by
  cases h with
  | closed returned => exact .closed returned
  | opening request returned hOpens => exact .opening request returned hOpens
  | live view group hLive =>
      exact .gone _ hLive.known rfl fun request hRequest =>
        (hLive.requests request hRequest).openRow
  | gone view hKnown hUsers hRequests => exact .gone _ hKnown rfl hRequests

/-- Rows of others stay. -/
theorem filter_filter_other {α : Type} (rows : List α) (key : α → Id) {other : Id}
    (hOther : other ≠ userId) :
    (rows.filter fun row => key row ≠ userId).filter (fun row => key row = other) =
      rows.filter fun row => key row = other := by
  rw [List.filter_filter]
  refine List.filter_congr fun row _ => ?_
  by_cases hKey : key row = other
  · simp [hKey, hOther]
  · simp [hKey]

/-- Nothing of a key is left once it is filtered out. -/
theorem filter_filter_self {α : Type} (rows : List α) (key : α → Id) :
    (rows.filter fun row => key row ≠ userId).filter (fun row => key row = userId) = [] := by
  rw [List.filter_filter]
  refine List.filter_eq_nil_iff.mpr fun row _ hBoth => ?_
  simp at hBoth

/-- Each input keeps the state sound. -/
theorem Sound.step (h : Sound state) (input : Input) : Sound (state.step input) := by
  cases input with
  | signup user => exact h.start rfl rfl
  | login user => exact h.start rfl rfl
  | postDevice userId => exact h.startKnown rfl rfl rfl fun _ => trivial
  | putTop userId => exact h.startKnown rfl rfl rfl fun _ => trivial
  | getAllDevice userId => exact h.startKnown rfl rfl rfl fun _ => trivial
  | getGroup userId => exact h.startKnown rfl rfl rfl fun _ => trivial
  | advance n now =>
      rw [State.step]
      cases hRequest : state.requests[n]? with
      | none => exact h
      | some request => exact h.advance now hRequest
  | fail n =>
      rw [State.step]
      cases hRequest : state.requests[n]? with
      | none => exact h
      | some request => exact h.fail hRequest
  | dropEntry userId =>
      refine h.change userId _ Standing.dropEntry rfl ?_ (fun other hOther => ?_) rfl rfl
      · exact View.ext rfl rfl rfl (Function.update_self _ _ _) rfl rfl
      · exact View.ext rfl rfl rfl (Function.update_of_ne hOther _ _) rfl rfl
  | deleteUser userId =>
      refine h.change userId _ Standing.delete rfl ?_ (fun other hOther => ?_) rfl rfl
      · exact View.ext rfl (filter_filter_self state.users UserRow.id)
          (filter_filter_self state.groups DeviceGroupModel.owner) (Function.update_self _ _ _)
          rfl rfl
      · exact View.ext rfl (filter_filter_other state.users UserRow.id hOther)
          (filter_filter_other state.groups DeviceGroupModel.owner hOther)
          (Function.update_of_ne hOther _ _) rfl rfl

end Inputs

theorem sound_empty : Sound State.empty where
  standing := fun _ => .closed []
  fresh := fun _ _ => rfl
  owned := List.forall_mem_nil _

section Properties

variable {state : State} {userId : Id}

/-- A request that holds a user row is one of that user. -/
theorem userId_of_openRow {request : Request} {row : UserRow} (h : request.openRow = some row) :
    request.userId = some row.id := by
  cases request with
  | enter user phase =>
      have hRow : phase.openRow = some row := h
      rw [Request.userId, hRow]
      rfl
  | _ => cases h

/-- A user that is there is seen in its rows or in the request that brings it. -/
theorem hasUser_view (h : state.HasUser userId) :
    (state.view userId).users ≠ [] ∨
      ∃ request ∈ (state.view userId).requests, request.openRow ≠ none := by
  obtain ⟨row, hRow, rfl⟩ := h
  rcases List.mem_append.mp hRow with hCommitted | hOpen
  · exact .inl (List.ne_nil_of_mem (List.mem_filter.mpr ⟨hCommitted, decide_eq_true rfl⟩))
  · obtain ⟨request, hMem, hOpenRow⟩ := List.mem_filterMap.mp hOpen
    refine .inr ⟨request, List.mem_filter.mpr
      ⟨hMem, decide_eq_true (userId_of_openRow hOpenRow)⟩, ?_⟩
    rw [hOpenRow]
    exact Option.some_ne_none _

/-- The groups of open transactions are seen by the users of the transactions. -/
theorem filter_openGroups (requests : List Request) (userId : Id)
    (hOwned : ∀ request ∈ requests, ∀ group ∈ request.openGroups,
      request.userId = some group.owner) :
    (requests.flatMap Request.openGroups).filter
        (fun group => group.owner = userId ∧ group.defaultGroup) =
      ((requests.filter fun request => request.userId = some userId).flatMap
        Request.openGroups).filter fun group => group.defaultGroup := by
  induction requests with
  | nil => rfl
  | cons request requests ih =>
      have hRest := ih fun other hOther => hOwned other (List.mem_cons_of_mem _ hOther)
      have hGroups := hOwned request List.mem_cons_self
      rw [List.flatMap_cons, List.filter_append, hRest]
      by_cases hUser : request.userId = some userId
      · have hSame : request.openGroups.filter
            (fun group => group.owner = userId ∧ group.defaultGroup) =
              request.openGroups.filter fun group => group.defaultGroup := by
          refine List.filter_congr fun group hGroup => ?_
          have hOwner := Option.some.inj ((hGroups group hGroup).symm.trans hUser)
          simp [hOwner]
        rw [hSame, List.filter_cons_of_pos (by simpa using hUser), List.flatMap_cons,
          List.filter_append]
      · have hNone : request.openGroups.filter
            (fun group => group.owner = userId ∧ group.defaultGroup) = [] := by
          refine List.filter_eq_nil_iff.mpr fun group hGroup hBoth => hUser ?_
          rw [hGroups group hGroup, (of_decide_eq_true hBoth).1]
        rw [hNone, List.filter_cons_of_neg (by simpa using hUser), List.nil_append]

/-- The default groups of a user are those committed and those that his requests hold.
-/
theorem Sound.defaults_eq (h : Sound state) (userId : Id) :
    state.defaults userId =
      (state.view userId).groups.filter (fun group => group.defaultGroup) ++
        ((state.view userId).requests.flatMap Request.openGroups).filter
          fun group => group.defaultGroup := by
  have hRows : state.groups.filter (fun group => group.owner = userId ∧ group.defaultGroup) =
      (state.view userId).groups.filter fun group => group.defaultGroup := by
    show _ = (state.groups.filter fun row => row.owner = userId).filter _
    rw [List.filter_filter]
    refine List.filter_congr fun group _ => ?_
    simp [and_comm]
  rw [State.defaults, List.filter_append, filter_openGroups _ _ h.owned, hRows]
  rfl

/-- A request that fits holds no group that is not committed. -/
theorem Request.Fits.openGroups {group : DeviceGroupModel} {request : Request}
    (h : request.Fits group) : request.openGroups = [] := by
  cases request with
  | enter user phase => exact h.elim
  | query userId creates phase =>
      cases phase with
      | dropEntry own =>
          obtain rfl : own = none := h
          rfl
      | commit own =>
          obtain rfl : own = none := h
          rfl
      | _ => rfl
  | _ => rfl

theorem Live.openGroups {view : View} {group : DeviceGroupModel} (h : Live view group) :
    view.requests.flatMap Request.openGroups = [] :=
  List.flatMap_eq_nil_iff.mpr fun request hRequest => (h.requests request hRequest).openGroups

/-- What a transaction that brings a user has inserted and returned. -/
theorem Request.Opens.openGroups {returned : List (Id × Id)} {request : Request}
    (h : request.Opens returned) :
    (returned = [] ∧ request.openGroups = []) ∨
      ∃ group, request.openGroups = [group] ∧ group.defaultGroup ∧
        ∀ pair ∈ returned, pair.2 = group.id := by
  cases request with
  | enter user phase =>
      cases phase with
      | insertGroup row => exact .inl ⟨h, rfl⟩
      | dropEntry row group =>
          obtain ⟨rfl, hDefault⟩ := h
          exact .inr ⟨group, rfl, hDefault, nofun⟩
      | commit row group => exact .inr ⟨group, rfl, h.2, h.1⟩
      | _ => exact h.elim
  | _ => exact h.elim

/-- The default groups of a user that is there, with what callers were given. -/
theorem Sound.defaults_cases (h : Sound state) (hUser : state.HasUser userId) :
    (state.defaults userId = [] ∧ (state.view userId).returned = []) ∨
      ∃ group, state.defaults userId = [group] ∧
        ∀ pair ∈ (state.view userId).returned, pair.2 = group.id := by
  have hThere := hasUser_view hUser
  have hStanding := h.standing userId
  rw [h.defaults_eq]
  generalize state.view userId = view at hThere hStanding ⊢
  cases hStanding with
  | closed returned =>
      rcases hThere with hRows | ⟨request, hMem, -⟩
      · exact absurd rfl hRows
      · exact absurd hMem List.not_mem_nil
  | opening request returned hOpens =>
      rcases hOpens.openGroups with ⟨hNone, hGroups⟩ | ⟨group, hGroups, hDefault, hReturned⟩
      · exact .inl ⟨by simp [hGroups], hNone⟩
      · exact .inr ⟨group, by simp [hGroups, hDefault], hReturned⟩
  | live view group hLive =>
      refine .inr ⟨group, ?_, hLive.returned⟩
      rw [hLive.groups, hLive.openGroups]
      rfl
  | gone view hKnown hUsers hRequests =>
      rcases hThere with hRows | ⟨request, hMem, hOpen⟩
      · exact absurd hUsers hRows
      · exact absurd (hRequests request hMem) hOpen

/-- In a sound state each user has one default group at most, committed or not. -/
theorem Sound.oneDefault (h : Sound state) : OneDefault state where
  one := by
    intro userId hUser
    rcases h.defaults_cases hUser with ⟨hNone, -⟩ | ⟨group, hOne, -⟩
    · rw [hNone]
      exact Nat.zero_le 1
    · rw [hOne]
      exact Nat.le_refl 1
  returned := by
    intro userId hUser id hReturned
    have hPair : (userId, id) ∈ (state.view userId).returned :=
      List.mem_filter.mpr ⟨hReturned, decide_eq_true rfl⟩
    rcases h.defaults_cases hUser with ⟨-, hNone⟩ | ⟨group, hOne, hGiven⟩
    · rw [hNone] at hPair
      exact absurd hPair List.not_mem_nil
    · exact ⟨group, hOne ▸ List.mem_singleton.mpr rfl, (hGiven _ hPair).symm⟩

end Properties

/-- From an empty server on, in every state of every run: each user has one
default group at most, and callers were never given another one. -/
theorem one_default_group (inputs : List Input) :
    Along State.step OneDefault State.empty inputs := by
  intro count
  have hSound : Sound (run State.step State.empty (inputs.take count)) :=
    run_always (fun _ input h => h.step input) _ _ sound_empty
  exact hSound.oneDefault

/-- The lookups do not exclude each other: two requests of a user whose account
is deleted both insert a group. -/
example : (run State.step State.empty
    (.signup ⟨"alice", "a@b.cc", "u", none⟩ :: [0, 0, 0, 0, 0, 0].map (.advance · ⟨0⟩) ++
      .deleteUser ⟨1⟩ :: .getAllDevice ⟨1⟩ :: .getAllDevice ⟨1⟩ ::
        [1, 1, 2, 2, 1, 2].map (.advance · ⟨0⟩))).groups.map
          (fun group => (group.id, group.owner)) = [(⟨2⟩, ⟨1⟩), (⟨3⟩, ⟨1⟩)] := by decide +kernel

end SnapEmu.Server.DefaultGroup
