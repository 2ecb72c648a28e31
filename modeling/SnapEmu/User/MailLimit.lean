import SnapEmu.Semantics.Run
import SnapEmu.User.Signup

/-! The two requests that mail a verification code, each taken step by step
while others run, and how many codes are mailed to an address before its
counter expires. -/
namespace SnapEmu.User

open Semantics

/-- The counters of the cache. Their keys are not those of the codes. -/
abbrev Counters := ExpiringStore String Int

structure EmailCount where
  key : String
  count : Int
  deriving DecidableEq

namespace EmailCount

/-- `MAX_COUNT`. -/
def maxCount : Int := 5

/-- `EX 100`. -/
def countLifetime : Nat := 100 * 1000

def limit (c : EmailCount) : Bool := c.count < maxCount

/-- The new count is the one read earlier plus one, whatever is stored now. -/
def updateEmailSendCount (c : EmailCount) (counters : Counters) : Counters :=
  let count := if maxCount ≤ c.count then maxCount else c.count + 1
  counters.set c.key count countLifetime

end EmailCount

namespace UserStatus

def key (email : String) : String := "email:" ++ email

def emailSendCount (counters : Counters) (email : String) : EmailCount :=
  ⟨key email, (counters.get (key email)).getD 0⟩

/-- Addresses have keys of their own. -/
theorem key_inj {email email' : String} : key email = key email' ↔ email = email' := by
  simp [key]

end UserStatus

namespace MailLimit

/-- `reset` and `delete`. -/
inductive Kind where
  | reset
  | delete
  deriving DecidableEq

inductive Mail where
  | validCode (username email code : String)
  | deleteValidCode (username email code : String)
  deriving DecidableEq

/-- How the services answer while one step of a request is taken. -/
structure Services where
  /-- `UserManager::load_from_config`, and its `check_email`. -/
  userManager : Except ApiError (Option (String → Except ApiError (Option UserResp)))
  /-- The login name of the user with this email address. -/
  findByEmail : String → Except ApiError (Option String)
  /-- `EmailManager::new`, and how a mail is taken. -/
  emailManager : Except ApiError (Option (Mail → Except ApiError Unit))
  random : UInt32

def orNotFound {α : Type} (email : String) : Option α → Except ApiError α
  | some value => .ok value
  | none => .error (notFoundEmail email)

namespace Kind

/-- The name by which the user is addressed. -/
def username (services : Services) (email : String) : Kind → Except ApiError String
  | reset => do
      match ← services.userManager with
      | some checkEmail =>
          let authUser ← orNotFound email (← checkEmail email)
          return authUser.username
      | none => orNotFound email (← services.findByEmail email)
  | delete => do
      if let some checkEmail ← services.userManager then
        let _authUser ← orNotFound email (← checkEmail email)
      orNotFound email (← services.findByEmail email)

def mail (username email code : String) : Kind → Mail
  | reset => .validCode username email code
  | delete => .deleteValidCode username email code

end Kind

/-- What a request does next. -/
inductive Phase where
  | findUser
  | emailSendCount (username : String)
  | limit (username : String) (c : EmailCount)
  | updateEmailSendCount (username : String) (c : EmailCount)
  | genCode (username : String)
  | mail (username code : String)
  | done (answer : Except ApiError AppString)

structure Request where
  kind : Kind
  email : String
  phase : Phase

/-- The cache. Beside it stand the codes generated for each address, and those
handed to the mailer, since its counter was last absent. -/
structure Stores where
  counters : Counters
  redis : Redis
  generated : String → Nat
  mailed : String → Nat

structure State where
  stores : Stores
  requests : List Request

def emailLimit : ApiError := .user (.translated "messages.user.signup.email_limit" [])

def emailSendSuccess : AppString := .translated "messages.user.signup.email_send_success" []

def countOne (counts : String → Nat) (email : String) : String → Nat :=
  Function.update counts email (counts email + 1)

/-- One step of a request, and what it does after it. -/
def Request.advance (services : Services) (stores : Stores) (request : Request) :
    Stores × Phase :=
  match request.phase with
  | .findUser =>
      match request.kind.username services request.email with
      | .error error => (stores, .done (.error error))
      | .ok username => (stores, .emailSendCount username)
  | .emailSendCount username =>
      (stores, .limit username (UserStatus.emailSendCount stores.counters request.email))
  | .limit username c =>
      if c.limit then (stores, .updateEmailSendCount username c)
      else (stores, .done (.error emailLimit))
  | .updateEmailSendCount username c =>
      ({ stores with counters := c.updateEmailSendCount stores.counters }, .genCode username)
  | .genCode username =>
      let (redis, code) := UserStatus.genCode stores.redis request.email services.random
      ({ stores with
          redis := redis
          generated := countOne stores.generated request.email }, .mail username code)
  | .mail username code =>
      match services.emailManager with
      | .error error => (stores, .done (.error error))
      | .ok none => (stores, .done (.ok emailSendSuccess))
      | .ok (some send) =>
          ({ stores with mailed := countOne stores.mailed request.email },
            .done ((send (request.kind.mail username request.email code)).map
              fun _ => emailSendSuccess))
  | .done answer => (stores, .done answer)

inductive Input where
  | start (kind : Kind) (email : String)
  | advance (n : Nat) (services : Services)
  | fail (n : Nat) (error : ApiError)
  | wait (time : Nat)

/-- Where the counter is absent, counting starts again. -/
def Stores.restart (stores : Stores) : Stores :=
  let kept (counts : String → Nat) (email : String) : Nat :=
    if (stores.counters.get (UserStatus.key email)).isSome then counts email else 0
  { stores with generated := kept stores.generated, mailed := kept stores.mailed }

namespace State

def empty : State := ⟨⟨.empty, .empty, fun _ => 0, fun _ => 0⟩, []⟩

def setPhase (state : State) (n : Nat) (request : Request) (phase : Phase) : State :=
  { state with requests := state.requests.set n { request with phase := phase } }

/-- A failing connection ends a request where it is. -/
def take (state : State) : Input → State
  | .start kind email => { state with requests := state.requests ++ [⟨kind, email, .findUser⟩] }
  | .advance n services =>
      match state.requests[n]? with
      | none => state
      | some request =>
          let (stores, phase) := request.advance services state.stores
          setPhase { state with stores := stores } n request phase
  | .fail n error =>
      match state.requests[n]? with
      | none => state
      | some request =>
          match request.phase with
          | .done _ => state
          | _ => state.setPhase n request (.done (.error error))
  | .wait time =>
      { state with stores := { state.stores with
          counters := state.stores.counters.advance time
          redis := state.stores.redis.advance time } }

def step (state : State) (input : Input) : State :=
  let next := state.take input
  { next with stores := next.stores.restart }

end State

/-- The count in force for an address. -/
def stored (counters : Counters) (email : String) : Int :=
  (counters.get (UserStatus.key email)).getD 0

namespace Phase

/-- The limit was passed, and the code is still to be generated. -/
def toGenerate : Phase → Bool
  | .genCode _ => true
  | _ => false

/-- The limit was passed, and the code is still to be mailed. -/
def toMail : Phase → Bool
  | .genCode _ => true
  | .mail _ _ => true
  | _ => false

/-- An update about to be made still knows the count in force. -/
def UpToDate (count : Int) : Phase → Prop
  | .updateEmailSendCount _ c => count ≤ c.count
  | _ => True

instance (count : Int) : (phase : Phase) → Decidable (phase.UpToDate count)
  | .updateEmailSendCount _ c => inferInstanceAs (Decidable (count ≤ c.count))
  | .findUser | .emailSendCount _ | .limit _ _ | .genCode _ | .mail _ _ | .done _ =>
      .isTrue trivial

/-- A count that was read belongs to the address, and one that is to be
updated is below the limit. -/
def Reads (email : String) : Phase → Prop
  | .limit _ c => c.key = UserStatus.key email
  | .updateEmailSendCount _ c => c.key = UserStatus.key email ∧ c.limit
  | _ => True

end Phase

/-- No counter expires under a request that has passed the limit and has not
mailed its code yet. -/
def Outlast (counters : Counters) (requests : List Request) (time : Nat) : Prop :=
  ∀ request ∈ requests, request.phase.toMail →
    (counters.get (UserStatus.key request.email)).isSome →
    ((counters.advance time).get (UserStatus.key request.email)).isSome

/-- No counter is raised between the read and the update of another request
for its address, and none expires between an update and the mail. -/
def Orderly (state : State) : Input → Prop
  | .advance n _ => ∀ request ∈ state.requests[n]?,
      request.phase.UpToDate (stored state.stores.counters request.email)
  | .wait time => Outlast state.stores.counters state.requests time
  | _ => True

instance (state : State) : (input : Input) → Decidable (Orderly state input)
  | .advance n _ => inferInstanceAs (Decidable (∀ request ∈ state.requests[n]?,
      request.phase.UpToDate (stored state.stores.counters request.email)))
  | .wait time => inferInstanceAs (Decidable (∀ request ∈ state.requests, request.phase.toMail →
      (state.stores.counters.get (UserStatus.key request.email)).isSome →
      ((state.stores.counters.advance time).get (UserStatus.key request.email)).isSome))
  | .start _ _ => .isTrue trivial
  | .fail _ _ => .isTrue trivial

/-- At most five codes while a counter is kept. -/
def Limited (state : State) : Prop :=
  ∀ email, state.stores.generated email ≤ 5 ∧ state.stores.mailed email ≤ 5

/-- The requests for an address that wait for something. -/
def outstanding (waits : Phase → Bool) (requests : List Request) (email : String) : Nat :=
  requests.countP fun request => request.email = email && waits request.phase

/-- What was done for an address and what is still to be done is covered by
the count in force. -/
def Covered (waits : Phase → Bool) (counts : String → Nat) (counters : Counters)
    (requests : List Request) : Prop :=
  ∀ email, (counts email + outstanding waits requests email : Int) ≤ stored counters email

structure Kept (state : State) : Prop where
  bounded : ∀ email, stored state.stores.counters email ≤ EmailCount.maxCount
  reads : ∀ request ∈ state.requests, request.phase.Reads request.email
  generated : Covered Phase.toGenerate state.stores.generated state.stores.counters state.requests
  mailed : Covered Phase.toMail state.stores.mailed state.stores.counters state.requests

/-- What is kept limits the mails. -/
theorem Kept.limited {state : State} (h : Kept state) : Limited state := by
  intro email
  have hBounded : stored state.stores.counters email ≤ 5 := h.bounded email
  have hGenerated := h.generated email
  have hMailed := h.mailed email
  omega

section Outstanding

variable {waits : Phase → Bool} {requests : List Request} {n : Nat} {request : Request}

/-- A request that only starts is not outstanding yet. -/
theorem outstanding_start (kind : Kind) (email other : String) (hWaits : waits .findUser = false) :
    outstanding waits (requests ++ [⟨kind, email, .findUser⟩]) other =
      outstanding waits requests other := by
  simp [outstanding, hWaits]

/-- A request that changes its phase is counted by the new one. -/
theorem outstanding_set (hRequest : requests[n]? = some request) (phase : Phase) :
    outstanding waits (requests.set n { request with phase := phase }) request.email +
        (waits request.phase).toNat =
      outstanding waits requests request.email + (waits phase).toNat := by
  obtain ⟨hLength, rfl⟩ := List.getElem?_eq_some_iff.mp hRequest
  unfold outstanding
  rw [List.countP_set hLength]
  simp only [decide_true, Bool.true_and]
  by_cases hOld : waits requests[n].phase
  · have hPositive : 0 < requests.countP fun request =>
        request.email = requests[n].email && waits request.phase :=
      List.countP_pos_iff.mpr ⟨requests[n], List.getElem_mem hLength, by simp [hOld]⟩
    cases hNew : waits phase
    · simp only [hOld, if_true, Bool.false_eq_true, if_false, Bool.toNat_true, Bool.toNat_false]
      omega
    · simp only [hOld, if_true, Bool.toNat_true]
      omega
  · cases hNew : waits phase
    · simp [hOld]
    · simp [hOld]

/-- Requests of another address do not count. -/
theorem outstanding_set_other (hRequest : requests[n]? = some request) (phase : Phase)
    {other : String} (hOther : request.email ≠ other) :
    outstanding waits (requests.set n { request with phase := phase }) other =
      outstanding waits requests other := by
  obtain ⟨hLength, rfl⟩ := List.getElem?_eq_some_iff.mp hRequest
  unfold outstanding
  rw [List.countP_set hLength]
  simp [hOther]

end Outstanding

section Covered

variable {waits : Phase → Bool} {counts counts' : String → Nat} {counters counters' : Counters}
variable {requests : List Request} {n : Nat} {request : Request} {phase : Phase}

/-- A request that goes on stays covered if the count in force pays for what
it does and leaves to be done; other addresses are not concerned. -/
theorem Covered.set (h : Covered waits counts counters requests)
    (hRequest : requests[n]? = some request)
    (hOwn : (counts' request.email + (waits phase).toNat + stored counters request.email : Int) ≤
      counts request.email + (waits request.phase).toNat + stored counters' request.email)
    (hOther : ∀ other ≠ request.email, counts' other = counts other ∧
      stored counters' other = stored counters other) :
    Covered waits counts' counters' (requests.set n { request with phase := phase }) := by
  intro email
  have hCovered := h email
  by_cases hSame : email = request.email
  · subst hSame
    have hOutstanding : outstanding waits (requests.set n { request with phase := phase })
        request.email + (waits request.phase).toNat =
          outstanding waits requests request.email + (waits phase).toNat :=
      outstanding_set hRequest phase
    omega
  · rw [outstanding_set_other hRequest phase (Ne.symm hSame), (hOther email hSame).1,
      (hOther email hSame).2]
    exact hCovered

/-- The counter is not touched. -/
theorem Covered.setPhase (h : Covered waits counts counters requests)
    (hRequest : requests[n]? = some request)
    (hOwn : (waits phase).toNat ≤ (waits request.phase).toNat) :
    Covered waits counts counters (requests.set n { request with phase := phase }) :=
  h.set hRequest (by omega) fun _ _ => ⟨rfl, rfl⟩

/-- Counting one mail covers the request that sent it. -/
theorem Covered.countOne (h : Covered waits counts counters requests)
    (hRequest : requests[n]? = some request) (hBefore : waits request.phase = true)
    (hAfter : waits phase = false) :
    Covered waits (MailLimit.countOne counts request.email) counters
      (requests.set n { request with phase := phase }) := by
  refine h.set hRequest ?_ fun other hOther => ⟨Function.update_of_ne hOther _ _, rfl⟩
  rw [MailLimit.countOne, Function.update_self, hBefore, hAfter, Bool.toNat_true, Bool.toNat_false]
  omega

/-- A counted mail raises the stored count by one. -/
theorem stored_update_self {c : EmailCount} (hKey : c.key = UserStatus.key request.email)
    (hLimit : c.limit) : stored (c.updateEmailSendCount counters) request.email = c.count + 1 := by
  have hBelow : ¬ EmailCount.maxCount ≤ c.count :=
    Int.not_le.mpr (of_decide_eq_true hLimit)
  rw [stored, EmailCount.updateEmailSendCount, hKey, ExpiringStore.get_set_self, if_neg hBelow]
  rfl

/-- The counts of other addresses stay. -/
theorem stored_update_other {c : EmailCount} (hKey : c.key = UserStatus.key request.email)
    {other : String} (hOther : other ≠ request.email) :
    stored (c.updateEmailSendCount counters) other = stored counters other := by
  rw [stored, EmailCount.updateEmailSendCount, hKey,
    ExpiringStore.get_set_of_ne _ _ _ (mt UserStatus.key_inj.mp hOther)]
  rfl

/-- An update that knows the count in force pays for one more code. -/
theorem Covered.update {c : EmailCount} (h : Covered waits counts counters requests)
    (hRequest : requests[n]? = some request) (hBefore : waits request.phase = false)
    (hKey : c.key = UserStatus.key request.email) (hLimit : c.limit)
    (hUpToDate : stored counters request.email ≤ c.count) :
    Covered waits counts (c.updateEmailSendCount counters)
      (requests.set n { request with phase := phase }) := by
  refine h.set hRequest ?_ fun other hOther => ⟨rfl, stored_update_other hKey hOther⟩
  rw [stored_update_self hKey hLimit, hBefore, Bool.toNat_false]
  have hOne : (waits phase).toNat ≤ 1 := Bool.toNat_le _
  omega

end Covered

/-- The phases of the other requests are not touched. -/
theorem reads_set {requests : List Request} {n : Nat} {request : Request} {phase : Phase}
    (h : ∀ request ∈ requests, request.phase.Reads request.email)
    (hPhase : phase.Reads request.email) :
    ∀ other ∈ requests.set n { request with phase := phase }, other.phase.Reads other.email := by
  intro other hOther
  rcases List.mem_or_eq_of_mem_set hOther with hOld | hNew
  · exact h other hOld
  · subst hNew
    exact hPhase

namespace Kept

variable {state : State} {n : Nat} {request : Request} {phase : Phase}

/-- The cache is not touched, and no more is left to be done than before. -/
theorem setPhase (h : Kept state) (hRequest : state.requests[n]? = some request)
    (hReads : phase.Reads request.email)
    (hGenerate : phase.toGenerate.toNat ≤ request.phase.toGenerate.toNat)
    (hMail : phase.toMail.toNat ≤ request.phase.toMail.toNat) :
    Kept (state.setPhase n request phase) where
  bounded := h.bounded
  reads := reads_set h.reads hReads
  generated := h.generated.setPhase hRequest hGenerate
  mailed := h.mailed.setPhase hRequest hMail

theorem done (h : Kept state) (hRequest : state.requests[n]? = some request)
    (answer : Except ApiError AppString) : Kept (state.setPhase n request (.done answer)) :=
  h.setPhase hRequest trivial (Nat.zero_le _) (Nat.zero_le _)

/-- The next step of a request keeps what is done and left to be done covered,
if an update knows the count in force. -/
theorem advance (h : Kept state) (hRequest : state.requests[n]? = some request)
    (hUpToDate : request.phase.UpToDate (stored state.stores.counters request.email))
    (services : Services) :
    Kept (State.setPhase { state with stores := (request.advance services state.stores).1 } n
      request (request.advance services state.stores).2) := by
  have hReads := h.reads request (List.mem_of_getElem? hRequest)
  obtain ⟨kind, email, current⟩ := request
  cases current with
  | findUser =>
      rw [Request.advance]
      cases kind.username services email with
      | error error => exact h.done hRequest (.error error)
      | ok username => exact h.setPhase hRequest trivial (Nat.zero_le _) (Nat.zero_le _)
  | emailSendCount username =>
      rw [Request.advance]
      exact h.setPhase hRequest rfl (Nat.zero_le _) (Nat.zero_le _)
  | limit username c =>
      rw [Request.advance]
      by_cases hLimit : c.limit
      · simp only [hLimit, if_true]
        exact h.setPhase hRequest ⟨hReads, hLimit⟩ (Nat.zero_le _) (Nat.zero_le _)
      · simp only [hLimit]
        exact h.done hRequest _
  | updateEmailSendCount username c =>
      obtain ⟨hKey, hLimit⟩ := hReads
      refine ⟨?_, reads_set h.reads trivial, h.generated.update hRequest rfl hKey hLimit hUpToDate,
        h.mailed.update hRequest rfl hKey hLimit hUpToDate⟩
      intro other
      by_cases hSame : other = email
      · subst hSame
        have hBelow : c.count < EmailCount.maxCount := of_decide_eq_true hLimit
        exact (stored_update_self hKey hLimit).trans_le hBelow
      · exact (stored_update_other hKey hSame).trans_le (h.bounded other)
  | genCode username =>
      exact ⟨h.bounded, reads_set h.reads trivial, h.generated.countOne hRequest rfl rfl,
        h.mailed.setPhase hRequest (Nat.le_refl _)⟩
  | mail username code =>
      rw [Request.advance]
      cases services.emailManager with
      | error error => exact h.done hRequest (.error error)
      | ok manager =>
          cases manager with
          | none => exact h.done hRequest _
          | some send =>
              exact ⟨h.bounded, reads_set h.reads trivial,
                h.generated.setPhase hRequest (Nat.zero_le _),
                h.mailed.countOne hRequest rfl rfl⟩
  | done answer => exact h.done hRequest answer

/-- Failing a request keeps the count. -/
theorem fail (h : Kept state) (n : Nat) (error : ApiError) : Kept (state.take (.fail n error)) := by
  rw [State.take]
  cases hRequest : state.requests[n]? with
  | none => exact h
  | some request =>
      dsimp only
      split
      · exact h
      · exact h.done hRequest (.error error)

/-- Starting a request keeps the count. -/
theorem start (h : Kept state) (kind : Kind) (email : String) :
    Kept (state.take (.start kind email)) where
  bounded := h.bounded
  reads := by
    intro request hRequest
    rcases List.mem_append.mp hRequest with hOld | hNew
    · exact h.reads request hOld
    · cases List.mem_singleton.mp hNew
      trivial
  generated := fun other => by
    rw [State.take, outstanding_start kind email other rfl]
    exact h.generated other
  mailed := fun other => by
    rw [State.take, outstanding_start kind email other rfl]
    exact h.mailed other

/-- Counting again from zero needs no cover. -/
theorem restart (h : Kept state) : Kept { state with stores := state.stores.restart } where
  bounded := h.bounded
  reads := h.reads
  generated := fun email => by
    have hCovered := h.generated email
    simp only [Stores.restart]
    split
    · exact hCovered
    · exact Int.le_trans (by omega) hCovered
  mailed := fun email => by
    have hCovered := h.mailed email
    simp only [Stores.restart]
    split
    · exact hCovered
    · exact Int.le_trans (by omega) hCovered

end Kept

/-- Nothing is left to be done for an address without a counter. -/
theorem Covered.outstanding_eq_zero {waits : Phase → Bool} {counts : String → Nat}
    {counters : Counters} {requests : List Request} {email : String}
    (h : Covered waits counts counters requests)
    (hAbsent : counters.get (UserStatus.key email) = none) :
    outstanding waits requests email = 0 := by
  have hCovered := h email
  rw [stored, hAbsent, Option.getD_none] at hCovered
  omega

/-- Where a counter is gone after a wait, no request has passed the limit. -/
theorem outstanding_wait {waits : Phase → Bool} {counts : String → Nat} {counters : Counters}
    {requests : List Request} {email : String} {time : Nat}
    (h : Covered waits counts counters requests)
    (hWaits : ∀ phase, waits phase = true → phase.toMail = true)
    (hOutlast : Outlast counters requests time)
    (hGone : (counters.advance time).get (UserStatus.key email) = none) :
    outstanding waits requests email = 0 := by
  cases hBefore : counters.get (UserStatus.key email) with
  | none => exact h.outstanding_eq_zero hBefore
  | some count =>
      refine List.countP_eq_zero.mpr fun request hRequest hWaiting => ?_
      obtain ⟨hEmail, hPhase⟩ := (Bool.and_eq_true _ _).mp hWaiting
      have hSame : request.email = email := of_decide_eq_true hEmail
      have hStays := hOutlast request hRequest (hWaits _ hPhase)
      rw [hSame, hBefore, hGone] at hStays
      exact Bool.false_ne_true (hStays rfl)

/-- After a wait, what is counted from zero again is covered too. -/
theorem Covered.wait {waits : Phase → Bool} {counts : String → Nat} {counters : Counters}
    {requests : List Request} {time : Nat} (h : Covered waits counts counters requests)
    (hWaits : ∀ phase, waits phase = true → phase.toMail = true)
    (hOutlast : Outlast counters requests time) :
    Covered waits (fun email =>
      if ((counters.advance time).get (UserStatus.key email)).isSome then counts email else 0)
      (counters.advance time) requests := by
  intro email
  cases hAfter : (counters.advance time).get (UserStatus.key email) with
  | none =>
      have hNone := outstanding_wait h hWaits hOutlast hAfter
      simp [stored, hAfter, hNone]
  | some count =>
      have hSame := counters.get_advance time (UserStatus.key email) (by rw [hAfter]; rfl)
      have hCovered := h email
      rw [stored, ← hSame, hAfter] at hCovered
      simpa [stored, hAfter] using hCovered

/-- Time lowers a count at most to zero. -/
theorem stored_advance_le {counters : Counters} (time : Nat) (email : String)
    (h : stored counters email ≤ EmailCount.maxCount) :
    stored (counters.advance time) email ≤ EmailCount.maxCount := by
  cases hAfter : (counters.advance time).get (UserStatus.key email) with
  | none =>
      rw [stored, hAfter]
      decide
  | some count =>
      rw [stored, counters.get_advance time (UserStatus.key email) (by rw [hAfter]; rfl)]
      exact h

/-- Each orderly step keeps the count. -/
theorem Kept.step {state : State} (input : Input) (h : Kept state)
    (hOrderly : Orderly state input) : Kept (state.step input) := by
  cases input with
  | start kind email => exact (h.start kind email).restart
  | advance n services =>
      rw [State.step, State.take]
      cases hRequest : state.requests[n]? with
      | none => exact h.restart
      | some request => exact (h.advance hRequest (hOrderly request hRequest) services).restart
  | fail n error => exact (h.fail n error).restart
  | wait time =>
      have hGenerate : ∀ phase : Phase, phase.toGenerate = true → phase.toMail = true := by
        intro phase hWaits
        cases phase with
        | genCode username => rfl
        | _ => exact absurd hWaits Bool.false_ne_true
      exact {
        bounded := fun email => stored_advance_le time email (h.bounded email)
        reads := h.reads
        generated := h.generated.wait hGenerate hOrderly
        mailed := h.mailed.wait (fun _ hWaits => hWaits) hOrderly }

/-- At the start no mail is counted. -/
theorem kept_empty : Kept State.empty where
  bounded := fun _ => by
    rw [show stored State.empty.stores.counters _ = 0 from rfl]
    decide
  reads := nofun
  generated := fun _ => Int.le_refl _
  mailed := fun _ => Int.le_refl _

/-- In a run of any requests, each interrupted by the others anywhere, at most
five codes are generated and at most five are mailed to an address while its
counter is kept, as long as no update overtakes a read and no counter expires
under a request that has passed the limit. -/
theorem mails_limited (inputs : List Input)
    (h : Meets State.step Orderly State.empty inputs) :
    Along State.step Limited State.empty inputs := by
  intro count
  exact (run_invariant (fun _ input hKept hOrderly => hKept.step input hOrderly) _ _ kept_empty
    (meets_take h count)).limited

/-- No account service, one user for every address, and a mailer that takes
every mail. -/
def quietServices : Services where
  userManager := .ok none
  findByEmail := fun _ => .ok (some "alice")
  emailManager := .ok (some fun _ => .ok ())
  random := 0

/-- All steps of one request, up to its answer. -/
def steps (n count : Nat) : List Input := List.replicate count (.advance n quietServices)

/-- A reset and a deletion one after the other, until the counter expires. -/
theorem mails_limited_one_by_one :
    Along State.step Limited State.empty (.start .reset "a@b.cc" :: steps 0 6 ++
      .start .delete "a@b.cc" :: steps 1 6 ++ [.wait 100001]) :=
  mails_limited _ (by decide +kernel)

/-- Six requests read the counter before the first of them updates it. -/
def sixAtOnce : List Input :=
  List.replicate 6 (.start .reset "a@b.cc") ++
    (List.range 6).flatMap (steps · 2) ++ (List.range 6).flatMap (steps · 4)

/-- All six codes are mailed. -/
theorem six_mailed : ¬Along State.step Limited State.empty sixAtOnce := by
  intro hAlong
  have hMailed : (run State.step State.empty (sixAtOnce.take 42)).stores.mailed "a@b.cc" = 6 := by
    decide +kernel
  have hLimited := (hAlong 42 "a@b.cc").2
  rw [hMailed] at hLimited
  exact absurd hLimited (by decide)

end MailLimit
end SnapEmu.User
