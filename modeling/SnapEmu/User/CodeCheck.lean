import SnapEmu.Semantics.Run
import SnapEmu.User.Signup

/-! Runs of code requests by arbitrary users on one cache, and what the code
check of such a run establishes. -/
namespace SnapEmu.User

open Semantics

inductive Call where
  | genCode (email : String) (random : UInt32)
  | validCode (email code : String)
  | resetPassword (user : UserResetPassword)
  | deleteUser (user : UserDelete)

/-- A code returned by `gen_code`, with the time of the call. -/
structure Issue where
  email : String
  code : String
  time : Nat

structure System (World : Type) where
  redis : Redis
  world : World
  issued : List Issue

variable {World : Type}

namespace System

def init (world : World) : System World := ⟨ExpiringStore.empty, world, []⟩

def wait (system : System World) (time : Nat) : System World :=
  { system with redis := system.redis.advance time }

def call (state : AppState World) (system : System World) : Call → System World
  | .genCode email random =>
      let (redis, code) := UserStatus.genCode system.redis email random
      { system with
        redis := redis
        issued := ⟨email, code, system.redis.now⟩ :: system.issued }
  | .validCode _ _ => system
  | .resetPassword user =>
      { system with world := (UserService.resetPassword state system.redis user system.world).2 }
  | .deleteUser user =>
      { system with world := (UserService.deleteUser state system.redis user system.world).2 }

/-- Each call of a run comes some time after the one before. -/
def step (state : AppState World) (system : System World) (entry : Nat × Call) : System World :=
  (system.wait entry.1).call state entry.2

/-- The code was issued for the email and has not expired. -/
def Live (system : System World) (email code : String) : Prop :=
  ∃ issue ∈ system.issued, issue.email = email ∧ issue.code = code ∧
    system.redis.now ≤ issue.time + UserStatus.codeLifetime

/-- The cache holds exactly the announcements of the issued codes. -/
def Announced (system : System World) : Prop :=
  system.redis.Logged UserStatus.codeLifetime
    (system.issued.map fun issue => (UserStatus.code issue.email issue.code, issue.time))

theorem announced_init (world : World) : (init world).Announced := ExpiringStore.Logged.empty

/-- Waiting announces nothing. -/
theorem Announced.wait {system : System World} (h : system.Announced) (time : Nat) :
    (system.wait time).Announced :=
  h.advance time

/-- Each call announces what it stores. -/
theorem Announced.call {system : System World} (h : system.Announced) (state : AppState World)
    (call : Call) : (system.call state call).Announced := by
  cases call with
  | genCode email random => exact h.set (UserStatus.code email _) ""
  | validCode email code => exact h
  | resetPassword user => exact h
  | deleteUser user => exact h

/-- Over any calls the store holds only what was announced. -/
theorem announced_run (state : AppState World) (calls : List (Nat × Call)) (world : World) :
    (run (step state) (init world) calls).Announced :=
  run_always (fun _ entry h => (h.wait entry.1).call state entry.2) _ calls (announced_init world)

/-- The check passes whenever any code is live for the email. -/
theorem Announced.validCode_ok {system : System World} (h : system.Announced)
    (email code : String) :
    UserStatus.validCode system.redis email code = .ok () ↔ ∃ other, system.Live email other := by
  have hKey := h.get_isSome (UserStatus.code email code)
  simp only [List.mem_map, Prod.mk.injEq, UserStatus.code_inj] at hKey
  have hCheck : UserStatus.validCode system.redis email code = .ok () ↔
      (system.redis.get (UserStatus.code email code)).isSome := by
    unfold UserStatus.validCode
    cases system.redis.get (UserStatus.code email code) <;> simp
  rw [hCheck, hKey]
  constructor
  · rintro ⟨time, ⟨issue, hIssue, hEmail, rfl⟩, hAlive⟩
    exact ⟨issue.code, issue, hIssue, hEmail, rfl, hAlive⟩
  · rintro ⟨other, issue, hIssue, hEmail, _, hAlive⟩
    exact ⟨issue.time, ⟨issue, hIssue, hEmail, rfl⟩, hAlive⟩

end System

/-- A check lets a request pass exactly when the code is valid. -/
theorem UserService.whenValid_passed {redis : Redis} {email code : String}
    {body : ApiM World String} {world : World} :
    (UserService.whenValid redis email code body world).1.passed ↔
      UserStatus.validCode redis email code = .ok () := by
  unfold UserService.whenValid
  cases UserStatus.validCode redis email code <;> simp

/-- The presented code is live for the email, or no code is. -/
def System.CodeUnambiguous (system : System World) (email code : String) : Prop :=
  system.Live email code ∨ ∀ other, ¬ system.Live email other

/-- In every run, a call of the check answers by the presented code exactly
when that code is live for the email or no code is; the same condition
decides whether the guarded requests are confined to live codes. -/
theorem codeCheck_authentic (state : AppState World) (calls : List (Nat × Call)) (world : World)
    (time : Nat) :
    let system := (run (System.step state) (System.init world) calls).wait time
    (∀ email code, (UserStatus.validCode system.redis email code = .ok () ↔
        system.Live email code) ↔ system.CodeUnambiguous email code) ∧
    (∀ user, ((UserService.resetPassword state system.redis user system.world).1.passed →
        system.Live user.email user.code) ↔ system.CodeUnambiguous user.email user.code) ∧
    ∀ user, ((UserService.deleteUser state system.redis user system.world).1.passed →
        system.Live user.email user.code) ↔ system.CodeUnambiguous user.email user.code := by
  intro system
  have hAnnounced : system.Announced :=
    (System.announced_run state calls world).wait time
  have hAny : ∀ email code, ((∃ other, system.Live email other) → system.Live email code) ↔
      system.CodeUnambiguous email code := by
    intro email code
    unfold System.CodeUnambiguous
    rw [← not_exists, or_comm, imp_iff_not_or]
  refine ⟨?_, ?_, ?_⟩
  · intro email code
    rw [hAnnounced.validCode_ok, ← hAny]
    exact ⟨Iff.mp, fun h => ⟨h, fun hLive => ⟨code, hLive⟩⟩⟩
  · intro user
    rw [UserService.resetPassword, UserService.whenValid_passed, hAnnounced.validCode_ok, hAny]
  · intro user
    rw [UserService.deleteUser, UserService.whenValid_passed, hAnnounced.validCode_ok, hAny]

/-- A code was just issued for an address; the empty code passes the check. -/
theorem codeCheck_ignores_code :
    ¬ ∀ (state : AppState Unit) (calls : List (Nat × Call)) (time : Nat) (email code : String),
      let system := (run (System.step state) (System.init ()) calls).wait time
      UserStatus.validCode system.redis email code = .ok () ↔ system.Live email code := by
  intro h
  have hPassed := h ⟨.ok none, fun _ => pure none, fun _ => pure none, pure, fun _ => pure (),
    fun _ => pure ()⟩ [(0, .genCode "user@example.org" 0)] 0 "user@example.org" ""
  obtain ⟨issue, hIssue, _, hCode, _⟩ := hPassed.mp (by
    simp [run, System.step, System.call, System.wait, System.init, UserStatus.genCode,
      UserStatus.validCode, ExpiringStore.get, ExpiringStore.set, ExpiringStore.advance,
      ExpiringStore.empty, UserStatus.code])
  have hOnly : issue = ⟨"user@example.org", UserStatus.codeText 0, 0⟩ := by
    simpa [run, System.step, System.call, System.wait, System.init, UserStatus.genCode,
      ExpiringStore.advance, ExpiringStore.empty] using hIssue
  have hText : UserStatus.codeText 0 ≠ "" := by decide
  exact hText (by rw [← hCode, hOnly])

end SnapEmu.User
