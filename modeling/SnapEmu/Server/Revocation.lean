import SnapEmu.Semantics.Run
import SnapEmu.Server.Token

/-! Histories of tokens, and when the deletion of the tokens of a user shuts
out all of them. -/
namespace SnapEmu.Server

open Device Management Semantics User Action TokenService

/-- Besides tables and cache, who was issued which access token, and when the
entry of a token was written. -/
structure TokenHistory where
  world : World
  issued : List (Id × String)
  writes : List (String × Nat)

inductive TokenEvent where
  | createToken (user : UsersModel) (texts : TokenTexts)
  | refreshKey (token : String) (texts : TokenTexts)
  | tokenLogin (token : String)
  | deleteUserToken (userId : Id)
  | pass (time : Nat)

namespace TokenHistory

/-- A token that is returned has been issued, and its entry written. -/
def issue (history : TokenHistory) (owner : Option Id)
    (outcome : Option (World × Except ApiError Token)) : TokenHistory :=
  match outcome with
  | none => history
  | some (after, .error _) => { history with world := after }
  | some (after, .ok token) =>
      { world := after
        issued := (owner.toList.map fun id => (id, token.accessToken)) ++ history.issued
        writes := (token.accessToken, history.world.cache.tokens.now) :: history.writes }

def login (history : TokenHistory) (token : String)
    (outcome : Option (World × Except ApiError RedisToken)) : TokenHistory :=
  match outcome with
  | none => history
  | some (after, .error _) => { history with world := after }
  | some (after, .ok _) =>
      { history with
        world := after
        writes := (token, history.world.cache.tokens.now) :: history.writes }

end TokenHistory

def tokenStep (history : TokenHistory) : TokenEvent → TokenHistory
  | .createToken user texts => history.issue (some user.id) (createToken user texts history.world)
  | .refreshKey token texts =>
      history.issue ((findToken history.world token).map fun found => found.1.userId)
        (refreshKey token texts history.world)
  | .tokenLogin token => history.login token (tokenLogin token history.world)
  | .deleteUserToken userId =>
      { history with world := (deleteUserToken userId).after history.world }
  | .pass time =>
      { history with
        world := history.world.withTokens (history.world.cache.tokens.advance time) }

/-- The tokens of the user no longer log in, and those of others stay. -/
def Revoked (history : TokenHistory) (userId : Id) : Prop :=
  ∀ after, deleteUserToken userId history.world = some (after, .ok ()) →
    (∀ token, (userId, token) ∈ history.issued →
      ∃ error, tokenLogin token after = some (after, .error error)) ∧
      ∀ other, other ≠ userId →
        (∀ token, (other, token) ∈ history.issued →
          after.cache.tokens.get (key token) = history.world.cache.tokens.get (key token)) ∧
          ∀ row ∈ history.world.rows.tokens, row.userId = other → row ∈ after.rows.tokens

section

variable {world : World}

/-- Different tokens have different keys. -/
theorem key_injective : Function.Injective key := by
  intro token other h
  have hChars := congrArg String.toList h
  rw [key, key, String.toList_append, String.toList_append] at hChars
  exact String.toList_inj.mp (List.append_cancel_left hChars)

/-- A token begins with the encoding of a hexadecimal digit. -/
theorem genAccessToken_head (id : Id) (hash : String) :
    ∃ char rest, (genAccessToken id hash).toList = char :: rest ∧ char ≠ 't' := by
  have hDigit : ∀ nibble < 16, Base64.digit ((UInt8.ofNat (Char.ofNat
      (if nibble < 10 then 48 + nibble else 55 + nibble)).toNat).toNat / 4) ≠ '=' ∧
        Base64.digit ((UInt8.ofNat (Char.ofNat
          (if nibble < 10 then 48 + nibble else 55 + nibble)).toNat).toNat / 4) ≠ 't' := by
    decide +kernel
  have hRange : (List.range 16).reverse = 15 :: 14 :: 13 :: (List.range 13).reverse := by decide
  obtain ⟨hPad, hChar⟩ := hDigit (id.value.toNat / 16 ^ 15 % 16) (Nat.mod_lt _ (by decide))
  rw [genAccessToken, String.toList_append, standardEncodeNoPad, String.toList_ofList, showId,
    encodeUpper, Semantics.Text.ascii, String.toList_ofList, hRange]
  simp only [List.map_cons, Base64.encodeChars]
  rw [List.filter_cons_of_pos (by simpa using hPad)]
  exact ⟨_, _, rfl, hChar⟩

/-- The text of a token is not the key of one. -/
theorem genAccessToken_ne_key (id : Id) (hash token : String) :
    genAccessToken id hash ≠ key token := by
  obtain ⟨char, rest, hChars, hChar⟩ := genAccessToken_head id hash
  intro h
  rw [h, key, String.toList_append] at hChars
  exact hChar (List.cons.inj hChars).1.symm

/-- A token row is refused without a change of the cache, or inserted. -/
theorem insertToken_cases (world : World) (userId : Id) (token : String) (tokenType : TokenType)
    (expires : Nat) :
    (∃ error after, insertToken userId token tokenType expires world =
      some (after, .error error) ∧ after.cache = world.cache) ∨
      ∃ after row, insertToken userId token tokenType expires world = some (after, .ok ()) ∧
        after.cache = world.cache ∧ after.rows.tokens = world.rows.tokens ++ [row] ∧
          row.userId = userId ∧ row.token = token ∧ row.tokenType = tokenType := by
  unfold insertToken
  rw [get_bind]
  cases hNumber : numbered world.sequences.token with
  | error error => exact .inl ⟨error, world, bind_error (draw_error hNumber), rfl⟩
  | ok id =>
      rw [bind_ok (draw_ok hNumber)]
      by_cases hTaken : (world.rows.tokens.any fun row => row.id = id) = true
      · exact .inl ⟨_, _, insertRow_error hTaken, rfl⟩
      · exact .inr ⟨_, _, insertRow_ok (Bool.eq_false_iff.mpr hTaken), rfl, rfl, rfl, rfl, rfl⟩

/-- A token is written down twice, or not at all. -/
theorem createToken_cases (world : World) (user : UsersModel) (texts : TokenTexts) :
    (∃ error after, createToken user texts world = some (after, .error error) ∧
      after.rows = world.rows ∧ after.cache = world.cache) ∨
      ∃ after access refresh, createToken user texts world = some (after,
          .ok ⟨genAccessToken user.id texts.hash, accessExpires, texts.refresh⟩) ∧
        after.cache.tokens = world.cache.tokens.set (key (genAccessToken user.id texts.hash))
          ⟨user.id, user.userLogin⟩ (seconds accessExpires) ∧
          after.rows.tokens = world.rows.tokens ++ [access, refresh] ∧
            access.token = genAccessToken access.userId texts.hash ∧
              refresh.tokenType = .Refresh := by
  unfold createToken accessToken refreshToken
  rcases insertToken_cases world user.id (genAccessToken user.id texts.hash) .Access accessExpires
    with ⟨error, reached, hAccess, hCache⟩ |
      ⟨middle, access, hAccess, hCache, hRows, hUser, hText, -⟩
  · exact .inl ⟨error, rollback world reached, bind_error (transaction_error.mpr
      ⟨reached, bind_error (bind_error hAccess), rfl⟩), rfl, hCache⟩
  rcases insertToken_cases middle user.id texts.refresh .Refresh refreshExpires with
    ⟨error, reached, hRefresh, hKept⟩ | ⟨last, refresh, hRefresh, hKept, hLast, -, -, hType⟩
  · refine .inl ⟨error, rollback world reached, bind_error (transaction_error.mpr
      ⟨reached, ?_, rfl⟩), rfl, hKept.trans hCache⟩
    rw [bind_ok (bind_ok hAccess)]
    exact bind_error (bind_error hRefresh)
  · refine .inr ⟨last.withTokens (last.cache.tokens.set (key (genAccessToken user.id texts.hash))
      ⟨user.id, user.userLogin⟩ (seconds accessExpires)), access, refresh, ?_, ?_, ?_, ?_, hType⟩
    · refine (@bind_ok _ _ _ _ _ _ _ last (genAccessToken user.id texts.hash, texts.refresh)
        (transaction_ok.mpr ?_)).trans rfl
      rw [bind_ok (bind_ok hAccess), bind_ok (bind_ok hRefresh)]
      rfl
    · rw [World.withTokens, hKept, hCache]
    · rw [World.withTokens, hLast, hRows, List.append_assoc]
      rfl
    · rw [hText, hUser]

/-- A refused refresh changes nothing. -/
theorem refreshKey_cases (world : World) (token : String) (texts : TokenTexts) :
    (∃ error, refreshKey token texts world = some (world, .error error)) ∨
      ∃ user, refreshKey token texts world = createToken user texts world := by
  unfold refreshKey
  rw [get_bind]
  rcases findToken world token with _ | ⟨refresh, user⟩
  · exact .inl ⟨_, rfl⟩
  dsimp only
  rcases authToken refresh world.now with error | tokenType
  · exact .inl ⟨error, rfl⟩
  cases tokenType with
  | Access => exact .inl ⟨_, rfl⟩
  | Refresh =>
      cases user with
      | none => exact .inl ⟨_, rfl⟩
      | some user => exact .inr ⟨user, rfl⟩

/-- A login fails exactly if its key is gone or expired. -/
theorem tokenLogin_error_iff (world : World) (token : String) :
    (∃ error, tokenLogin token world = some (world, .error error)) ↔
      ¬(world.cache.tokens.get (key token)).isSome := by
  unfold tokenLogin
  rw [get_bind]
  rcases world.cache.tokens.get (key token) with _ | value
  · exact iff_of_true ⟨_, rfl⟩ (by simp)
  · refine iff_of_false ?_ (by simp)
    rintro ⟨error, hRun⟩
    cases (Prod.mk.inj (Option.some.inj hRun)).2

/-- The texts that are deleted are not the keys of any tokens. -/
theorem logged_delTokens {store : ExpiringStore String RedisToken} {lifetime : Nat}
    {writes : List (String × Nat)} (tokens : List String)
    (hTokens : ∀ text ∈ tokens, ∀ token, text ≠ key token)
    (h : store.Logged lifetime (writes.map fun write => (key write.1, write.2))) :
    (tokens.foldl (fun store token => store.delete token) store).Logged lifetime
      (writes.map fun write => (key write.1, write.2)) := by
  induction tokens generalizing store with
  | nil => exact h
  | cons text tokens ih =>
      refine ih (fun other hOther => hTokens other (List.mem_cons_of_mem text hOther)) (h.delete ?_)
      intro time hWrite
      obtain ⟨write, -, hSame⟩ := List.mem_map.mp hWrite
      exact hTokens text List.mem_cons_self write.1 (congrArg Prod.fst hSame).symm

/-- A deletion of other keys leaves the entry of a token. -/
theorem get_delTokens {store : ExpiringStore String RedisToken} (tokens : List String)
    (token : String) (hTokens : ∀ text ∈ tokens, text ≠ key token) :
    (tokens.foldl (fun store token => store.delete token) store).get (key token) =
      store.get (key token) := by
  induction tokens generalizing store with
  | nil => rfl
  | cons text tokens ih =>
      refine (ih fun other hOther => hTokens other (List.mem_cons_of_mem text hOther)).trans ?_
      exact store.get_delete_of_ne (hTokens text List.mem_cons_self).symm

/-- The texts that are looked up in order to delete the tokens of a user. -/
def revokedTexts (world : World) (userId : Id) : List String :=
  (world.rows.tokens.filter fun row => row.userId = userId ∧ row.tokenType = .Access ∧
    world.now.micros - seconds accessExpires < row.expiresTime.micros).map fun row => row.token

/-- The rows of the user go, and the keys that their texts name. -/
theorem deleteUserToken_eq (world : World) (userId : Id) :
    deleteUserToken userId world = some
      ({ world with
          rows := { world.rows with
            tokens := world.rows.tokens.filter fun row => row.userId ≠ userId }
          cache := { world.cache with
            tokens := (revokedTexts world userId).foldl (fun store token => store.delete token)
              world.cache.tokens } }, .ok ()) := rfl

namespace TokenHistory

/-- The entries of the cache are those that were written, and the rows of
access tokens belong to the users whose name the tokens carry. -/
structure Tracked (history : TokenHistory) : Prop where
  logged : history.world.cache.tokens.Logged (seconds accessExpires)
    (history.writes.map fun write => (key write.1, write.2))
  named : ∀ row ∈ history.world.rows.tokens, row.tokenType = .Access →
    ∃ hash, row.token = genAccessToken row.userId hash

variable {history : TokenHistory}

/-- A token that is issued is noted with the time of its entry. -/
theorem tracked_issue (h : Tracked history) (owner : Option Id) (user : UsersModel)
    (texts : TokenTexts) :
    Tracked (history.issue owner (createToken user texts history.world)) := by
  rcases createToken_cases history.world user texts with
    ⟨error, after, hRun, hRows, hCache⟩ |
      ⟨after, access, refresh, hRun, hTokens, hRows, hText, hType⟩
  · rw [hRun]
    constructor
    · change after.cache.tokens.Logged _ _
      rw [hCache]
      exact h.logged
    · change ∀ row ∈ after.rows.tokens, _
      rw [hRows]
      exact h.named
  · rw [hRun]
    constructor
    · change after.cache.tokens.Logged _ ((key (genAccessToken user.id texts.hash), _) :: _)
      rw [hTokens]
      exact h.logged.set _ _
    · change ∀ row ∈ after.rows.tokens, _
      rw [hRows]
      intro row hRow hAccess
      rcases List.mem_append.mp hRow with hOld | hNew
      · exact h.named row hOld hAccess
      · rcases List.mem_pair.mp hNew with rfl | rfl
        · exact ⟨texts.hash, hText⟩
        · exact absurd (hAccess.symm.trans hType) (by decide)

/-- A login renews what has been noted. -/
theorem tracked_login (h : Tracked history) (token : String) :
    Tracked (history.login token (tokenLogin token history.world)) := by
  unfold tokenLogin
  rw [get_bind]
  rcases history.world.cache.tokens.get (key token) with _ | value
  · exact h
  · exact ⟨h.logged.set (key token) value, h.named⟩

/-- The text of a row is no key, so that its deletion misses the entry. -/
theorem Tracked.ne_key (h : Tracked history) {userId : Id} {text : String}
    (hText : text ∈ revokedTexts history.world userId) (token : String) : text ≠ key token := by
  obtain ⟨row, hRow, rfl⟩ := List.mem_map.mp hText
  obtain ⟨hMem, hFound⟩ := List.mem_filter.mp hRow
  obtain ⟨hash, hNamed⟩ := h.named row hMem (of_decide_eq_true hFound).2.1
  rw [hNamed]
  exact genAccessToken_ne_key row.userId hash token

/-- Each event keeps what has been noted true of the cache. -/
theorem tracked_step (h : Tracked history) (event : TokenEvent) :
    Tracked (tokenStep history event) := by
  cases event with
  | createToken user texts => exact tracked_issue h (some user.id) user texts
  | refreshKey token texts =>
      rcases refreshKey_cases history.world token texts with ⟨error, hRun⟩ | ⟨user, hRun⟩
      · rw [tokenStep, hRun]
        exact h
      · rw [tokenStep, hRun]
        exact tracked_issue h _ user texts
  | tokenLogin token => exact tracked_login h token
  | deleteUserToken userId =>
      rw [tokenStep, after_eq (deleteUserToken_eq history.world userId)]
      constructor
      · exact logged_delTokens _ (fun text hText => h.ne_key hText) h.logged
      · intro row hRow
        exact h.named row (List.mem_of_mem_filter hRow)
  | pass time => exact ⟨h.logged.advance time, h.named⟩

/-- An entry that is still alive stays so. -/
theorem Tracked.get_after (h : Tracked history) {userId : Id} {after : World}
    (hRun : deleteUserToken userId history.world = some (after, .ok ())) (token : String) :
    after.cache.tokens.get (key token) = history.world.cache.tokens.get (key token) := by
  rw [deleteUserToken_eq] at hRun
  cases hRun
  exact get_delTokens _ token fun text hText => h.ne_key hText token

/-- A token is valid exactly if it has been written within its lifetime. -/
theorem Tracked.isSome_iff (h : Tracked history) (token : String) :
    (history.world.cache.tokens.get (key token)).isSome ↔
      ∃ time, (token, time) ∈ history.writes ∧
        history.world.cache.tokens.now ≤ time + seconds accessExpires := by
  rw [h.logged.get_isSome]
  constructor
  · rintro ⟨time, hWrite, hAlive⟩
    obtain ⟨⟨text, written⟩, hMem, hSame⟩ := List.mem_map.mp hWrite
    obtain ⟨hKey, rfl⟩ := Prod.mk.inj hSame
    exact ⟨written, key_injective hKey ▸ hMem, hAlive⟩
  · rintro ⟨time, hWrite, hAlive⟩
    exact ⟨time, List.mem_map.mpr ⟨(token, time), hWrite, rfl⟩, hAlive⟩

end TokenHistory

/-- A server that has not issued any tokens. -/
def World.withoutTokens (world : World) : World :=
  { world with
    rows := { world.rows with tokens := [] }
    cache := { world.cache with tokens := .empty } }

theorem tracked_start (world : World) :
    TokenHistory.Tracked ⟨world.withoutTokens, [], []⟩ :=
  ⟨.empty, fun _ hRow => absurd hRow List.not_mem_nil⟩

/-- The tokens of a user are revoked exactly if they have expired before. -/
theorem token_revoked_iff (world : World) (events : List TokenEvent) (userId : Id) :
    let reached := run tokenStep ⟨world.withoutTokens, [], []⟩ events
    Revoked reached userId ↔
      ∀ token, (userId, token) ∈ reached.issued → ∀ time, (token, time) ∈ reached.writes →
        time + seconds accessExpires < reached.world.cache.tokens.now := by
  intro reached
  have hTracked : reached.Tracked := @run_always _ _ tokenStep TokenHistory.Tracked
    (fun _ event h => TokenHistory.tracked_step h event) _ events (tracked_start world)
  have hRun := deleteUserToken_eq reached.world userId
  constructor
  · intro hRevoked token hIssued time hWrite
    obtain ⟨hFails, -⟩ := hRevoked _ hRun
    have hDead := (tokenLogin_error_iff _ token).mp (hFails token hIssued)
    rw [hTracked.get_after hRun, hTracked.isSome_iff] at hDead
    by_contra hAlive
    exact hDead ⟨time, hWrite, Nat.le_of_not_lt hAlive⟩
  · intro hExpired after hAfter
    refine ⟨fun token hIssued => ?_, fun other hOther => ⟨fun token _ => ?_, ?_⟩⟩
    · rw [tokenLogin_error_iff, hTracked.get_after hAfter, hTracked.isSome_iff]
      rintro ⟨time, hWrite, hAlive⟩
      exact absurd (hExpired token hIssued time hWrite) (Nat.not_lt_of_le hAlive)
    · exact hTracked.get_after hAfter token
    · intro row hRow hUser
      cases hRun.symm.trans hAfter
      exact List.mem_filter.mpr ⟨hRow, decide_eq_true (hUser ▸ hOther)⟩

def alice : UsersModel := ⟨⟨1⟩, "alice"⟩

def aliceTexts : TokenTexts := ⟨"0123456789abcdefghij", "refresh"⟩

/-- The only token of a user still logs in after it has been revoked. -/
theorem revoked_token_logs_in :
    ¬Revoked (run tokenStep ⟨World.empty.withoutTokens, [], []⟩ [.createToken alice aliceTexts])
      alice.id := by
  intro hRevoked
  have hTracked := TokenHistory.tracked_step (tracked_start World.empty)
    (.createToken alice aliceTexts)
  have hRun := deleteUserToken_eq (tokenStep ⟨World.empty.withoutTokens, [], []⟩
    (.createToken alice aliceTexts)).world alice.id
  obtain ⟨hFails, -⟩ := hRevoked _ hRun
  have hDead := (tokenLogin_error_iff _ _).mp
    (hFails (genAccessToken alice.id aliceTexts.hash) List.mem_cons_self)
  rw [hTracked.get_after hRun, hTracked.isSome_iff] at hDead
  exact hDead ⟨0, List.mem_cons_self, Nat.zero_le _⟩

end
end SnapEmu.Server
