import SnapEmu.Semantics.Exec
import SnapEmu.User.PasswordEncode

/-! Password hashing. Strings are their UTF-8 bytes, and the digest function is
a parameter. -/
namespace SnapEmu.User

open Semantics Semantics.Exec

/-- `md5::compute`. -/
abbrev Md5 : Type := List UInt8 → Vector UInt8 16

/-- A random salt: eight ASCII characters. -/
structure Salt where
  bytes : List UInt8
  length : bytes.length = 8
  ascii : ∀ byte ∈ bytes, byte < 128

/-- `buffer[start..start + bytes.len()].copy_from_slice(bytes)`. -/
def copyFromSlice (buffer : List UInt8) (start : Nat) (bytes : List UInt8) :
    Exec Empty (List UInt8) :=
  if start + bytes.length ≤ buffer.length then
    ok (buffer.take start ++ bytes ++ buffer.drop (start + bytes.length))
  else panic

/-- One round of the loop of `hash8192`, over the buffer and the hash. -/
def hashRound (md5 : Md5) (password : List UInt8) (buffer : List UInt8) (hash : Vector UInt8 16) :
    Exec Empty (List UInt8 × Vector UInt8 16) := do
  let buffer ← copyFromSlice buffer 0 hash.toList
  let buffer ← copyFromSlice buffer 16 password
  let block ← slice buffer 0 (16 + password.length)
  ok (buffer, md5 block)

def hashRounds (md5 : Md5) (password : List UInt8) :
    Nat → List UInt8 → Vector UInt8 16 → Exec Empty (Vector UInt8 16)
  | 0, _, hash => ok hash
  | count + 1, buffer, hash => do
      let next ← hashRound md5 password buffer hash
      hashRounds md5 password count next.1 next.2

def hash8192 (md5 : Md5) (password salt : List UInt8) : Exec Empty (Vector UInt8 16) :=
  hashRounds md5 password (1 <<< 13) (List.replicate 100 0) (md5 (salt ++ password))

/-- `_gen_password`, with the salt that `gen_password` draws. -/
def genPassword (md5 : Md5) (password salt : List UInt8) : Exec Empty (List UInt8) := do
  let hash ← hash8192 md5 password salt
  let password ← passwordEncode 17 hash.toList
  ok (Text.ascii "$P$B" ++ salt ++ password)

def checkPassword (md5 : Md5) (password storedPassword : List UInt8) : Exec Empty Bool :=
  if storedPassword.length < 12 then ok false
  else do
    let salt ← strSlice storedPassword 4 12
    let gen ← genPassword md5 password salt
    ok (gen == storedPassword)

/-- The digest of a password under a salt, iterated without a buffer. -/
def iteratedDigest (md5 : Md5) (password salt : List UInt8) (count : Nat) : Vector UInt8 16 :=
  (fun hash => md5 (hash.toList ++ password))^[count] (md5 (salt ++ password))

section Rounds

variable {md5 : Md5} {password buffer : List UInt8}

theorem copyFromSlice_eq {start : Nat} {bytes : List UInt8}
    (h : start + bytes.length ≤ buffer.length) :
    copyFromSlice buffer start bytes =
      ok (buffer.take start ++ bytes ++ buffer.drop (start + bytes.length)) :=
  if_pos h

theorem copy_hash (hBuffer : buffer.length = 100) (hash : Vector UInt8 16) :
    copyFromSlice buffer 0 hash.toList = ok (hash.toList ++ buffer.drop 16) := by
  have hHash : hash.toList.length = 16 := hash.length_toList
  rw [copyFromSlice_eq (by omega), hHash]
  rfl

/-- A round on a password that fits digests the hash and the password. -/
theorem hashRound_eq (md5 : Md5) (hPassword : password.length ≤ 84)
    (hBuffer : buffer.length = 100) (hash : Vector UInt8 16) :
    ∃ next, next.length = 100 ∧
      hashRound md5 password buffer hash = ok (next, md5 (hash.toList ++ password)) := by
  have hHash : hash.toList.length = 16 := hash.length_toList
  let next := hash.toList ++ password ++ buffer.drop (16 + password.length)
  have hNext : next.length = 100 := by
    simp only [next, List.length_append, hHash, List.length_drop, hBuffer]
    omega
  have hCopied : copyFromSlice (hash.toList ++ buffer.drop 16) 16 password = ok next := by
    rw [copyFromSlice_eq (by rw [List.length_append, List.length_drop]; omega),
      List.take_left' hHash, ← List.drop_drop, List.drop_left' hHash, List.drop_drop]
  have hBlock : slice next 0 (16 + password.length) =
      (ok (hash.toList ++ password) : Exec Empty (List UInt8)) := by
    refine slice_eq_ok.mpr ⟨Nat.zero_le _, by omega, ?_⟩
    exact List.take_left' (by rw [List.length_append, hHash, Nat.sub_zero])
  refine ⟨next, hNext, ?_⟩
  rw [hashRound, copy_hash hBuffer, ok_bind, hCopied, ok_bind, hBlock, ok_bind]

/-- A password that does not fit aborts the first round. -/
theorem hashRound_long (hPassword : 84 < password.length) (hBuffer : buffer.length = 100)
    (hash : Vector UInt8 16) : hashRound md5 password buffer hash = panic := by
  have hHash : hash.toList.length = 16 := hash.length_toList
  have hLong : ¬16 + password.length ≤ (hash.toList ++ buffer.drop 16).length := by
    rw [List.length_append, List.length_drop]
    omega
  rw [hashRound, copy_hash hBuffer, ok_bind, copyFromSlice, if_neg hLong, panic_bind]

/-- The rounds iterate the digest over the hash and the password. -/
theorem hashRounds_eq (hPassword : password.length ≤ 84) (count : Nat)
    (hBuffer : buffer.length = 100) (hash : Vector UInt8 16) :
    hashRounds md5 password count buffer hash =
      ok ((fun hash => md5 (hash.toList ++ password))^[count] hash) := by
  induction count generalizing buffer hash with
  | zero => rfl
  | succ count ih =>
      obtain ⟨next, hNext, hRound⟩ := hashRound_eq md5 hPassword hBuffer hash
      rw [hashRounds, hRound, ok_bind, ih hNext, Function.iterate_succ_apply]

/-- Up to 84 bytes the loop is the iterated digest. -/
theorem hash8192_eq (md5 : Md5) (hPassword : password.length ≤ 84) (salt : List UInt8) :
    hash8192 md5 password salt = ok (iteratedDigest md5 password salt (1 <<< 13)) :=
  hashRounds_eq hPassword _ List.length_replicate _

/-- From 85 bytes on the copy into the buffer panics. -/
theorem hash8192_long (md5 : Md5) (hPassword : 84 < password.length) (salt : List UInt8) :
    hash8192 md5 password salt = panic := by
  rw [hash8192, show (1 <<< 13 : Nat) = 8191 + 1 from rfl, hashRounds,
    hashRound_long hPassword List.length_replicate, panic_bind]

end Rounds

section Stored

variable {md5 : Md5} {salt : Salt} {password other : List UInt8}

/-- The stored form of a digest. -/
def storedForm (salt : List UInt8) (hash : Vector UInt8 16) : List UInt8 :=
  Text.ascii "$P$B" ++ salt ++ (SixBit.encode hash.toList).map passwordChar

/-- A password that fits is stored as salt and digest. -/
theorem genPassword_eq (md5 : Md5) (hPassword : password.length ≤ 84) (salt : List UInt8) :
    genPassword md5 password salt =
      ok (storedForm salt (iteratedDigest md5 password salt (1 <<< 13))) := by
  have hFuel : ∀ hash : Vector UInt8 16, hash.toList.length < 17 := fun hash => by
    rw [hash.length_toList]
    decide
  rw [genPassword, hash8192_eq md5 hPassword, ok_bind, passwordEncode_eq (hFuel _), ok_bind,
    storedForm]

/-- A longer one panics. -/
theorem genPassword_long (md5 : Md5) (hPassword : 84 < password.length) (salt : List UInt8) :
    genPassword md5 password salt = panic := by
  rw [genPassword, hash8192_long md5 hPassword, panic_bind]

/-- Stored forms under one salt are those of one digest. -/
theorem storedForm_inj (salt : List UInt8) {first second : Vector UInt8 16} :
    storedForm salt first = storedForm salt second ↔ first = second := by
  constructor
  · intro h
    have hChars := List.append_cancel_left h
    have hBytes := congrArg passwordDecode hChars
    rw [passwordDecode_encode, passwordDecode_encode, Option.some.injEq] at hBytes
    exact Vector.toList_inj.mp hBytes
  · rintro rfl
    rfl

/-- The salt is read back from its place in the stored form. -/
theorem salt_of_storedForm (salt : Salt) (hash : Vector UInt8 16) :
    12 ≤ (storedForm salt.bytes hash).length ∧
      (strSlice (storedForm salt.bytes hash) 4 12 : Exec Empty (List UInt8)) = ok salt.bytes := by
  have hStart : (Text.ascii "$P$B").length = 4 := by decide
  have hAscii : ∀ byte ∈ storedForm salt.bytes hash, byte < 128 := by
    have hStartAscii : ∀ byte ∈ Text.ascii "$P$B", byte < 128 := by decide +kernel
    have hTable : ∀ byte ∈ passwordTable, byte < 128 := by decide +kernel
    intro byte hByte
    rcases List.mem_append.mp hByte with hFront | hChar
    · rcases List.mem_append.mp hFront with hFour | hSalt
      · exact hStartAscii byte hFour
      · exact salt.ascii byte hSalt
    · obtain ⟨digit, hDigit, rfl⟩ := List.mem_map.mp hChar
      exact hTable _ (passwordChar_mem (SixBit.lt_of_mem_encode hDigit))
  have hLength : 12 ≤ (storedForm salt.bytes hash).length := by
    rw [storedForm, List.length_append, List.length_append, hStart, salt.length]
    omega
  refine ⟨hLength, ?_⟩
  rw [strSlice_ascii hAscii (by decide) hLength, storedForm, List.append_assoc,
    List.drop_left' hStart, List.take_left' salt.length]

/-- A check against the stored form of a digest compares the digests. -/
theorem checkPassword_eq (md5 : Md5) (salt : Salt) (hPassword : password.length ≤ 84)
    (hash : Vector UInt8 16) :
    checkPassword md5 password (storedForm salt.bytes hash) =
      ok (decide (iteratedDigest md5 password salt.bytes (1 <<< 13) = hash)) := by
  obtain ⟨hLength, hSalt⟩ := salt_of_storedForm salt hash
  rw [checkPassword, if_neg (Nat.not_lt.mpr hLength), hSalt, ok_bind,
    genPassword_eq md5 hPassword, ok_bind]
  generalize iteratedDigest md5 password salt.bytes (1 <<< 13) = own
  have hAnswer :
      (storedForm salt.bytes own == storedForm salt.bytes hash) = decide (own = hash) := by
    rw [Bool.eq_iff_iff, beq_iff_eq, decide_eq_true_iff, storedForm_inj]
  rw [hAnswer]

/-- Checking a longer one panics as well. -/
theorem checkPassword_long (md5 : Md5) (salt : Salt) (hPassword : 84 < password.length)
    (hash : Vector UInt8 16) :
    checkPassword md5 password (storedForm salt.bytes hash) = panic := by
  obtain ⟨hLength, hSalt⟩ := salt_of_storedForm salt hash
  rw [checkPassword, if_neg (Nat.not_lt.mpr hLength), hSalt, ok_bind,
    genPassword_long md5 hPassword, panic_bind]

/-- A password that is found to be right was short enough to be hashed. -/
theorem length_of_checkPassword {stored : List UInt8}
    (h : checkPassword md5 password stored = ok true) : password.length ≤ 84 := by
  by_contra hLong
  rw [checkPassword] at h
  split_ifs at h with hShort
  · cases h
  · obtain ⟨salt, -, hGen⟩ := bind_eq_ok.mp h
    rw [genPassword_long md5 (Nat.lt_of_not_le hLong), panic_bind] at hGen
    cases hGen

/-- A password is hashed and checks against its hash, and another one is
checked by its digest. -/
def Hashes (md5 : Md5) (salt : Salt) (password other : List UInt8) : Prop :=
  ∃ stored, genPassword md5 password salt.bytes = ok stored ∧
    checkPassword md5 password stored = ok true ∧
    ∃ answer, checkPassword md5 other stored = ok answer ∧
      (answer = true → iteratedDigest md5 other salt.bytes (1 <<< 13) =
        iteratedDigest md5 password salt.bytes (1 <<< 13))

/-- Passwords of at most 84 bytes are hashed and checked, and no others. -/
theorem hashes_iff (md5 : Md5) (salt : Salt) (password other : List UInt8) :
    Hashes md5 salt password other ↔ password.length ≤ 84 ∧ other.length ≤ 84 := by
  constructor
  · rintro ⟨stored, hStored, -, answer, hAnswer, -⟩
    have hPassword : password.length ≤ 84 := by
      by_contra hLong
      rw [genPassword_long md5 (Nat.lt_of_not_le hLong)] at hStored
      cases hStored
    rw [genPassword_eq md5 hPassword, ok.injEq] at hStored
    refine ⟨hPassword, ?_⟩
    by_contra hLong
    rw [← hStored, checkPassword_long md5 salt (Nat.lt_of_not_le hLong)] at hAnswer
    cases hAnswer
  · rintro ⟨hPassword, hOther⟩
    refine ⟨_, genPassword_eq md5 hPassword salt.bytes, ?_, _,
      checkPassword_eq md5 salt hOther _, of_decide_eq_true⟩
    rw [checkPassword_eq md5 salt hPassword, decide_eq_true rfl]

/-- A password of 85 letters aborts. -/
theorem long_password_aborts :
    ¬∀ (md5 : Md5) (salt : Salt) (password other : List UInt8), Hashes md5 salt password other := by
  intro h
  let salt : Salt := ⟨Text.ascii "1f90657d", by decide, by decide +kernel⟩
  obtain ⟨stored, hStored, -⟩ :=
    h (fun _ => Vector.replicate 16 0) salt (List.replicate 85 97) (List.replicate 85 97)
  rw [genPassword_long _ (by rw [List.length_replicate]; decide)] at hStored
  cases hStored

end Stored

end SnapEmu.User
