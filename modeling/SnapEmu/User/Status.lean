import Mathlib.Data.List.Basic
import SnapEmu.Semantics.ExpiringStore
import SnapEmu.Semantics.ByteOrder

/-! Verification codes. A code is announced by an entry of the cache that
expires after 100 seconds. -/
namespace SnapEmu.User

open Semantics

/-- Texts of answers: translated by key and arguments, or given directly. -/
inductive AppString where
  | translated (key : String) (args : List (String × String))
  | plain (text : String)
  deriving DecidableEq

inductive ApiError where
  | access (msg : AppString)
  | auth (msg : AppString)
  | user (msg : AppString)
  | device (deviceId : Nat) (msg : AppString)
  | server (case : String) (msg : AppString)
  deriving DecidableEq

/-- The cache, with times in milliseconds. -/
abbrev Redis := ExpiringStore String String

namespace UserStatus

/-- The key of a code entry. The code itself does not enter. -/
def code (email _code : String) : String := "code:" ++ email

/-- `EX 100`. -/
def codeLifetime : Nat := 100 * 1000

def validCode (redis : Redis) (email code : String) : Except ApiError Unit :=
  match redis.get (UserStatus.code email code) with
  | none => .error (.user (.translated "messages.user.signup.not_valid_code" []))
  | some _ => .ok ()

/-- A nibble lowered into the decimal range. -/
def decimalNibble (r : UInt8) : UInt8 := if 9 < r then r - 9 else r

def decimalNibbles (c : UInt8) : UInt8 :=
  (decimalNibble ((c &&& 0xF0) >>> 4) <<< 4) + decimalNibble (c &&& 0x0F)

/-- Lower-case hexadecimal text of a byte string. -/
def hexEncode (bytes : List UInt8) : String :=
  String.ofList (bytes.flatMap fun byte =>
    [Nat.digitChar (byte.toNat / 16), Nat.digitChar (byte.toNat % 16)])

/-- The code text made from one random word. -/
def codeText (random : UInt32) : String :=
  hexEncode ((LittleEndian.encode 4 random.toNat).reverse.map decimalNibbles)

/-- Draw a code, announce it in the cache and return it. -/
def genCode (redis : Redis) (email : String) (random : UInt32) : Redis × String :=
  let code := codeText random
  (redis.set (UserStatus.code email code) "" codeLifetime, code)

/-- The key of a code names its address and the code. -/
theorem code_inj {email email' code code' : String} :
    UserStatus.code email code = UserStatus.code email' code' ↔ email = email' := by
  simp [UserStatus.code]

end UserStatus
end SnapEmu.User
