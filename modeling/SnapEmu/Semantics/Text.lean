import Mathlib.Data.List.Basic
import Mathlib.Tactic.IntervalCases

/-! Texts as the bytes of their UTF-8 form: constants, hexadecimal digits, and
splitting at a separator. -/
namespace Semantics.Text

/-- The bytes of a text of ASCII characters. -/
def ascii (text : String) : List UInt8 := text.toList.map fun char => UInt8.ofNat char.toNat

def upperDigit (value : Nat) : UInt8 := UInt8.ofNat (if value < 10 then 48 + value else 55 + value)

/-- The value of a hexadecimal digit, of either case. -/
def digitValue (char : UInt8) : Option Nat :=
  if 48 ≤ char ∧ char ≤ 57 then some (char.toNat - 48)
  else if 65 ≤ char ∧ char ≤ 70 then some (char.toNat - 55)
  else if 97 ≤ char ∧ char ≤ 102 then some (char.toNat - 87)
  else none

/-- Two upper-case digits for each byte. -/
def hexEncode (bytes : List UInt8) : List UInt8 :=
  bytes.flatMap fun byte => [upperDigit (byte.toNat / 16), upperDigit (byte.toNat % 16)]

def hexDecode : List UInt8 → Option (List UInt8)
  | [] => some []
  | [_] => none
  | high :: low :: rest => do
      let high ← digitValue high
      let low ← digitValue low
      let rest ← hexDecode rest
      some (UInt8.ofNat (16 * high + low) :: rest)

theorem digitValue_upperDigit {value : Nat} (h : value < 16) :
    digitValue (upperDigit value) = some value := by
  interval_cases value <;> rfl

@[simp] theorem hexEncode_length (bytes : List UInt8) :
    (hexEncode bytes).length = 2 * bytes.length := by
  induction bytes with
  | nil => rfl
  | cons byte rest ih =>
      rw [hexEncode, List.flatMap_cons, List.length_append, ← hexEncode, ih, List.length_cons]
      simp only [List.length_cons, List.length_nil]
      omega

/-- Hexadecimal decoding undoes encoding. -/
theorem hexDecode_hexEncode (bytes : List UInt8) : hexDecode (hexEncode bytes) = some bytes := by
  induction bytes with
  | nil => rfl
  | cons byte rest ih =>
      have hByte := byte.toNat_lt
      have hSplit : 16 * (byte.toNat / 16) + byte.toNat % 16 = byte.toNat := by omega
      rw [hexEncode, List.flatMap_cons, ← hexEncode]
      change hexDecode (upperDigit _ :: upperDigit _ :: hexEncode rest) = _
      rw [hexDecode, digitValue_upperDigit (by omega), digitValue_upperDigit (by omega), ih]
      simp only [Option.bind_eq_bind, Option.bind_some, hSplit, UInt8.ofNat_toNat]

/-- A hexadecimal text consists of the sixteen digits. -/
theorem mem_hexEncode {bytes : List UInt8} {char : UInt8} (h : char ∈ hexEncode bytes) :
    ∃ value < 16, char = upperDigit value := by
  obtain ⟨byte, _, hMem⟩ := List.mem_flatMap.mp h
  have hByte := byte.toNat_lt
  simp only [List.mem_cons, List.not_mem_nil, or_false] at hMem
  rcases hMem with hHigh | hLow
  · exact ⟨_, by omega, hHigh⟩
  · exact ⟨_, by omega, hLow⟩

/-- Hexadecimal digits contain no slash. -/
theorem slash_notMem_hexEncode (bytes : List UInt8) : 47 ∉ hexEncode bytes := by
  have hDigit : ∀ value < 16, upperDigit value ≠ 47 := by decide
  intro h
  obtain ⟨value, hRange, hSlash⟩ := mem_hexEncode h
  exact hDigit value hRange hSlash.symm

theorem hexEncode_lt {bytes : List UInt8} {char : UInt8} (h : char ∈ hexEncode bytes) :
    char < 128 := by
  have hDigit : ∀ value < 16, upperDigit value < 128 := by decide
  obtain ⟨value, hRange, rfl⟩ := mem_hexEncode h
  exact hDigit value hRange

/-- The decimal digits of a number. -/
def decimal (value : Nat) : List UInt8 :=
  (Nat.toDigits 10 value).map fun char => UInt8.ofNat char.toNat

theorem digit_toNat {value : Nat} {char : Char} (h : char ∈ Nat.toDigits 10 value) :
    48 ≤ char.toNat ∧ char.toNat ≤ 57 := by
  have hDigit := Nat.isDigit_of_mem_toDigits (by decide) (by decide) h
  rw [Char.isDigit, Bool.and_eq_true, decide_eq_true_eq, decide_eq_true_eq] at hDigit
  exact hDigit

/-- Two numbers with the same decimal text are equal. -/
theorem decimal_injective {value value' : Nat} (h : decimal value = decimal value') :
    value = value' := by
  have hBack : ∀ value, (decimal value).map (fun byte => Char.ofNat byte.toNat) =
      Nat.toDigits 10 value := by
    intro value
    have hChar : ∀ char ∈ Nat.toDigits 10 value,
        Char.ofNat (UInt8.ofNat char.toNat).toNat = char := by
      intro char hMem
      have hBounds := digit_toNat hMem
      rw [UInt8.toNat_ofNat_of_lt' (show char.toNat < 256 by omega), Char.ofNat_toNat]
    rw [decimal, List.map_map]
    exact (List.map_congr_left hChar).trans (List.map_id _)
  rw [← Nat.ofDigitChars_ten_toDigits (n := value), ← hBack, h, hBack,
    Nat.ofDigitChars_ten_toDigits]

/-- Decimal digits contain no dot. -/
theorem dot_notMem_decimal (value : Nat) : 46 ∉ decimal value := by
  intro h
  obtain ⟨char, hMem, hDot⟩ := List.mem_map.mp h
  have hBounds := digit_toNat hMem
  have hNat := congrArg UInt8.toNat hDot
  rw [UInt8.toNat_ofNat_of_lt' (show char.toNat < 256 by omega)] at hNat
  change char.toNat = 46 at hNat
  omega

/-- The bytes of a string. -/
def utf8 (text : String) : List UInt8 := text.toByteArray.data.toList

/-- A string starts at the first byte of a character. -/
theorem utf8_head {text : String} (h : text ≠ "") :
    ∃ byte rest, utf8 text = byte :: rest ∧ (byte < 128 ∨ 192 ≤ byte) := by
  have hFirst : ∀ value < 256, (UInt8.ofNat value).IsUTF8FirstByte →
      UInt8.ofNat value < 128 ∨ 192 ≤ UInt8.ofNat value := by decide +kernel
  have hSize : 0 < text.toByteArray.size := by
    rw [Nat.pos_iff_ne_zero]
    intro hZero
    exact h (String.toByteArray_inj.mp (ByteArray.ext (Array.size_eq_zero_iff.mp hZero)))
  have hValid := text.isValidUTF8.isUTF8FirstByte_getElem_zero hSize
  obtain ⟨byte, rest, hBytes⟩ : ∃ byte rest, utf8 text = byte :: rest :=
    List.exists_cons_of_length_pos hSize
  have hByte : text.toByteArray[0] = byte := by
    change (utf8 text)[0] = byte
    simp only [hBytes, List.getElem_cons_zero]
  rw [hByte, ← UInt8.ofNat_toNat (x := byte)] at hValid
  have hRange := hFirst byte.toNat byte.toNat_lt hValid
  rw [UInt8.ofNat_toNat] at hRange
  exact ⟨byte, rest, hBytes, hRange⟩

/-- The bytes are those of a string. -/
def isUtf8 (bytes : List UInt8) : Bool := ByteArray.validateUTF8 bytes.toByteArray

/-- An ASCII text is valid UTF-8. -/
theorem isUtf8_ascii {bytes : List UInt8} (h : ∀ byte ∈ bytes, byte < 128) :
    isUtf8 bytes = true := by
  have hCode : ∀ byte < 128, String.utf8EncodeChar (Char.ofNat byte) = [UInt8.ofNat byte] := by
    decide +kernel
  have hChars : (bytes.map fun byte => Char.ofNat byte.toNat).flatMap String.utf8EncodeChar =
      bytes := by
    induction bytes with
    | nil => rfl
    | cons byte bytes ih =>
        have hByte := UInt8.lt_iff_toNat_lt.mp (h byte List.mem_cons_self)
        rw [List.map_cons, List.flatMap_cons, hCode byte.toNat hByte, UInt8.ofNat_toNat,
          ih fun other hMem => h other (List.mem_cons_of_mem _ hMem)]
        rfl
  rw [isUtf8, ByteArray.validateUTF8_eq_true_iff]
  exact ⟨_, congrArg List.toByteArray hChars.symm⟩

variable {α : Type} [DecidableEq α] {separator : α}

/-- At most `count` pieces, the last of which is what remains. -/
def splitN (separator : α) : Nat → List α → List (List α)
  | 0, _ => []
  | 1, text => [text]
  | count + 2, text =>
      if separator ∈ text then
        text.takeWhile (· ≠ separator) ::
          splitN separator (count + 1) (text.dropWhile (· ≠ separator)).tail
      else [text]

/-- Splitting cuts at the first separator. -/
theorem splitN_append {first rest : List α} {count : Nat} (h : separator ∉ first) :
    splitN separator (count + 2) (first ++ separator :: rest) =
      first :: splitN separator (count + 1) rest := by
  have hNe : ∀ item ∈ first, decide (item ≠ separator) = true := by
    intro item hMem
    exact decide_eq_true fun hEq => h (hEq ▸ hMem)
  rw [splitN, if_pos (by simp), List.takeWhile_append_of_pos hNe, List.dropWhile_append_of_pos hNe]
  simp

/-- A text without the separator is not split. -/
theorem splitN_notMem {text : List α} {count : Nat} (h : separator ∉ text) :
    splitN separator (count + 1) text = [text] := by
  cases count with
  | zero => rfl
  | succ count => rw [splitN, if_neg h]

/-- What stands before the first separator, and after it, is determined. -/
theorem append_cons_inj {first first' rest rest' : List α} (h : separator ∉ first)
    (h' : separator ∉ first') (hEq : first ++ separator :: rest = first' ++ separator :: rest') :
    first = first' ∧ rest = rest' := by
  have hSplit : splitN separator 2 (first ++ separator :: rest) =
      splitN separator 2 (first' ++ separator :: rest') := by rw [hEq]
  rw [splitN_append h, splitN_append h', List.cons.injEq, splitN, splitN, List.cons.injEq] at hSplit
  exact ⟨hSplit.1, hSplit.2.1⟩

/-- Before the first separator nothing is split. -/
theorem splitOn_append {first : List α} (h : separator ∉ first) (text : List α) :
    ∃ piece rest, text.splitOn separator = piece :: rest ∧
      (first ++ text).splitOn separator = (first ++ piece) :: rest := by
  induction first with
  | nil =>
      obtain ⟨piece, rest, hSplit⟩ :=
        List.exists_cons_of_ne_nil (List.splitOn_ne_nil separator text)
      exact ⟨piece, rest, hSplit, hSplit⟩
  | cons item first ih =>
      rw [List.mem_cons, not_or] at h
      obtain ⟨piece, rest, hText, hFirst⟩ := ih h.2
      have hItem : ¬(item == separator) = true := by simpa using Ne.symm h.1
      refine ⟨piece, rest, hText, ?_⟩
      rw [List.cons_append, List.splitOn_cons_eq_if_modifyHead, if_neg hItem, hFirst]
      rfl

/-- What stands before the first occurrence of a separator, and after it. -/
def splitOnce (separator : List α) : List α → Option (List α × List α)
  | [] => if separator = [] then some ([], []) else none
  | item :: text =>
      if separator <+: item :: text then some ([], (item :: text).drop separator.length)
      else (splitOnce separator text).map fun parts => (item :: parts.1, parts.2)

/-- The parts of a text that is split once, put together again. -/
theorem splitOnce_eq_some {separator text : List α} {first rest : List α}
    (h : splitOnce separator text = some (first, rest)) : text = first ++ separator ++ rest := by
  induction text generalizing first with
  | nil =>
      rw [splitOnce] at h
      split_ifs at h with hEmpty
      cases h
      rw [hEmpty]
      rfl
  | cons item text ih =>
      rw [splitOnce] at h
      split_ifs at h with hStart
      · cases h
        exact (List.prefix_iff_eq_append.mp hStart).symm
      · obtain ⟨parts, hParts, hSame⟩ := Option.map_eq_some_iff.mp h
        cases hSame
        rw [ih hParts]
        rfl

/-- Where the separator does not begin before, a text is split at it. -/
theorem splitOnce_append {head : α} {tail first : List α} (h : head ∉ first) (rest : List α) :
    splitOnce (head :: tail) (first ++ head :: tail ++ rest) = some (first, rest) := by
  induction first with
  | nil =>
      rw [List.nil_append, List.cons_append, splitOnce,
        if_pos (by rw [← List.cons_append]; exact List.prefix_append _ _), ← List.cons_append,
        List.drop_left]
  | cons item first ih =>
      rw [List.mem_cons, not_or] at h
      have hStart : ¬(head :: tail) <+: item :: (first ++ head :: tail ++ rest) := fun hPrefix =>
        h.1 (List.cons_prefix_cons.mp hPrefix).1
      rw [List.cons_append, List.cons_append, splitOnce, if_neg hStart, ih h.2]
      rfl

end Semantics.Text

/-! Topics and filters of publish and subscribe protocols: levels between
slashes, `+` for any one level, and `#` for all levels that remain. -/
namespace Semantics.TopicFilter

def levels (text : List UInt8) : List (List UInt8) := text.splitOn 47

def plus : List UInt8 := [43]

def hash : List UInt8 := [35]

def matchLevels : List (List UInt8) → List (List UInt8) → Bool
  | [], topic => topic.isEmpty
  | filter :: filters, topic =>
      if filter = hash then filters.isEmpty
      else match topic with
        | [] => false
        | level :: topic => (filter = plus || filter = level) && matchLevels filters topic

/-- The filter matches the topic. A wildcard in front does not match a topic
that starts with a dollar sign. -/
def Matches (filter topic : List UInt8) : Prop :=
  matchLevels (levels filter) (levels topic) = true ∧
    ¬(topic.head? = some 36 ∧ (filter.head? = some 43 ∨ filter.head? = some 35))

instance instDecidableMatches (filter topic : List UInt8) : Decidable (Matches filter topic) :=
  inferInstanceAs (Decidable (_ ∧ _))

/-- A level without wildcard matches itself only. -/
theorem matchLevels_literal {filter level : List UInt8} {filters topic : List (List UInt8)}
    (hFilter : filter.length ≠ 1) (h : matchLevels (filter :: filters) (level :: topic) = true) :
    filter = level ∧ matchLevels filters topic = true := by
  have hHash : filter ≠ hash := fun hEq => hFilter (by rw [hEq]; rfl)
  have hPlus : filter ≠ plus := fun hEq => hFilter (by rw [hEq]; rfl)
  rw [matchLevels, if_neg hHash, decide_eq_false hPlus, Bool.false_or, Bool.and_eq_true,
    decide_eq_true_eq] at h
  exact h

/-- The first level of a topic ends at its first slash. -/
theorem levels_append {first : List UInt8} (h : 47 ∉ first) (rest : List UInt8) :
    levels (first ++ 47 :: rest) = first :: levels rest :=
  List.splitOn_append_cons_self_of_not_mem h rest

example : Matches (Text.ascii "a/+/c/#") (Text.ascii "a/b/c") := by decide

end Semantics.TopicFilter
