import SnapEmu.Device.Types
import SnapEmu.Semantics.Exec
import SnapEmu.Semantics.Numeral

/-! The data rate of an answer, made from the `datr` text that the gateway
reported. Texts are their UTF-8 bytes. -/
namespace SnapEmu.LoRa

open Device Semantics Semantics.Exec Numeral

/-- `format!("SF{}BW{}", sf, bw)`. -/
def formatDatr (sf bw : Int) : List UInt8 :=
  Text.ascii "SF" ++ printInt sf ++ Text.ascii "BW" ++ printInt bw

/-- The data rate by the region. -/
def regionDatr (region : LoRaRegion) (sf bw : Int) : List UInt8 :=
  match region with
  | .EU868 => formatDatr sf bw
  | .US915 => formatDatr sf 500
  | .CN779 => formatDatr sf bw
  | .EU433 => formatDatr sf bw
  | .AU915 => formatDatr sf 500
  | .CN470 => formatDatr sf bw
  | .AS923_1 => formatDatr sf bw
  | .AS923_2 => formatDatr sf bw
  | .AS923_3 => formatDatr sf bw
  | .KR920 => formatDatr sf bw
  | .IN865 => formatDatr sf bw
  | .RU864 => formatDatr sf bw

/-- The body of both `calc_datr`. -/
def calcDatr (region : LoRaRegion) (datr : List UInt8) : Exec Empty (Option (List UInt8)) :=
  match Text.splitOnce (Text.ascii "BW") datr with
  | none => ok none
  | some (sfNum, bw) => do
      let sf ← strSlice sfNum 2 sfNum.length
      match parseI32 sf with
      | none => ok none
      | some sf =>
          match parseI32 bw with
          | none => ok none
          | some bw => ok (some (regionDatr region sf bw))

def RespDataBuilder.calcDatr (region : LoRaRegion) (datr : List UInt8) :
    Exec Empty (Option (List UInt8)) :=
  LoRa.calcDatr region datr

def JoinRespDataBuilder.calcDatr (region : LoRaRegion) (datr : List UInt8) :
    Exec Empty (Option (List UInt8)) :=
  LoRa.calcDatr region datr

/-- The text is `SF<n>BW<m>`. -/
def Shaped (datr : List UInt8) (n m : Int) : Prop :=
  ∃ sf bw, datr = Text.ascii "SF" ++ sf ++ Text.ascii "BW" ++ bw ∧
    intOf sf = some n ∧ intOf bw = some m

/-- Both builders give one answer, which is that of the integers in a text of
the shape, and `None` for another text. -/
def Converts (region : LoRaRegion) (datr : List UInt8) : Prop :=
  ∃ answer, RespDataBuilder.calcDatr region datr = ok answer ∧
    JoinRespDataBuilder.calcDatr region datr = ok answer ∧
    (∀ n m, Shaped datr n m → answer = some (regionDatr region n m)) ∧
    ((∀ n m, ¬Shaped datr n m) → answer = none)

/-- The part before the first `BW` can be cut after two bytes. If these are
`SF`, integers that follow are in range; if not, no such integers follow. -/
def Convertible (datr : List UInt8) : Prop :=
  match Text.splitOnce (Text.ascii "BW") datr with
  | none => True
  | some (sfNum, bw) =>
      (2 ≤ sfNum.length ∧ isCharBoundary sfNum 2 = true) ∧
        if sfNum.take 2 = Text.ascii "SF" then
          ∀ n m, intOf (sfNum.drop 2) = some n → intOf bw = some m → IsI32 n ∧ IsI32 m
        else ∀ n m, parseI32 (sfNum.drop 2) = some n → parseI32 bw ≠ some m

/-- A text of the shape is split where its numerals end. -/
theorem shaped_iff {datr : List UInt8} {n m : Int} :
    Shaped datr n m ↔
      ∃ sfNum bw, Text.splitOnce (Text.ascii "BW") datr = some (sfNum, bw) ∧
        sfNum.take 2 = Text.ascii "SF" ∧ intOf (sfNum.drop 2) = some n ∧ intOf bw = some m := by
  constructor
  · rintro ⟨sf, bw, rfl, hSf, hBw⟩
    have hNotMem : (66 : UInt8) ∉ Text.ascii "SF" ++ sf := by
      intro hMem
      rcases List.mem_append.mp hMem with hFront | hNumeral
      · exact absurd hFront (by decide)
      · rcases mem_of_intOf hSf hNumeral with hPlus | hMinus | hDigit
        · exact absurd hPlus (by decide)
        · exact absurd hMinus (by decide)
        · exact absurd hDigit (by decide)
    exact ⟨Text.ascii "SF" ++ sf, bw, Text.splitOnce_append hNotMem bw, rfl, hSf, hBw⟩
  · rintro ⟨sfNum, bw, hSplit, hFront, hSf, hBw⟩
    refine ⟨sfNum.drop 2, bw, ?_, hSf, hBw⟩
    rw [← hFront, List.take_append_drop]
    exact Text.splitOnce_eq_some hSplit

/-- The answer, when the text is split and cut. -/
theorem calcDatr_cut {datr sfNum bw : List UInt8} (region : LoRaRegion)
    (hSplit : Text.splitOnce (Text.ascii "BW") datr = some (sfNum, bw))
    (hCut : 2 ≤ sfNum.length ∧ isCharBoundary sfNum 2 = true) :
    calcDatr region datr =
      ok ((parseI32 (sfNum.drop 2)).bind fun sf =>
        (parseI32 bw).map fun bw => regionDatr region sf bw) := by
  rw [calcDatr, hSplit]
  simp only []
  rw [strSlice_end, if_pos hCut, ok_bind]
  cases parseI32 (sfNum.drop 2) with
  | none => rfl
  | some sf => cases parseI32 bw <;> rfl

/-- A spreading factor that cannot be cut at its second byte panics. -/
theorem calcDatr_uncut {datr sfNum bw : List UInt8} (region : LoRaRegion)
    (hSplit : Text.splitOnce (Text.ascii "BW") datr = some (sfNum, bw))
    (hCut : ¬(2 ≤ sfNum.length ∧ isCharBoundary sfNum 2 = true)) :
    calcDatr region datr = panic := by
  rw [calcDatr, hSplit]
  simp only []
  rw [strSlice_end, if_neg hCut, panic_bind]

section Answer

variable {sfText bwText : List UInt8} {answer : Int → Int → List UInt8}

/-- No data rate is found when one of the numbers does not parse. -/
theorem answer_eq_none :
    ((parseI32 sfText).bind fun sf => (parseI32 bwText).map (answer sf)) = none ↔
      ∀ n m, parseI32 sfText = some n → parseI32 bwText ≠ some m := by
  cases parseI32 sfText <;> cases parseI32 bwText <;> simp

/-- The integers of two texts are answered exactly if they are in range. -/
theorem answer_shape_iff :
    ((∀ n m, intOf sfText = some n ∧ intOf bwText = some m →
        ((parseI32 sfText).bind fun sf => (parseI32 bwText).map (answer sf)) =
          some (answer n m)) ∧
      ((∀ n m, ¬(intOf sfText = some n ∧ intOf bwText = some m)) →
        ((parseI32 sfText).bind fun sf => (parseI32 bwText).map (answer sf)) = none)) ↔
      ∀ n m, intOf sfText = some n → intOf bwText = some m → IsI32 n ∧ IsI32 m := by
  constructor
  · rintro ⟨hSome, -⟩ n m hSf hBw
    obtain ⟨sf, hParsedSf, hRest⟩ := Option.bind_eq_some_iff.mp (hSome n m ⟨hSf, hBw⟩)
    obtain ⟨bw, hParsedBw, -⟩ := Option.map_eq_some_iff.mp hRest
    obtain ⟨hSfInt, hSfRange⟩ := parseI32_eq_some.mp hParsedSf
    obtain ⟨hBwInt, hBwRange⟩ := parseI32_eq_some.mp hParsedBw
    cases hSf.symm.trans hSfInt
    cases hBw.symm.trans hBwInt
    exact ⟨hSfRange, hBwRange⟩
  · intro hRange
    constructor
    · rintro n m ⟨hSf, hBw⟩
      obtain ⟨hSfRange, hBwRange⟩ := hRange n m hSf hBw
      rw [parseI32_eq_some.mpr ⟨hSf, hSfRange⟩, parseI32_eq_some.mpr ⟨hBw, hBwRange⟩]
      rfl
    · intro hNone
      exact answer_eq_none.mpr fun n m hSf hBw =>
        hNone n m ⟨(parseI32_eq_some.mp hSf).1, (parseI32_eq_some.mp hBw).1⟩

end Answer

/-- Exactly the convertible texts are converted, in every region. -/
theorem converts_iff_convertible (region : LoRaRegion) (datr : List UInt8) :
    Converts region datr ↔ Convertible datr := by
  have hBoth : Converts region datr ↔ ∃ answer, calcDatr region datr = ok answer ∧
      (∀ n m, Shaped datr n m → answer = some (regionDatr region n m)) ∧
      ((∀ n m, ¬Shaped datr n m) → answer = none) :=
    exists_congr fun answer => by
      rw [RespDataBuilder.calcDatr, JoinRespDataBuilder.calcDatr, and_self_left]
  rw [hBoth, Convertible]
  cases hSplit : Text.splitOnce (Text.ascii "BW") datr with
  | none =>
      have hNone : calcDatr region datr = ok none := by rw [calcDatr, hSplit]
      have hShape : ∀ n m, ¬Shaped datr n m := by
        intro n m hShaped
        obtain ⟨sfNum, bw, hSome, -⟩ := shaped_iff.mp hShaped
        rw [hSplit] at hSome
        cases hSome
      refine iff_of_true ⟨none, hNone, fun n m h => absurd h (hShape n m), fun _ => rfl⟩ trivial
  | some parts =>
      obtain ⟨sfNum, bw⟩ := parts
      have hShape : ∀ n m, Shaped datr n m ↔
          sfNum.take 2 = Text.ascii "SF" ∧ intOf (sfNum.drop 2) = some n ∧ intOf bw = some m := by
        intro n m
        rw [shaped_iff]
        constructor
        · rintro ⟨sfNum', bw', hSome, hParts⟩
          rw [hSplit, Option.some.injEq, Prod.mk.injEq] at hSome
          obtain ⟨rfl, rfl⟩ := hSome
          exact hParts
        · exact fun h => ⟨sfNum, bw, hSplit, h⟩
      by_cases hCut : 2 ≤ sfNum.length ∧ isCharBoundary sfNum 2 = true
      · rw [calcDatr_cut region hSplit hCut]
        simp only [ok.injEq, exists_eq_left']
        rw [and_iff_right hCut]
        split_ifs with hFront
        · simp only [hShape, hFront, true_and]
          exact answer_shape_iff
        · simp only [hShape, hFront, false_and, not_false_eq_true, implies_true, true_and,
            forall_const, false_imp_iff]
          exact answer_eq_none
      · rw [calcDatr_uncut region hSplit hCut]
        refine iff_of_false ?_ fun h => hCut h.1
        rintro ⟨answer, hAnswer, -⟩
        cases hAnswer

/-- A text with nothing before the bandwidth aborts. -/
theorem bandwidth_alone_aborts :
    ¬∀ (region : LoRaRegion) (datr : List UInt8), Converts region datr := by
  intro h
  obtain ⟨answer, hAnswer, -⟩ := h .EU868 (Text.ascii "BW125")
  have hPanic : RespDataBuilder.calcDatr .EU868 (Text.ascii "BW125") = panic := by decide
  rw [hPanic] at hAnswer
  cases hAnswer

end SnapEmu.LoRa
