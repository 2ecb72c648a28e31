import Mathlib.Logic.Relation
import SnapEmu.Semantics.Block

/-! Computations of a checked imperative language: a value, a reported
error, an abort (an index or a slice out of bounds), or no result within
the supplied number of loop iterations. Reading past the end is kept as
`panic`, so that absence of aborts is a property to be proved. -/
namespace Semantics

universe u v

inductive Exec (ε : Type u) (α : Type v) where
  | ok (value : α)
  | err (error : ε)
  | panic
  | diverge
  deriving DecidableEq

namespace Exec

variable {ε : Type u} {α β σ : Type v}

protected def bind (first : Exec ε α) (next : α → Exec ε β) : Exec ε β :=
  match first with
  | ok value => next value
  | err error => err error
  | panic => panic
  | diverge => diverge

instance : Monad (Exec ε) where
  pure := ok
  bind := Exec.bind

@[simp] theorem pure_eq (value : α) : (pure value : Exec ε α) = ok value := rfl

@[simp] theorem ok_bind (value : α) (next : α → Exec ε β) :
    (ok value >>= next) = next value := rfl

@[simp] theorem err_bind (error : ε) (next : α → Exec ε β) :
    ((err error : Exec ε α) >>= next) = err error := rfl

@[simp] theorem panic_bind (next : α → Exec ε β) :
    ((panic : Exec ε α) >>= next) = panic := rfl

@[simp] theorem diverge_bind (next : α → Exec ε β) :
    ((diverge : Exec ε α) >>= next) = diverge := rfl

/-- A successful sequence splits into a successful first part and a
successful continuation. -/
theorem bind_eq_ok {first : Exec ε α} {next : α → Exec ε β} {value : β} :
    (first >>= next) = ok value ↔ ∃ middle, first = ok middle ∧ next middle = ok value := by
  cases first <;> simp

/-- A sequence aborts in its first part or in its continuation. -/
theorem bind_eq_panic {first : Exec ε α} {next : α → Exec ε β} :
    (first >>= next) = panic ↔
      first = panic ∨ ∃ middle, first = ok middle ∧ next middle = panic := by
  cases first <;> simp

/-- A sequence diverges exactly when one of its parts does. -/
theorem bind_eq_diverge {first : Exec ε α} {next : α → Exec ε β} :
    (first >>= next) = diverge ↔
      first = diverge ∨ ∃ middle, first = ok middle ∧ next middle = diverge := by
  cases first <;> simp

/-- The computation ends with a value or with a reported error. -/
def Returns (run : Exec ε α) : Prop := run ≠ panic ∧ run ≠ diverge

theorem returns_ok (value : α) : (ok value : Exec ε α).Returns :=
  ⟨by rintro ⟨⟩, by rintro ⟨⟩⟩

theorem returns_err (error : ε) : (err error : Exec ε α).Returns :=
  ⟨by rintro ⟨⟩, by rintro ⟨⟩⟩

/-- What follows a run that returns need return for its value only. -/
theorem Returns.bind {run : Exec ε α} {next : α → Exec ε β} (h : run.Returns)
    (hNext : ∀ value, run = ok value → (next value).Returns) : (run >>= next).Returns := by
  cases run with
  | ok value => exact hNext value rfl
  | err error => exact returns_err error
  | panic => exact absurd rfl h.1
  | diverge => exact absurd rfl h.2

/-- If the computation ends with a value, then with one that satisfies the
postcondition. -/
def Yields (run : Exec ε α) (post : α → Prop) : Prop := ∀ value, run = ok value → post value

theorem yields_ok {post : α → Prop} {value : α} (h : post value) :
    (ok value : Exec ε α).Yields post := by
  intro other hOther
  cases hOther
  exact h

theorem yields_panic {post : α → Prop} : (panic : Exec ε α).Yields post := nofun

/-- The sequence rule for results: what the first part yields is required by the second.
-/
theorem Yields.bind {run : Exec ε α} {next : α → Exec ε β} {middle : α → Prop} {post : β → Prop}
    (h : run.Yields middle) (hNext : ∀ value, middle value → (next value).Yields post) :
    (run >>= next).Yields post := by
  intro last hLast
  obtain ⟨value, hValue, hEnd⟩ := bind_eq_ok.mp hLast
  exact hNext value (h value hValue) last hEnd

/-- Both branches have to yield the result. -/
theorem yields_ite {condition : Prop} [Decidable condition] {first second : Exec ε α}
    {post : α → Prop} (hFirst : condition → first.Yields post)
    (hSecond : ¬condition → second.Yields post) :
    (if condition then first else second).Yields post := by
  split_ifs with h
  · exact hFirst h
  · exact hSecond h

/-- Only what follows matters. -/
theorem yields_bind {run : Exec ε α} {next : α → Exec ε β} {post : β → Prop}
    (h : ∀ value, run = ok value → (next value).Yields post) : (run >>= next).Yields post :=
  Yields.bind (fun _ hValue => hValue) h

/-- A result may be weakened. -/
theorem Yields.mono {run : Exec ε α} {post post' : α → Prop} (h : run.Yields post)
    (hPost : ∀ value, post value → post' value) : run.Yields post' :=
  fun value hValue => hPost value (h value hValue)

/-- Checked indexing. -/
def index (items : List α) (position : Nat) : Exec ε α :=
  match items[position]? with
  | some item => ok item
  | none => panic

/-- Checked half-open slice `items[start..stop]`. -/
def slice (items : List α) (start stop : Nat) : Exec ε (List α) :=
  if start ≤ stop ∧ stop ≤ items.length then ok ((items.drop start).take (stop - start)) else panic

/-- Indexing panics exactly outside the list. -/
theorem index_eq_panic {items : List α} {position : Nat} :
    (index items position : Exec ε α) = panic ↔ items.length ≤ position := by
  unfold index
  cases h : items[position]? with
  | none => simpa using h
  | some item =>
      obtain ⟨hLt, _⟩ := List.getElem?_eq_some_iff.mp h
      simpa using hLt

/-- Indexing returns the item at the position. -/
theorem index_eq_ok {items : List α} {position : Nat} {item : α} :
    (index items position : Exec ε α) = ok item ↔ items[position]? = some item := by
  unfold index
  cases items[position]? <;> simp

@[simp] theorem index_ne_diverge {items : List α} {position : Nat} :
    (index items position : Exec ε α) ≠ diverge := by
  unfold index
  cases items[position]? <;> simp

/-- Slicing returns the block between the positions. -/
theorem slice_eq_ok {items block : List α} {start stop : Nat} :
    (slice items start stop : Exec ε (List α)) = ok block ↔ Block items start stop block := by
  unfold slice Block
  split_ifs with h
  · simp [h]
  · simp only [false_iff]
    exact fun hBounds => h ⟨hBounds.1, hBounds.2.1⟩

/-- Slicing panics exactly when the positions are out of order or out of range. -/
theorem slice_eq_panic {items : List α} {start stop : Nat} :
    (slice items start stop : Exec ε (List α)) = panic ↔ stop < start ∨ items.length < stop := by
  unfold slice
  split_ifs with h
  · simp only [false_iff]
    omega
  · simp only [true_iff]
    omega

@[simp] theorem slice_ne_diverge {items : List α} {start stop : Nat} :
    (slice items start stop : Exec ε (List α)) ≠ diverge := by
  unfold slice
  split_ifs <;> simp

/-- Repeat `body` until it breaks with a result, for at most `fuel` rounds. -/
def loop (body : σ → Exec ε (σ ⊕ β)) : Nat → σ → Exec ε β
  | 0, _ => diverge
  | fuel + 1, state => body state >>= fun
      | .inl next => loop body fuel next
      | .inr result => ok result

/-- A loop with fuel left runs its body once. -/
theorem loop_succ (body : σ → Exec ε (σ ⊕ β)) (fuel : Nat) (state : σ) :
    loop body (fuel + 1) state = body state >>= fun
      | .inl next => loop body fuel next
      | .inr result => ok result := rfl

/-- One continuing round. -/
theorem loop_next {body : σ → Exec ε (σ ⊕ β)} {state next : σ} (fuel : Nat)
    (h : body state = ok (.inl next)) : loop body (fuel + 1) state = loop body fuel next := by
  rw [loop_succ, h]
  rfl

/-- The breaking round. -/
theorem loop_break {body : σ → Exec ε (σ ⊕ β)} {state : σ} {result : β} (fuel : Nat)
    (h : body state = ok (.inr result)) : loop body (fuel + 1) state = ok result := by
  rw [loop_succ, h]
  rfl

/-- Termination rule: rounds that never diverge and always lower a measure
finish within any number of rounds above that measure. -/
theorem loop_ne_diverge {body : σ → Exec ε (σ ⊕ β)} (Inv : σ → Prop) (measure : σ → Nat)
    (hBody : ∀ state, Inv state → body state ≠ diverge)
    (hNext : ∀ state next, Inv state → body state = ok (.inl next) →
      Inv next ∧ measure next < measure state) :
    ∀ fuel state, Inv state → measure state < fuel → loop body fuel state ≠ diverge := by
  intro fuel
  induction fuel with
  | zero => intro state _ hFuel; omega
  | succ fuel ih =>
      intro state hInv hFuel h
      rw [loop_succ, bind_eq_diverge] at h
      rcases h with h | ⟨outcome, hOutcome, h⟩
      · exact hBody state hInv h
      · cases outcome with
        | inl next =>
            obtain ⟨hInvNext, hLess⟩ := hNext state next hInv hOutcome
            exact ih next hInvNext (by omega) h
        | inr result => simp at h

/-- One continuing round of a loop body. -/
def Next (body : σ → Exec ε (σ ⊕ β)) (state next : σ) : Prop := body state = ok (.inl next)

/-- A terminating loop can be followed along any chain of continuing rounds. -/
theorem loop_chain {body : σ → Exec ε (σ ⊕ β)} {state last : σ}
    (hChain : Relation.ReflTransGen (Next body) state last) :
    ∀ {fuel}, loop body fuel state ≠ diverge →
      ∃ rest, loop body (rest + 1) last = loop body fuel state := by
  induction hChain using Relation.ReflTransGen.head_induction_on with
  | refl =>
      intro fuel hFuel
      cases fuel with
      | zero => exact (hFuel rfl).elim
      | succ fuel => exact ⟨fuel, rfl⟩
  | head hNext _ ih =>
      intro fuel hFuel
      cases fuel with
      | zero => exact (hFuel rfl).elim
      | succ fuel =>
          rw [loop_next fuel hNext] at hFuel ⊢
          exact ih hFuel

/-- A terminating loop reaches a last state, whose round decides it. -/
theorem loop_stops {body : σ → Exec ε (σ ⊕ β)} {fuel : Nat} {state : σ}
    (hFuel : loop body fuel state ≠ diverge) :
    ∃ last, Relation.ReflTransGen (Next body) state last ∧
      (∀ next, ¬ Next body last next) ∧ loop body 1 last = loop body fuel state := by
  induction fuel generalizing state with
  | zero => exact (hFuel rfl).elim
  | succ fuel ih =>
      by_cases hMore : ∃ next, Next body state next
      · obtain ⟨next, hNext⟩ := hMore
        rw [loop_next fuel hNext] at hFuel ⊢
        obtain ⟨last, hChain, hLast, hLoop⟩ := ih hFuel
        exact ⟨last, .head hNext hChain, hLast, hLoop⟩
      · refine ⟨state, .refl, fun next hNext => hMore ⟨next, hNext⟩, ?_⟩
        rw [loop_succ, loop_succ]
        cases hBody : body state with
        | ok outcome =>
            cases outcome with
            | inl next => exact (hMore ⟨next, hBody⟩).elim
            | inr result => rfl
        | _ => rfl

/-- A terminating loop returns exactly what the breaking round behind some
chain of continuing rounds returns. -/
theorem loop_eq_ok {body : σ → Exec ε (σ ⊕ β)} {fuel : Nat} {state : σ} {result : β}
    (hFuel : loop body fuel state ≠ diverge) :
    loop body fuel state = ok result ↔
      ∃ last, Relation.ReflTransGen (Next body) state last ∧ body last = ok (.inr result) := by
  constructor
  · intro h
    obtain ⟨last, hChain, hLast, hLoop⟩ := loop_stops hFuel
    rw [h, loop_succ, bind_eq_ok] at hLoop
    obtain ⟨outcome, hOutcome, hResult⟩ := hLoop
    cases outcome with
    | inl next => exact (hLast next hOutcome).elim
    | inr final =>
        simp only [ok.injEq] at hResult
        exact ⟨last, hChain, hResult ▸ hOutcome⟩
  · rintro ⟨last, hChain, hLast⟩
    obtain ⟨rest, hLoop⟩ := loop_chain hChain hFuel
    rw [← hLoop, loop_break rest hLast]

/-- A terminating loop aborts exactly when the round behind some chain of
continuing rounds aborts. -/
theorem loop_eq_panic {body : σ → Exec ε (σ ⊕ β)} {fuel : Nat} {state : σ}
    (hFuel : loop body fuel state ≠ diverge) :
    loop body fuel state = panic ↔
      ∃ last, Relation.ReflTransGen (Next body) state last ∧ body last = panic := by
  constructor
  · intro h
    obtain ⟨last, hChain, hLast, hLoop⟩ := loop_stops hFuel
    rw [h, loop_succ, bind_eq_panic] at hLoop
    rcases hLoop with hPanic | ⟨outcome, hOutcome, hRest⟩
    · exact ⟨last, hChain, hPanic⟩
    · cases outcome with
      | inl next => exact (hLast next hOutcome).elim
      | inr final => simp at hRest
  · rintro ⟨last, hChain, hLast⟩
    obtain ⟨rest, hLoop⟩ := loop_chain hChain hFuel
    rw [← hLoop, loop_succ, hLast]
    rfl

end Exec

/-! Strings, given as their UTF-8 bytes: a slice of one aborts unless both ends
lie between characters. -/

/-- The position is an end of the string or that of a character's first byte. -/
def isCharBoundary (text : List UInt8) (position : Nat) : Bool :=
  position == 0 || position == text.length ||
    text[position]?.any fun byte => byte < 128 || 192 ≤ byte

/-- Between ASCII characters every position is one. -/
theorem isCharBoundary_ascii {text : List UInt8} {position : Nat}
    (hAscii : ∀ byte ∈ text, byte < 128) (hPosition : position ≤ text.length) :
    isCharBoundary text position = true := by
  rcases Nat.lt_or_eq_of_le hPosition with hLt | hEq
  · have hByte := hAscii text[position] (List.getElem_mem hLt)
    simp [isCharBoundary, hLt, hByte]
  · simp [isCharBoundary, hEq]

namespace Exec

variable {text : List UInt8} {start stop : Nat}

/-- `&text[start..stop]` of a string. -/
def strSlice (text : List UInt8) (start stop : Nat) : Exec ε (List UInt8) :=
  if isCharBoundary text start && isCharBoundary text stop then slice text start stop else panic

/-- In an ASCII text every position is a boundary. -/
theorem strSlice_ascii (hAscii : ∀ byte ∈ text, byte < 128) (hStart : start ≤ stop)
    (hStop : stop ≤ text.length) :
    (strSlice text start stop : Exec ε (List UInt8)) =
      ok ((text.drop start).take (stop - start)) := by
  have hBounds := isCharBoundary_ascii hAscii (Nat.le_trans hStart hStop)
  rw [strSlice, hBounds, isCharBoundary_ascii hAscii hStop, Bool.and_self, if_pos rfl, slice,
    if_pos ⟨hStart, hStop⟩]

/-- A string can be cut exactly where characters meet. -/
theorem strSlice_end (text : List UInt8) (start : Nat) :
    (strSlice text start text.length : Exec ε (List UInt8)) =
      if start ≤ text.length ∧ isCharBoundary text start = true then ok (text.drop start)
      else panic := by
  have hEnd : isCharBoundary text text.length = true := by simp [isCharBoundary]
  rw [strSlice, hEnd, Bool.and_true]
  by_cases hBoundary : isCharBoundary text start = true
  · rw [if_pos hBoundary, slice]
    by_cases hLength : start ≤ text.length
    · rw [if_pos ⟨hLength, Nat.le_refl _⟩, if_pos ⟨hLength, hBoundary⟩]
      exact congrArg ok (List.take_of_length_le (Nat.le_of_eq List.length_drop))
    · rw [if_neg fun h => hLength h.1, if_neg fun h => hLength h.1]
  · rw [if_neg hBoundary, if_neg fun h => hBoundary h.2]

end Exec
end Semantics
