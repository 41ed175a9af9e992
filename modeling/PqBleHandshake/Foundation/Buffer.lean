import PqBleHandshake.Foundation.Bytes
import PqBleHandshake.Foundation.Effect

/-!
# Output buffers

A C function that fills a buffer of its caller, as an effect on the contents of that buffer.  A write stays
inside the buffer, and `cleared` is the exit that wipes the buffer when the function fails.
-/

namespace PqBleHandshake.Foundation

/-- Overwrite the bytes from an offset on, as far as the buffer goes. -/
def writeAt (buffer : Bytes) (offset : ℕ) (data : Bytes) : Bytes :=
  (buffer.take offset ++ data ++ buffer.drop (offset + data.length)).take buffer.length

@[simp]
theorem length_writeAt (buffer data : Bytes) (offset : ℕ) :
    (writeAt buffer offset data).length = buffer.length := by
  simp only [writeAt, List.length_take, List.length_append, List.length_drop]
  omega

/-- A write that fits, with what stood before it. -/
theorem writeAt_eq {buffer data : Bytes} {offset : ℕ} (h : offset + data.length ≤ buffer.length) :
    writeAt buffer offset data = buffer.take offset ++ data ++ buffer.drop (offset + data.length) := by
  rw [writeAt, List.take_of_length_le]
  simp only [List.length_append, List.length_take, List.length_drop]
  omega

theorem take_writeAt {buffer data : Bytes} (h : data.length ≤ buffer.length) :
    (writeAt buffer 0 data).take data.length = data := by
  rw [writeAt_eq (by omega), List.take_zero, List.nil_append, List.take_left]

/-- A second write over the tail of a first one. -/
theorem writeAt_writeAt {buffer first second : Bytes} {offset : ℕ} (hoffset : offset ≤ first.length)
    (hlength : first.length = offset + second.length) (h : first.length ≤ buffer.length) :
    writeAt (writeAt buffer 0 first) offset second = writeAt buffer 0 (first.take offset ++ second) := by
  have hjoined : (first.take offset ++ second).length = first.length := by
    rw [List.length_append, List.length_take, min_eq_left hoffset, hlength]
  rw [writeAt_eq (by rw [length_writeAt]; omega), writeAt_eq (by omega), writeAt_eq (by omega), hjoined,
    ← hlength]
  simp only [List.take_zero, List.nil_append, Nat.zero_add, List.drop_left]
  rw [List.take_append_of_le_length hoffset]

/-- Writing as many zeros as the buffer has bytes. -/
theorem writeAt_zeros {buffer : Bytes} {capacity : ℕ} (h : buffer.length = capacity) :
    writeAt buffer 0 (List.replicate capacity 0) = List.replicate capacity 0 := by
  rw [writeAt_eq (by simp [h]), List.drop_of_length_le (by simp [h])]
  simp

namespace Effect

variable {σ ε α : Type}

/-- A check or a computation that does not touch the state. -/
def ofExcept : Except ε α → Effect σ ε α
  | .ok a => pure a
  | .error e => fail e

/-- A function that wipes a buffer of a given size on failure. -/
def cleared (capacity : ℕ) (body : Effect Bytes ε α) : Effect Bytes ε α :=
  body.onError fun e ↦ do
    update fun buffer ↦ writeAt buffer 0 (List.replicate capacity 0)
    fail e

/-- The outcome of a function that fills a buffer with its result, or wipes it. -/
def filled (buffer : Bytes) : Except ε Bytes → Except ε ℕ × Bytes
  | .ok result => (.ok result.length, writeAt buffer 0 result)
  | .error error => (.error error, List.replicate buffer.length 0)

/-- What the caller of such a function gets: the returned number of bytes. -/
def delivered (outcome : Except ε ℕ × Bytes) : Option Bytes :=
  match outcome with
  | (.ok length, buffer) => some (buffer.take length)
  | (.error _, _) => none

theorem delivered_filled {buffer : Bytes} {result : Except ε Bytes}
    (h : ∀ bytes, result = .ok bytes → bytes.length ≤ buffer.length) :
    delivered (filled buffer result) = result.toOption := by
  cases result with
  | error error => rfl
  | ok bytes => exact congrArg some (take_writeAt (h bytes rfl))

theorem filled_error {buffer buffer' : Bytes} {result : Except ε Bytes} {error : ε}
    (h : filled buffer result = (.error error, buffer')) : buffer' = List.replicate buffer.length 0 := by
  cases result with
  | error _ => exact (Prod.mk.inj h).2.symm
  | ok _ => exact nomatch (Prod.mk.inj h).1

/-- A body that runs from some contents of a buffer and fails with a result's error, or returns its length
with the result written over the original contents. -/
def Fills (original : Bytes) (body : Effect Bytes ε ℕ) (current : Bytes) : Except ε Bytes → Prop
  | .ok result => body current = (.ok result.length, writeAt original 0 result)
  | .error error => ∃ left, body current = (.error error, left) ∧ left.length = original.length

namespace Fills

variable {original current : Bytes} {body : Effect Bytes ε ℕ} {result : Except ε Bytes}

/-- A wiping exit turns a body that fills into a function that fills or wipes. -/
theorem cleared (h : Fills original body original result) :
    Effect.cleared original.length body original = filled original result := by
  cases result with
  | ok bytes =>
    have hbody : body original = (.ok bytes.length, writeAt original 0 bytes) := h
    simp only [Effect.cleared, onError, hbody, filled]
  | error error =>
    obtain ⟨left, hbody, hlength⟩ := h
    have hwiped := writeAt_zeros hlength
    simp only [Effect.cleared, onError, hbody, filled]
    exact congrArg (Prod.mk _) hwiped

/-- A check or a computation before the rest. -/
theorem ofExcept {x : Except ε α} {f : α → Effect Bytes ε ℕ} {g : α → Except ε Bytes}
    (hlength : current.length = original.length)
    (h : ∀ a, x = .ok a → Fills original (f a) current (g a)) :
    Fills original (Effect.ofExcept x >>= f) current (x >>= g) := by
  cases x with
  | ok a => exact h a rfl
  | error error => exact ⟨current, rfl, hlength⟩

/-- A write before the rest. -/
theorem update {write : Bytes → Bytes} {f : Unit → Effect Bytes ε ℕ}
    (h : Fills original (f ()) (write current) result) :
    Fills original (Effect.update write >>= f) current result := by
  cases result with
  | ok _ => exact h
  | error _ => exact h

/-- A read before the rest. -/
theorem look {read : Bytes → α} {f : α → Effect Bytes ε ℕ}
    (h : Fills original (f (read current)) current result) :
    Fills original (Effect.look read >>= f) current result := by
  cases result with
  | ok _ => exact h
  | error _ => exact h

end Fills

end Effect

end PqBleHandshake.Foundation
