import Mathlib.Data.BitVec
import Mathlib.Algebra.Order.Ring.Nat

/-! Values the provider passes around: the exceptions that leave a call, the `Result<T>`
every operation returns and every RPC sends back, target UUIDs with their string form,
region identifiers, spans and eager payloads. -/
namespace Warabi

/-- An exception leaving a call, with the text its `what()` returns. -/
structure Exception where
  what : String
deriving DecidableEq, Repr

/-- Modelled from the spec: `Result.hpp` is not among the sources. A default-constructed
`Result<T>` is successful, with an empty error and a default value: the success paths of
`checkTargetRPC` and `removeTargetRPC` send it untouched, and the spec has `check_target`
succeed there. -/
structure Result (α : Type) where
  success : Bool := true
  error : String := ""
  value : α
deriving DecidableEq, Repr

instance Except.decEq {ε α : Type} [DecidableEq ε] [DecidableEq α] : DecidableEq (Except ε α)
  | .ok a, .ok b => decidable_of_iff (a = b) (by simp)
  | .error a, .error b => decidable_of_iff (a = b) (by simp)
  | .ok _, .error _ => isFalse (by simp)
  | .error _, .ok _ => isFalse (by simp)

instance {α : Type} [Inhabited α] : Inhabited (Result α) := ⟨{ value := default }⟩

@[simp] theorem Except.bind_eq_ok {ε α β : Type} {x : Except ε α} {f : α → Except ε β} {b : β} :
    x >>= f = .ok b ↔ ∃ a, x = .ok a ∧ f a = .ok b := by
  cases x <;> simp [bind,Except.bind]

@[simp] theorem Except.ok_bind {ε α β : Type} (a : α) (f : α → Except ε β) :
    (Except.ok a : Except ε α) >>= f = f a := rfl

def Result.ok {α : Type} (value : α) : Result α := { value }

/-- `result.success() = false; result.error() = message;` -/
def Result.fail {α : Type} (r : Result α) (message : String) : Result α :=
  { r with success := false,error := message }

@[simp] theorem Result.fail_success {α : Type} (r : Result α) (message : String) :
    (r.fail message).success = false := rfl

@[simp] theorem Result.ok_success {α : Type} (value : α) : (Result.ok value).success = true := rfl

/-! ## Target identifiers -/

def hexDigit (d : Nat) : Char := Char.ofNat (if d < 10 then 48 + d else 87 + d)

def hexValue (c : Char) : Option Nat :=
  if '0' ≤ c ∧ c ≤ '9' then some (c.toNat - 48)
  else if 'a' ≤ c ∧ c ≤ 'f' then some (c.toNat - 87)
  else if 'A' ≤ c ∧ c ≤ 'F' then some (c.toNat - 55)
  else none

theorem hexValue_hexDigit : ∀ d, d < 16 → hexValue (hexDigit d) = some d
  | 0, _ | 1, _ | 2, _ | 3, _ | 4, _ | 5, _ | 6, _ | 7, _ | 8, _ | 9, _ | 10, _ | 11, _ | 12, _
  | 13, _ | 14, _ | 15, _ => by decide
  | _ + 16, h => absurd h (by omega)

def hexDigits : Nat → Nat → List Nat
  | 0, _ => []
  | width + 1, v => hexDigits width (v / 16) ++ [v % 16]

def ofHexDigits (digits : List Nat) : Nat := digits.foldl (fun acc d => acc * 16 + d) 0

/-- Modelled from the spec: `UUID.hpp` is not among the sources. A target identifier is 128
bits, written as 32 lowercase hex digits in groups of 8, 4, 4, 4 and 12. -/
structure UUID where
  bits : BitVec 128
deriving DecidableEq, Repr

def hyphenate : List Nat → List Char → List Char
  | [], cs => cs
  | width :: widths, cs => cs.take width ++ '-' :: hyphenate widths (cs.drop width)

def dehyphenate : List Nat → List Char → Option (List Char)
  | [], cs => some cs
  | width :: widths, cs =>
    match cs.drop width with
    | '-' :: rest =>
      if (cs.take width).length = width then (dehyphenate widths rest).map (cs.take width ++ ·)
      else none
    | _ => none

def UUID.to_string (u : UUID) : String :=
  ⟨hyphenate [8,4,4,4] ((hexDigits 32 u.bits.toNat).map hexDigit)⟩

/-- Modelled from the spec: the inverse of `to_string`; a string that is not a canonical UUID
reads as the nil UUID, as `uuid_parse` leaves its output untouched on failure. -/
def UUID.from_string (s : String) : UUID :=
  match (if s.length = 36 then dehyphenate [8,4,4,4] s.data else none) >>= (·.mapM hexValue) with
  | some digits => ⟨BitVec.ofNat 128 (ofHexDigits digits)⟩
  | none => ⟨0#128⟩

/-- A region identifier: an opaque byte string minted by the backend. -/
structure RegionID where
  bytes : List UInt8
deriving DecidableEq, Repr, Inhabited

/-- One `(offset, size)` pair of a request's `std::vector<std::pair<size_t, size_t>>`. -/
abbrev Span := UInt64 × UInt64

/-- The bytes a span list covers, summed over the naturals. -/
def spanBytes (spans : List Span) : Nat := (spans.map fun span => span.2.toNat).sum

/-- An eager payload (`BufferWrapper`): the bytes inlined in a request or a response. -/
structure BufferWrapper where
  data : List UInt8
deriving DecidableEq, Repr, Inhabited

/-! ## Responses -/

/-- The values responses carry: a target's UUID, a flag, a region's ID or an eager buffer. -/
inductive Payload where
  | uuid (u : UUID)
  | flag (b : Bool)
  | region (r : RegionID)
  | buffer (b : BufferWrapper)
deriving DecidableEq, Repr

class ToPayload (α : Type) where
  payload : α → Payload

instance payloadUUID : ToPayload UUID := ⟨.uuid⟩

instance payloadBool : ToPayload Bool := ⟨.flag⟩

instance payloadRegionID : ToPayload RegionID := ⟨.region⟩

instance payloadBuffer : ToPayload BufferWrapper := ⟨.buffer⟩

/-- `value_or_error`, what a response carries after its success flag: the value of a successful
`Result`, the error of a failed one. -/
def Result.valueOrError {α : Type} [ToPayload α] (r : Result α) : Except String Payload :=
  if r.success then .ok (ToPayload.payload r.value) else .error r.error

@[simp] theorem Result.valueOrError_fail {α : Type} [ToPayload α] (r : Result α) (message : String) :
    (r.fail message).valueOrError = .error message := rfl

end Warabi
