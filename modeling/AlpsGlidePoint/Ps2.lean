import Mathlib.Algebra.Group.Nat.Basic
import Mathlib.Algebra.Group.Int
import Mathlib.Algebra.Ring.Int.Defs
import Mathlib.Data.Int.Bitwise

/-! # PS/2 requests and the blocking transport

The driver talks to the pad through `submitRequestAndBlock`, which runs a list of
commands and reports how many of them completed. The transport is a collaborator:
a run of the driver is checked against every behaviour it can have, given as one
reply per exchange. The command-mode routines also leave a trace of the calls they
make, which is what the init-sequence properties are stated over.
-/

namespace AlpsGlidePoint

/-! ### Command bytes

The `kDP_*` and `kSC_*` constants are declared in the controller's header, which is
not part of the source. They are the standard PS/2 mouse command bytes; the E6, E7
and EC report names of the spec and the byte sequences in the comment above
`tapMode` fix the ones the identification protocol depends on. -/

def kDPSetMouseScaling1To1 : UInt8 := 0xe6
def kDPSetMouseScaling2To1 : UInt8 := 0xe7
def kDPSetMouseResolution : UInt8 := 0xe8
def kDPGetMouseInformation : UInt8 := 0xe9
def kDPSetMouseStreamMode : UInt8 := 0xea
def kDPMouseResetWrap : UInt8 := 0xec
def kDPMouseSetPoll : UInt8 := 0xf0
def kDPGetId : UInt8 := 0xf2
def kDPSetMouseSampleRate : UInt8 := 0xf3
def kDPEnable : UInt8 := 0xf4
def kDPSetDefaultsAndDisable : UInt8 := 0xf5
def kDPSetDefaults : UInt8 := 0xf6
def kDPReset : UInt8 := 0xff
/-- `ALPS_CMD_NIBBLE_10` is `0x01f2`: the command byte of nibble `a` is its low byte. -/
def kDPCommandNibble10 : UInt8 := 0xf2
def kSCReset : UInt8 := 0xaa
def kSCID : UInt8 := 0x00

/-- One entry of a `TPS2Request`. -/
inductive PS2Command where
  /-- `kPS2C_SendMouseCommandAndCompareAck` with its `inOrOut` byte. -/
  | sendMouseCommandAndCompareAck (byte : UInt8)
  /-- `kPS2C_ReadDataPort`. -/
  | readDataPort
  deriving DecidableEq, Repr

/-- A request is its command list; `commandsCount` starts as its length. -/
abbrev Request := List PS2Command

/-- What `submitRequestAndBlock` leaves in the request: the number of commands that
    completed and the `inOrOut` byte of every command. -/
structure Reply where
  commandsCount : Nat
  inOrOut : Nat → UInt8

/-- A behaviour of the transport: the reply to the `n`-th exchange of the run. Since
    the driver is deterministic, indexing by the exchange number loses no behaviour. -/
abbrev Transport := Nat → Request → Reply

/-- The command-mode routines a run called, in order, with what they returned.
    This is the observation the init-sequence properties are stated over. -/
inductive Call where
  | enterCommandMode
  | exitCommandMode
  /-- `commandModeReadReg addr` returned `value` (`-1` on failure). -/
  | readReg (addr value : Int)
  /-- `commandModeWriteReg value` was called. -/
  | writeReg (value : UInt8)
  deriving DecidableEq, Repr

/-- The blocking side of a session: the transport, the number of exchanges so far
    and the calls made. -/
structure Bus where
  transport : Transport
  exchanges : Nat
  calls : List Call

/-- The synchronous initialization context. -/
abbrev PS2 := StateM Bus

/-- `_device->submitRequestAndBlock(&request)`. -/
def submitRequestAndBlock (request : Request) : PS2 Reply := fun b =>
  (b.transport b.exchanges request, { b with exchanges := b.exchanges + 1 })

/-- Record a call in the trace. -/
def record (c : Call) : PS2 Unit := fun b => ((), { b with calls := b.calls ++ [c] })

@[simp] theorem submitRequestAndBlock_calls (request : Request) (b : Bus) :
    (submitRequestAndBlock request b).2.calls = b.calls := rfl

@[simp] theorem submitRequestAndBlock_transport (request : Request) (b : Bus) :
    (submitRequestAndBlock request b).2.transport = b.transport := rfl

@[simp] theorem record_calls (c : Call) (b : Bus) : (record c b).2.calls = b.calls ++ [c] := rfl

@[simp] theorem record_transport (c : Call) (b : Bus) : (record c b).2.transport = b.transport := rfl

/-- Shorthand for a send command. -/
def sendByte (byte : UInt8) : PS2Command := .sendMouseCommandAndCompareAck byte

/-- Shorthand for a read command. -/
def readPort : PS2Command := .readDataPort

/-! ### Runs of a routine

`Runs m b a b'`: started on bus `b`, routine `m` returns `a` and leaves bus `b'`. One
rule per construct of the routines, so that a run on a concrete transport is worked
out step by step, each intermediate bus found by unification. -/

/-- Routine `m`, started on `b`, returns `a` and leaves `b'`. -/
def Runs {α : Type} (m : PS2 α) (b : Bus) (a : α) (b' : Bus) : Prop := m b = (a, b')

namespace Runs

variable {α β : Type} {m m' : PS2 α} {b b₁ b₂ : Bus} {a : α}

theorem pure (a : α) (b : Bus) : Runs (Pure.pure a : PS2 α) b a b := rfl

theorem submit (request : Request) (t : Transport) (n : Nat) (cs : List Call) :
    Runs (submitRequestAndBlock request) ⟨t, n, cs⟩ (t n request) ⟨t, n + 1, cs⟩ := rfl

theorem record (c : Call) (t : Transport) (n : Nat) (cs : List Call) :
    Runs (AlpsGlidePoint.record c) ⟨t, n, cs⟩ () ⟨t, n, cs ++ [c]⟩ := rfl

theorem bind {f : α → PS2 β} {c : β} (h : Runs m b a b₁) (h' : Runs (f a) b₁ c b₂) :
    Runs (m >>= f) b c b₂ := by
  unfold Runs at *
  show (match m b with | (a, s) => f a s) = _
  rw [h]; exact h'

theorem ite_pos {c : Prop} [Decidable c] (hc : c) (h : Runs m b a b₁) :
    Runs (if c then m else m') b a b₁ := by
  unfold Runs at *; rwa [if_pos hc]

theorem ite_neg {c : Prop} [Decidable c] (hc : ¬c) (h : Runs m' b a b₁) :
    Runs (if c then m else m') b a b₁ := by
  unfold Runs at *; rwa [if_neg hc]

end Runs

end AlpsGlidePoint
