import AlpsGlidePoint.Profile

/-! # The command-mode protocol

The synchronous register protocol of v3 and v4 pads. An address or a value travels
four bits at a time, each nibble as the command bytes its entry of the profile's
nibble table names; a register read is a `GetInfo` exchange whose first two answer
bytes must echo the address. Every routine returns failure as a value and never
raises: what the init sequences make of those values is the next module's concern.
-/

namespace AlpsGlidePoint

/-- `(UInt8)x`: the conversion of an `int` to a byte parameter. -/
def toByte (x : Int) : UInt8 := (x % 256).toNat.toUInt8

/-- `repeatCmd`: an optional `SetMouseResolution init_arg` prefix (when
    `init_command` is non-zero), the repeated command three times, then `GetInfo`
    and the three report bytes. The report is read whether or not the exchange
    completed. -/
def repeatCmd (initCommand initArg repeatedCommand : UInt8) : PS2 (Bool × Report) := do
  let pre := if initCommand ≠ 0 then [sendByte kDPSetMouseResolution, sendByte initArg] else []
  let request := pre ++ [sendByte repeatedCommand, sendByte repeatedCommand, sendByte repeatedCommand,
    sendByte kDPGetMouseInformation, readPort, readPort, readPort]
  let byte0 := pre.length + 4
  let reply ← submitRequestAndBlock request
  return (reply.commandsCount == request.length,
    ⟨reply.inOrOut byte0, reply.inOrOut (byte0 + 1), reply.inOrOut (byte0 + 2)⟩)

/-- `enterCommandMode`: the EC report must start `0x88 0x07`, `0x88 0x08` or `0x73`. -/
def enterCommandMode : PS2 Bool := do
  record .enterCommandMode
  let (_, status) ← repeatCmd 0 0 kDPMouseResetWrap
  return !((status.byte0 != 0x88 || (status.byte1 != 0x07 && status.byte1 != 0x08)) &&
    status.byte0 != 0x73)

/-- `exitCommandMode`: `SetMouseStreamMode`; it always reports success. -/
def exitCommandMode : PS2 Bool := do
  record .exitCommandMode
  let _ ← submitRequestAndBlock [sendByte kDPSetMouseStreamMode]
  return true

/-- `commandModeSendNibble`: the command byte of the nibble's table entry, its data
    byte when the entry sends one, and one drained read per byte it receives. -/
def commandModeSendNibble (p : Profile) (nibble : Nat) : PS2 Bool := do
  let entry := p.nibbleCommands.getD nibble ⟨0, 0⟩
  let send := (entry.command >>> 12) &&& 0xf
  let receive := (entry.command >>> 8) &&& 0xf
  if send > 1 ∨ send + receive + 1 > 2 then
    return false
  let request := [sendByte (entry.command &&& 0xff).toUInt8] ++
    (if send > 0 then [sendByte entry.data] else []) ++ List.replicate receive readPort
  let reply ← submitRequestAndBlock request
  return reply.commandsCount == request.length

/-- The loop of `commandModeSetAddr` over the address nibbles, most significant first. -/
def sendNibbles (p : Profile) : List Nat → PS2 Bool
  | [] => return true
  | nibble :: rest => do
      if !(← commandModeSendNibble p nibble) then
        return false
      sendNibbles p rest

/-- The four nibbles of a 16-bit address, `(addr >> i) & 0xf` for `i = 12, 8, 4, 0`. -/
def addrNibbles (addr : Nat) : List Nat :=
  [(addr >>> 12) &&& 0xf, (addr >>> 8) &&& 0xf, (addr >>> 4) &&& 0xf, addr &&& 0xf]

/-- `commandModeSetAddr`: the address command, then the address nibbles. -/
def commandModeSetAddr (p : Profile) (addr : Nat) : PS2 Bool := do
  let reply ← submitRequestAndBlock [sendByte p.addrCommand]
  if reply.commandsCount != 1 then
    return false
  sendNibbles p (addrNibbles addr)

/-- The body of `commandModeReadReg`: `-1` when the address cannot be set, the
    `GetInfo` exchange is short or its echo is not the address; the third answer
    byte otherwise. -/
def readRegBody (p : Profile) (addr : Nat) : PS2 Int := do
  if !(← commandModeSetAddr p addr) then
    return -1
  let reply ← submitRequestAndBlock [sendByte kDPGetMouseInformation, readPort, readPort, readPort]
  if reply.commandsCount != 4 then
    return -1
  if addr != ((reply.inOrOut 1).toNat <<< 8 ||| (reply.inOrOut 2).toNat) then
    return -1
  return (reply.inOrOut 3).toNat

/-- `commandModeReadReg`, recording the value it returns. -/
def commandModeReadReg (p : Profile) (addr : Nat) : PS2 Int := do
  let value ← readRegBody p addr
  record (.readReg addr value)
  return value

/-- `commandModeWriteReg(UInt8 value)`: the high nibble, then the low one. -/
def commandModeWriteReg (p : Profile) (value : UInt8) : PS2 Bool := do
  record (.writeReg value)
  if !(← commandModeSendNibble p ((value >>> 4) &&& 0xf).toNat) then
    return false
  if !(← commandModeSendNibble p (value &&& 0xf).toNat) then
    return false
  return true

/-- `commandModeWriteReg(int addr, UInt8 value)`. -/
def commandModeWriteRegAt (p : Profile) (addr : Nat) (value : UInt8) : PS2 Bool := do
  if !(← commandModeSetAddr p addr) then
    return false
  commandModeWriteReg p value

/-- `setSampleRateAndResolution`. -/
def setSampleRateAndResolution (rate res : UInt8) : PS2 Bool := do
  let request := [sendByte kDPSetMouseSampleRate, sendByte rate, sendByte kDPSetMouseResolution,
    sendByte res, sendByte kDPEnable]
  let reply ← submitRequestAndBlock request
  return reply.commandsCount == request.length

/-- `resetMouse`. -/
def resetMouse : PS2 Bool := do
  let reply ← submitRequestAndBlock [sendByte kDPReset, readPort, readPort]
  return !(reply.inOrOut 1 != kSCReset && reply.inOrOut 2 != kSCID)

/-! ### Frame lemmas

Which routines can call `enterCommandMode` or `exitCommandMode`: the protocol
primitives add only register reads and writes to the trace. -/

/-- A call that opens or closes command mode. -/
def Call.isModeCall : Call → Bool
  | .enterCommandMode | .exitCommandMode => true
  | _ => false

/-- A routine whose calls are all register reads and writes. -/
def NoModeCalls {α : Type} (m : PS2 α) : Prop :=
  ∀ b, ∃ cs, (m b).2.calls = b.calls ++ cs ∧ ∀ c ∈ cs, c.isModeCall = false

namespace NoModeCalls

theorem pure {α : Type} (a : α) : NoModeCalls (pure a : PS2 α) :=
  fun b => ⟨[], by simp [Pure.pure, StateT.pure], nofun⟩

theorem submit (request : Request) : NoModeCalls (submitRequestAndBlock request) :=
  fun b => ⟨[], by simp, nofun⟩

theorem record {c : Call} (h : c.isModeCall = false) : NoModeCalls (AlpsGlidePoint.record c) :=
  fun b => ⟨[c], by simp, by simpa using h⟩

theorem bind {α β : Type} {m : PS2 α} {f : α → PS2 β} (hm : NoModeCalls m)
    (hf : ∀ a, NoModeCalls (f a)) : NoModeCalls (m >>= f) := by
  intro b
  obtain ⟨cs, hcs, hok⟩ := hm b
  obtain ⟨ds, hds, hok'⟩ := hf (m b).1 (m b).2
  refine ⟨cs ++ ds, ?_, ?_⟩
  · show (f (m b).1 (m b).2).2.calls = _
    rw [hds, hcs, List.append_assoc]
  · intro c hc
    rcases List.mem_append.1 hc with hc | hc
    · exact hok c hc
    · exact hok' c hc

theorem ite {α : Type} {c : Prop} [Decidable c] {m m' : PS2 α} (hm : NoModeCalls m)
    (hm' : NoModeCalls m') : NoModeCalls (if c then m else m') := by
  split <;> assumption

end NoModeCalls

end AlpsGlidePoint
