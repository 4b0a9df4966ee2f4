import AlpsGlidePoint.CommandMode

/-! # Initialization and identification

The init sequences of each pad generation, `identify` and `deviceSpecificInit`.
The source's `goto error` labels become the shared error tails `initError` (leave
command mode, fail) and the explicit `error:` blocks of the trackstick helpers; every
`&&` chain keeps its short-circuit order.
-/

namespace AlpsGlidePoint

/-- `IOReturn` values the init routines produce. -/
inductive IOReturn where
  | success | ioError | noDevice | invalid
  deriving DecidableEq, Repr

def alpsRegBaseRushmore : Nat := 0xc2c0
def alpsRegBasePinnacle : Nat := 0x0000

/-- The `error:` tail of `hwInitV3`, `hwInitRushmoreV3` and `hwInitV4`. -/
def initError : PS2 Bool := do
  let _ ← exitCommandMode
  return false

/-- `passthroughModeV3`. -/
def passthroughModeV3 (p : Profile) (regBase : Nat) (enable : Bool) : PS2 Bool := do
  if !(← enterCommandMode) then
    return false
  let regVal ← commandModeReadReg p (regBase + 0x0008)
  let ret ← if regVal == -1 then pure false
    else commandModeWriteReg p (if enable then toByte regVal ||| 0x01 else toByte regVal &&& ~~~0x01)
  if !(← exitCommandMode) then
    return false
  return ret

/-- `absoluteModeV3`. -/
def absoluteModeV3 (p : Profile) : PS2 Bool := do
  let regVal ← commandModeReadReg p 0x0004
  if regVal == -1 then
    return false
  if !(← commandModeWriteReg p (toByte regVal ||| 0x06)) then
    return false
  return true

/-- `absoluteModeV4`. -/
def absoluteModeV4 (p : Profile) : PS2 Bool := do
  let regVal ← commandModeReadReg p 0x0004
  if regVal == -1 then
    return false
  if !(← commandModeWriteReg p (toByte regVal ||| 0x02)) then
    return false
  return true

/-- The body of `probeTrackstickV3` up to its `error:` label. A failed read is taken
    as an absent trackstick; bit 7 of the register says one is present. -/
def probeTrackstickBody (p : Profile) (regBase : Nat) : PS2 IOReturn := do
  if !(← enterCommandMode) then
    return .ioError
  let regVal ← commandModeReadReg p (regBase + 0x08)
  if regVal == -1 then
    return .noDevice
  return if toByte regVal &&& 0x80 != 0 then .success else .noDevice

/-- `probeTrackstickV3`. -/
def probeTrackstickV3 (p : Profile) (regBase : Nat) : PS2 IOReturn := do
  let ret ← probeTrackstickBody p regBase
  let _ ← exitCommandMode
  return ret

/-- The body of `setupTrackstickV3` between passthrough on and its `error:` label. -/
def setupTrackstickBody (p : Profile) (regBase : Nat) : PS2 IOReturn := do
  let (ok, _) ← repeatCmd 0 0 kDPSetMouseScaling2To1
  if !ok then
    return .noDevice
  let reply ← submitRequestAndBlock
    [sendByte kDPSetMouseScaling1To1, sendByte kDPSetMouseScaling1To1, sendByte kDPSetMouseScaling1To1]
  if reply.commandsCount != 3 then
    return .ioError
  if !(← commandModeSendNibble p 0x9) then
    return .ioError
  if !(← commandModeSendNibble p 0x4) then
    return .ioError
  if !(← enterCommandMode) then
    return .ioError
  if !(← commandModeWriteRegAt p (regBase + 0x0008) 0x82) then
    return .ioError
  if !(← exitCommandMode) then
    return .ioError
  return .success

/-- `setupTrackstickV3`. -/
def setupTrackstickV3 (p : Profile) (regBase : Nat) : PS2 IOReturn := do
  if !(← passthroughModeV3 p regBase true) then
    return .ioError
  let ret ← setupTrackstickBody p regBase
  if !(← passthroughModeV3 p regBase false) then
    return .ioError
  return ret

/-- A run of `if (!commandModeWriteReg(addr, value)) goto error;` statements: the
    writes in order, stopping at the first that fails. -/
def commandModeWriteRegs (p : Profile) : List (Nat × UInt8) → PS2 Bool
  | [] => return true
  | (addr, value) :: rest => do
      if !(← commandModeWriteRegAt p addr value) then
        return false
      commandModeWriteRegs p rest

/-- `hwInitV3`. The read of register `0x0007` is only logged when it fails. -/
def hwInitV3 (p : Profile) : PS2 Bool := do
  let regVal ← probeTrackstickV3 p alpsRegBasePinnacle
  if regVal == .ioError then
    return (← initError)
  if regVal == .success then
    if (← setupTrackstickV3 p alpsRegBasePinnacle) == .ioError then
      return (← initError)
  if !(← enterCommandMode) then
    return (← initError)
  if !(← absoluteModeV3 p) then
    return (← initError)
  let regVal ← commandModeReadReg p 0x0006
  if regVal == -1 then
    return (← initError)
  if !(← commandModeWriteReg p (toByte regVal ||| 0x01)) then
    return (← initError)
  let regVal ← commandModeReadReg p 0x0007
  if !(← commandModeWriteReg p (toByte regVal ||| 0x01)) then
    return (← initError)
  if (← commandModeReadReg p 0x0144) == -1 then
    return (← initError)
  if !(← commandModeWriteReg p 0x04) then
    return (← initError)
  if (← commandModeReadReg p 0x0159) == -1 then
    return (← initError)
  if !(← commandModeWriteReg p 0x03) then
    return (← initError)
  if (← commandModeReadReg p 0x0163) == -1 then
    return (← initError)
  if !(← commandModeWriteRegAt p 0x0163 0x03) then
    return (← initError)
  if (← commandModeReadReg p 0x0162) == -1 then
    return (← initError)
  if !(← commandModeWriteRegAt p 0x0162 0x04) then
    return (← initError)
  let _ ← exitCommandMode
  if !(← setSampleRateAndResolution 0x28 0x02) then
    return false
  return true

/-- `hwInitRushmoreV3`, with the profile whose trackstick flag it may clear. -/
def hwInitRushmoreV3 (p : Profile) : PS2 (Bool × Profile) := do
  let mut p := p
  if p.flags &&& alpsDualpoint != 0 then
    let regVal ← setupTrackstickV3 p alpsRegBaseRushmore
    if regVal == .ioError then
      return (← initError, p)
    if regVal == .noDevice then
      p := { p with flags := p.flags &&& ~~~alpsDualpoint }
  if !(← enterCommandMode) then
    return (← initError, p)
  if (← commandModeReadReg p 0xc2d9) == -1 then
    return (← initError, p)
  if !(← commandModeWriteRegAt p 0xc2cb 0x00) then
    return (← initError, p)
  let regVal ← commandModeReadReg p 0xc2c6
  if regVal == -1 then
    return (← initError, p)
  if !(← commandModeWriteReg p (toByte regVal &&& 0xfd)) then
    return (← initError, p)
  if !(← commandModeWriteRegAt p 0xc2c9 0x64) then
    return (← initError, p)
  let regVal ← commandModeReadReg p 0xc2c4
  if regVal == -1 then
    return (← initError, p)
  if !(← commandModeWriteReg p (toByte regVal ||| 0x02)) then
    return (← initError, p)
  let _ ← exitCommandMode
  let reply ← submitRequestAndBlock [sendByte kDPEnable]
  return (reply.commandsCount == 1, p)

/-- `hwInitV4`. -/
def hwInitV4 (p : Profile) : PS2 Bool := do
  if !(← enterCommandMode) then
    return (← initError)
  if !(← absoluteModeV4 p) then
    return (← initError)
  if !(← commandModeWriteRegs p [(0x0007, 0x8c), (0x0149, 0x03), (0x0160, 0x03), (0x017f, 0x15),
      (0x0151, 0x01), (0x0168, 0x03), (0x014a, 0x03), (0x0161, 0x03)]) then
    return (← initError)
  let _ ← exitCommandMode
  let reply ← submitRequestAndBlock [sendByte kDPSetMouseSampleRate, sendByte 0xc8,
    sendByte kDPSetMouseSampleRate, sendByte 0x64, sendByte kDPSetMouseSampleRate, sendByte 0x50,
    sendByte kDPGetId]
  if reply.commandsCount != 7 then
    return false
  if !(← setSampleRateAndResolution 0x64 0x02) then
    return false
  return true

/-- A request of plain command bytes that succeeds when all of them complete. -/
def sendCommands (bytes : List UInt8) : PS2 Bool := do
  let reply ← submitRequestAndBlock (bytes.map sendByte)
  return reply.commandsCount == bytes.length

/-- `getStatus`. -/
def getStatus : PS2 Bool := do
  return (← repeatCmd 0 0 kDPSetDefaultsAndDisable).1

/-- `tapMode`. -/
def tapMode (enable : Bool) : PS2 Bool := do
  let cmd := if enable then kDPSetMouseSampleRate else kDPSetMouseResolution
  let tapArg : UInt8 := if enable then 0x0a else 0x00
  let reply ← submitRequestAndBlock [sendByte kDPGetMouseInformation, readPort, readPort, readPort,
    sendByte kDPSetDefaultsAndDisable, sendByte kDPSetDefaultsAndDisable, sendByte cmd, sendByte tapArg]
  if reply.commandsCount != 8 then
    return false
  getStatus

/-- `passthroughModeV2`. -/
def passthroughModeV2 (enable : Bool) : PS2 Bool :=
  let cmd := if enable then kDPSetMouseScaling2To1 else kDPSetMouseScaling1To1
  sendCommands [cmd, cmd, cmd, kDPSetDefaultsAndDisable]

/-- `v1v2MagicEnable`: four disables before the enable. -/
def v1v2MagicEnable : PS2 Bool :=
  sendCommands [kDPSetDefaultsAndDisable, kDPSetDefaultsAndDisable, kDPSetDefaultsAndDisable,
    kDPSetDefaultsAndDisable, kDPEnable]

/-- `absoluteModeV1V2`. -/
def absoluteModeV1V2 : PS2 Bool := do
  if !(← v1v2MagicEnable) then
    return false
  sendCommands [kDPMouseSetPoll]

/-- `hwInitV1V2`. -/
def hwInitV1V2 (p : Profile) : PS2 Bool := do
  if p.flags &&& alpsPass != 0 then
    if !(← passthroughModeV2 true) then
      return false
  if !(← tapMode true) then
    return false
  if !(← absoluteModeV1V2) then
    return false
  if p.flags &&& alpsPass != 0 then
    if !(← passthroughModeV2 false) then
      return false
  let _ ← v1v2MagicEnable
  return true

/-- `hwInitDolphinV1`. -/
def hwInitDolphinV1 : PS2 Bool :=
  sendCommands [0xe8, 0x00, 0xe7, 0xe7, 0xe7, 0xe9, 0xec, 0xec, 0xec, 0xe9, 0xea,
    kDPSetMouseStreamMode, kDPSetMouseSampleRate, 0x64, kDPSetMouseSampleRate, 0x28]

/-- `identify`: the E6 report must look like an ALPS pad; the E7 and EC reports are
    matched against the model table, then against the v5, Rushmore and Pinnacle
    heuristics. -/
def identify (p : Profile) : PS2 (IOReturn × Profile) := do
  let (ok6, e6) ← repeatCmd kDPSetMouseResolution 0 kDPSetMouseScaling1To1
  if !ok6 then
    return (.ioError, p)
  if e6.byte0 &&& 0xf8 != 0 || e6.byte1 != 0 || (e6.byte2 != 10 && e6.byte2 != 100) then
    return (.invalid, p)
  let (ok7, e7) ← repeatCmd kDPSetMouseResolution 0 kDPSetMouseScaling2To1
  if !ok7 then
    return (.ioError, p)
  let (okc, ec) ← repeatCmd kDPSetMouseResolution 0 kDPMouseResetWrap
  if !okc then
    return (.ioError, p)
  if !(← exitCommandMode) then
    return (.ioError, p)
  match matchTable p e7 ec with
  | some q => return (.success, q)
  | none =>
    if e7 == ⟨0x73, 0x03, 0x50⟩ && ec.byte0 == 0x73 && (ec.byte1 == 0x01 || ec.byte1 == 0x02) then
      return (.success, setDefaults { p with protoVersion := .v5 })
    if ec.byte0 == 0x88 && ec.byte1 == 0x08 then
      let q := { setDefaults { p with protoVersion := .v3 } with
        hwInit := some .hwInitRushmoreV3, decodeFields := some .decodeRushmore, xBits := 16, yBits := 12 }
      if (← probeTrackstickV3 q alpsRegBaseRushmore) != .success then
        return (.success, { q with flags := q.flags &&& ~~~alpsDualpoint })
      return (.success, q)
    if ec.byte0 == 0x88 && ec.byte1 == 0x07 && 0x90 ≤ ec.byte2 && ec.byte2 ≤ 0x9d then
      return (.success, setDefaults { p with protoVersion := .v3 })
    return (.invalid, p)

/-- The packet size `deviceSpecificInit` sets: 8 bytes for v4, 6 otherwise. -/
def withPacketSize (p : Profile) : Profile :=
  { p with pktsize := if p.protoVersion = .v4 then 8 else 6 }

/-- `(this->*hw_init)()`. -/
def runHwInit (p : Profile) : PS2 (Bool × Profile) := do
  match p.hwInit with
  | some .hwInitV1V2 => return (← hwInitV1V2 p, p)
  | some .hwInitV3 => return (← hwInitV3 p, p)
  | some .hwInitRushmoreV3 => hwInitRushmoreV3 p
  | some .hwInitV4 => return (← hwInitV4 p, p)
  | some .hwInitDolphinV1 => return (← hwInitDolphinV1, p)
  | none => return (false, p)

/-- `deviceSpecificInit`. -/
def deviceSpecificInit (p : Profile) : PS2 (Bool × Profile) := do
  let _ ← resetMouse
  let (r, p) ← identify p
  if r != .success then
    let _ ← resetMouse
    return (false, p)
  let (ok, p) ← runHwInit (withPacketSize p)
  if !ok then
    let _ ← resetMouse
    return (false, p)
  return (true, p)

end AlpsGlidePoint
