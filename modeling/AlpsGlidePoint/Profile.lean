import AlpsGlidePoint.Ps2

/-! # Device profiles

The identification half of `modelData`: the protocol version, the packet sync
signature, the coordinate ranges and the command-mode table, fixed once per session
by `matchTable` or by the version heuristics of `identify`, both through
`setDefaults`. The packet size is the one field `deviceSpecificInit` adds afterwards.
-/

namespace AlpsGlidePoint

/-- `ALPS_PROTO_V1` … `ALPS_PROTO_V5`. Pinnacle and Rushmore pads are both `v3`;
    they differ in `decode_fields` and `hw_init`. -/
inductive ProtoVersion where
  | v1 | v2 | v3 | v4 | v5
  deriving DecidableEq, Repr

def alpsDualpoint : UInt8 := 0x02
def alpsPass : UInt8 := 0x04
def alpsWheel : UInt8 := 0x08
def alpsFwBk1 : UInt8 := 0x10
def alpsFwBk2 : UInt8 := 0x20
def alpsFourButtons : UInt8 := 0x40
def alpsPs2Interleaved : UInt8 := 0x80

/-- `struct alps_nibble_commands`: the command word packs the number of data bytes
    to send in bits 12–15 and to receive in bits 8–11 above the command byte. -/
structure NibbleCommand where
  command : Nat
  data : UInt8
  deriving DecidableEq, Repr

/-- `alps_v3_nibble_commands`. -/
def alpsV3NibbleCommands : List NibbleCommand :=
  [⟨kDPMouseSetPoll.toNat, 0x00⟩, ⟨kDPSetDefaults.toNat, 0x00⟩,
   ⟨kDPSetMouseScaling2To1.toNat, 0x00⟩, ⟨kDPSetMouseSampleRate.toNat ||| 0x1000, 0x0a⟩,
   ⟨kDPSetMouseSampleRate.toNat ||| 0x1000, 0x14⟩, ⟨kDPSetMouseSampleRate.toNat ||| 0x1000, 0x28⟩,
   ⟨kDPSetMouseSampleRate.toNat ||| 0x1000, 0x3c⟩, ⟨kDPSetMouseSampleRate.toNat ||| 0x1000, 0x50⟩,
   ⟨kDPSetMouseSampleRate.toNat ||| 0x1000, 0x64⟩, ⟨kDPSetMouseSampleRate.toNat ||| 0x1000, 0xc8⟩,
   ⟨kDPCommandNibble10.toNat ||| 0x0100, 0x00⟩, ⟨kDPSetMouseResolution.toNat ||| 0x1000, 0x00⟩,
   ⟨kDPSetMouseResolution.toNat ||| 0x1000, 0x01⟩, ⟨kDPSetMouseResolution.toNat ||| 0x1000, 0x02⟩,
   ⟨kDPSetMouseResolution.toNat ||| 0x1000, 0x03⟩, ⟨kDPSetMouseScaling1To1.toNat, 0x00⟩]

/-- `alps_v4_nibble_commands`: as for v3 but nibble 0 is `kDP_Enable`. -/
def alpsV4NibbleCommands : List NibbleCommand :=
  ⟨kDPEnable.toNat, 0x00⟩ :: alpsV3NibbleCommands.tail

/-- An `ALPSStatus_t` report: the three bytes answered to a repeated command. -/
structure Report where
  byte0 : UInt8
  byte1 : UInt8
  byte2 : UInt8
  deriving DecidableEq, Repr

/-- `struct alps_model_info`. -/
structure ModelInfo where
  signature : Report
  commandModeResp : UInt8
  protoVersion : ProtoVersion
  byte0 : UInt8
  mask0 : UInt8
  flags : UInt8
  deriving DecidableEq, Repr

/-- `alps_model_data`, in table order. -/
def alpsModelData : List ModelInfo :=
  [⟨⟨0x32, 0x02, 0x14⟩, 0x00, .v2, 0xf8, 0xf8, alpsPass ||| alpsDualpoint⟩,
   ⟨⟨0x33, 0x02, 0x0a⟩, 0x00, .v1, 0x88, 0xf8, 0⟩,
   ⟨⟨0x53, 0x02, 0x0a⟩, 0x00, .v2, 0xf8, 0xf8, 0⟩,
   ⟨⟨0x53, 0x02, 0x14⟩, 0x00, .v2, 0xf8, 0xf8, 0⟩,
   ⟨⟨0x60, 0x03, 0xc8⟩, 0x00, .v2, 0xf8, 0xf8, 0⟩,
   ⟨⟨0x63, 0x02, 0x0a⟩, 0x00, .v2, 0xf8, 0xf8, 0⟩,
   ⟨⟨0x63, 0x02, 0x14⟩, 0x00, .v2, 0xf8, 0xf8, 0⟩,
   ⟨⟨0x63, 0x02, 0x28⟩, 0x00, .v2, 0xf8, 0xf8, alpsFwBk2⟩,
   ⟨⟨0x63, 0x02, 0x3c⟩, 0x00, .v2, 0x8f, 0x8f, alpsWheel⟩,
   ⟨⟨0x63, 0x02, 0x50⟩, 0x00, .v2, 0xef, 0xef, alpsFwBk1⟩,
   ⟨⟨0x63, 0x02, 0x64⟩, 0x00, .v2, 0xf8, 0xf8, 0⟩,
   ⟨⟨0x63, 0x03, 0xc8⟩, 0x00, .v2, 0xf8, 0xf8, alpsPass ||| alpsDualpoint⟩,
   ⟨⟨0x73, 0x00, 0x0a⟩, 0x00, .v2, 0xf8, 0xf8, alpsDualpoint⟩,
   ⟨⟨0x73, 0x02, 0x0a⟩, 0x00, .v2, 0xf8, 0xf8, 0⟩,
   ⟨⟨0x73, 0x02, 0x14⟩, 0x00, .v2, 0xf8, 0xf8, alpsFwBk2⟩,
   ⟨⟨0x20, 0x02, 0x0e⟩, 0x00, .v2, 0xf8, 0xf8, alpsPass ||| alpsDualpoint⟩,
   ⟨⟨0x22, 0x02, 0x0a⟩, 0x00, .v2, 0xf8, 0xf8, alpsPass ||| alpsDualpoint⟩,
   ⟨⟨0x22, 0x02, 0x14⟩, 0x00, .v2, 0xff, 0xff, alpsPass ||| alpsDualpoint⟩,
   ⟨⟨0x62, 0x02, 0x14⟩, 0x00, .v2, 0xcf, 0xcf, alpsPass ||| alpsDualpoint ||| alpsPs2Interleaved⟩,
   ⟨⟨0x73, 0x02, 0x50⟩, 0x00, .v2, 0xcf, 0xcf, alpsFourButtons⟩,
   ⟨⟨0x52, 0x01, 0x14⟩, 0x00, .v2, 0xff, 0xff, alpsPass ||| alpsDualpoint ||| alpsPs2Interleaved⟩,
   ⟨⟨0x73, 0x02, 0x64⟩, 0x8a, .v4, 0x8f, 0x8f, 0⟩]

/-- The member-function pointer `hw_init`. -/
inductive HwInit where
  | hwInitV1V2 | hwInitV3 | hwInitRushmoreV3 | hwInitV4 | hwInitDolphinV1
  deriving DecidableEq, Repr

/-- The member-function pointer `process_packet`. -/
inductive ProcessPacket where
  | processPacketV1V2 | processPacketV3 | processPacketV4
  deriving DecidableEq, Repr

/-- The member-function pointer `decode_fields`. -/
inductive DecodeFields where
  | decodePinnacle | decodeRushmore | decodeDolphin
  deriving DecidableEq, Repr

/-- The identification fields of `modelData` and the three function pointers. A
    pointer not yet set is `none`; an unset nibble table is empty. -/
structure Profile where
  protoVersion : ProtoVersion
  flags : UInt8
  byte0 : UInt8
  mask0 : UInt8
  xMax : Int
  yMax : Int
  xBits : Int
  yBits : Int
  nibbleCommands : List NibbleCommand
  addrCommand : UInt8
  pktsize : Nat
  hwInit : Option HwInit
  processPacket : Option ProcessPacket
  decodeFields : Option DecodeFields
  deriving DecidableEq, Repr

/-- `setDefaults`: the defaults of the profile's protocol version. `setupMaxes` has
    an empty body. -/
def setDefaults (p : Profile) : Profile :=
  let p := { p with byte0 := 0x8f, mask0 := 0x8f, flags := alpsDualpoint,
                    xMax := 2000, yMax := 1400, xBits := 15, yBits := 11 }
  match p.protoVersion with
  | .v1 | .v2 =>
      { p with hwInit := some .hwInitV1V2, processPacket := some .processPacketV1V2,
               xMax := 1100, yMax := 800 }
  | .v3 =>
      { p with hwInit := some .hwInitV3, processPacket := some .processPacketV3,
               decodeFields := some .decodePinnacle, nibbleCommands := alpsV3NibbleCommands,
               addrCommand := kDPMouseResetWrap }
  | .v4 =>
      { p with hwInit := some .hwInitV4, processPacket := some .processPacketV4,
               nibbleCommands := alpsV4NibbleCommands, addrCommand := kDPSetDefaultsAndDisable }
  | .v5 =>
      { p with hwInit := some .hwInitDolphinV1, processPacket := some .processPacketV3,
               decodeFields := some .decodeDolphin, nibbleCommands := alpsV3NibbleCommands,
               addrCommand := kDPMouseResetWrap, byte0 := 0xc8, mask0 := 0xc8, flags := 0,
               xMax := 1360, yMax := 660, xBits := 23, yBits := 12 }

/-- The profile `identify` selects for a Pinnacle pad, from an empty `modelData`. -/
def pinnacleProfile : Profile :=
  setDefaults ⟨.v3, 0, 0, 0, 0, 0, 0, 0, [], 0, 0, none, none, none⟩

/-- Whether a table row matches the E7 and EC reports. -/
def ModelInfo.matches (m : ModelInfo) (e7 ec : Report) : Bool :=
  m.signature == e7 && (m.commandModeResp == 0 || m.commandModeResp == ec.byte2)

/-- `matchTable`: the profile of the first matching row, or `none` when no row
    matches (and `modelData` is left alone). -/
def matchTable (p : Profile) (e7 ec : Report) : Option Profile :=
  (alpsModelData.find? (·.matches e7 ec)).map fun m =>
    { setDefaults { p with protoVersion := m.protoVersion } with
      flags := m.flags, byte0 := m.byte0, mask0 := m.mask0 }

theorem setDefaults_protoVersion (p : Profile) : (setDefaults p).protoVersion = p.protoVersion := by
  cases p with | mk v => cases v <;> rfl

/-- The sync byte and mask of every profile `setDefaults` produces have bit 7 set. -/
theorem setDefaults_sync (p : Profile) :
    (setDefaults p).byte0 &&& 0x80 = 0x80 ∧ (setDefaults p).mask0 &&& 0x80 = 0x80 := by
  cases p with | mk v => cases v <;> simp only [setDefaults] <;> decide

/-- Every row of the model table has bit 7 set in its sync byte and mask. -/
theorem alpsModelData_sync : ∀ m ∈ alpsModelData, m.byte0 &&& 0x80 = 0x80 ∧ m.mask0 &&& 0x80 = 0x80 := by
  decide

theorem matchTable_sync {p q : Profile} {e7 ec : Report} (h : matchTable p e7 ec = some q) :
    q.byte0 &&& 0x80 = 0x80 ∧ q.mask0 &&& 0x80 = 0x80 := by
  obtain ⟨m, hm, rfl⟩ := Option.map_eq_some'.1 h
  exact alpsModelData_sync m (List.mem_of_find?_eq_some hm)

end AlpsGlidePoint
