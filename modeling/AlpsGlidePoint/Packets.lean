import AlpsGlidePoint.Bitmap
import AlpsGlidePoint.Gesture

/-! # The packet processors

`processPacketV1V2`, `processPacketV3` (with `processTrackstickPacketV3` and
`processTouchpadPacketV3`) and `processPacketV4`: what each does with a complete
packet, the fields of `modelData` it keeps between packets, and the calls it makes
into the gesture machine. A v3 or v5 position packet with `first_mp` set is held in
`multi_data` until the bitmap packet that follows it; a v4 pad sends its bitmap two
bytes a packet, in three packets. The local `alps_fields f` of
`processTouchpadPacketV3` is never initialised, so what it holds is an input of the
packet.
-/

namespace AlpsGlidePoint

/-- `modelData.multi_data`: a fixed array of six bytes. -/
structure MultiData where
  bytes : List UInt8
  length_eq : bytes.length = 6
  deriving DecidableEq, Repr

namespace MultiData

/-- The six zero bytes of the zero-initialised driver. -/
def zero : MultiData := ⟨List.replicate 6 0, rfl⟩

/-- `memcpy(modelData.multi_data, packet, sizeof(modelData.multi_data))`. -/
def ofPacket (packet : List UInt8) : MultiData := ⟨(List.range 6).map fun i => packet.getD i 0, by simp⟩

/-- The first six bytes of a packet read the same from a copy of them. -/
theorem pb_ofPacket {p : List UInt8} {i : Nat} (h : i < 6) : pb (ofPacket p).bytes i = pb p i := by
  simp only [pb, ofPacket, List.getD_eq_getElem?_getD, List.getElem?_map, List.getElem?_range h, Option.map_some',
    Option.getD_some]

/-- A copy of a six-byte packet is the packet. -/
theorem ofPacket_bytes {p : List UInt8} (h : p.length = 6) : (ofPacket p).bytes = p := by
  apply List.ext_getElem (by rw [(ofPacket p).length_eq, h])
  intro i h1 h2
  simp only [ofPacket, List.getElem_map, List.getElem_range, List.getD_eq_getElem _ _ h2]

end MultiData

/-- Whether a packet decodes as a bitmap packet depends on its first six bytes
    alone, not on what the local held. -/
theorem Profile.decode_isMp_ofPacket (pr : Profile) (hd : pr.decodeFields.isSome) (f f' : AlpsFields)
    (p : List UInt8) : (pr.decode f (MultiData.ofPacket p).bytes).isMp = (pr.decode f' p).isMp := by
  unfold Profile.decode
  rcases h : pr.decodeFields with _ | _ | _ | _
  · simp [h] at hd
  all_goals simp only [decodePinnacle, decodeRushmore, decodeDolphin, decodePositionV3, decodeButtonsV3,
    MultiData.pb_ofPacket (show 0 < 6 by decide), MultiData.pb_ofPacket (show 5 < 6 by decide)]
  all_goals first | rfl | (split <;> rfl)

/-- The fields of `modelData` the packet processors keep between packets.
    `quirkTrackstickButtons` is the `ALPS_QUIRK_TRACKSTICK_BUTTONS` bit of
    `modelData.quirks`. -/
structure ModelData where
  multiPacket : Int
  multiData : MultiData
  secondTouch : Int
  quirkTrackstickButtons : Bool
  prevFin : Bool
  fingers : Int
  deriving DecidableEq, Repr

/-- A call a packet processor makes, in order: `dispatchEventsWithInfo`, the writes
    of the driver's `ignoreall` and `lastbuttons` by a trackstick packet, the switch
    to `MODE_DRAG` of a v1/v2 tap-and-drag, and an event sent to the system
    directly. -/
inductive PacketCall where
  | dispatchEventsWithInfo (xraw yraw z fingers : Int) (buttonsraw : UInt32)
  | trackstick (ignoreall : Bool) (lastbuttons : UInt32)
  | forceDrag
  | event (e : Event)
  deriving DecidableEq, Repr

/-- What one packet does: `modelData` after it, the calls it made and, as ghost
    data, the indices of the `multi_data` writes of a v4 packet, the `second_touch`
    and fields `processBitmap` was called with, and whether the `multipacket size > 2`
    warning was logged. -/
structure PacketResult where
  model : ModelData
  calls : List PacketCall
  writes : List Int
  bitmapCall : Option (Int × AlpsFields)
  warned : Bool

/-- A packet that returns before any call. -/
def PacketResult.done (md : ModelData) : PacketResult := ⟨md, [], [], none, false⟩

/-- A packet that leaves the multi-packet state and `second_touch` alone, writes no
    `multi_data` byte, calls no `processBitmap` and logs no warning. -/
structure PacketResult.Keeps (md : ModelData) (r : PacketResult) : Prop where
  multiPacket : r.model.multiPacket = md.multiPacket
  multiData : r.model.multiData = md.multiData
  secondTouch : r.model.secondTouch = md.secondTouch
  writes : r.writes = []
  bitmapCall : r.bitmapCall = none
  warned : r.warned = false

theorem PacketResult.done_keeps (md : ModelData) : (PacketResult.done md).Keeps md :=
  ⟨rfl, rfl, rfl, rfl, rfl, rfl⟩

/-- `buttons |= left ? 0x01 : 0; buttons |= right ? 0x02 : 0; buttons |= middle ? 0x04 : 0`. -/
def buttonBits (left right middle : Bool) : UInt32 :=
  (if left then 0x01 else 0) ||| (if right then 0x02 else 0) ||| (if middle then 0x04 else 0)

/-! ### v3 and v5 -/

/-- `(SInt8) v`, for `v < 256`. -/
def sInt8 (v : Nat) : Int := if v < 0x80 then v else (v : Int) - 0x100

/-- `processTrackstickPacketV3`, with the driver's `lastbuttons`. The pressure is
    only logged. -/
def processTrackstickPacketV3 (md : ModelData) (lastbuttons : UInt32) (packet : List UInt8) : PacketResult :=
  if pb packet 0 &&& 0x40 = 0 then .done md
  else if pb packet 1 = 0x7f ∧ pb packet 2 = 0x7f ∧ pb packet 3 = 0x7f then .done md
  else
    let x := sInt8 (((pb packet 0 &&& 0x20) <<< 2) ||| (pb packet 1 &&& 0x7f))
    let y := sInt8 (((pb packet 0 &&& 0x10) <<< 3) ||| (pb packet 2 &&& 0x7f))
    let left := bit (pb packet 3) 0x01
    let right := bit (pb packet 3) 0x02
    let middle := bit (pb packet 3) 0x04
    let md := if !md.quirkTrackstickButtons && (left || middle || right) then
      { md with quirkTrackstickButtons := true } else md
    let rawButtons := buttonBits left right middle
    let y := -y
    let (x, y) : Int × Int := if cAbs x ≥ 0x7f ∧ cAbs y ≥ 0x7f then (0, 0) else (x, y)
    let buttons := if rawButtons = 0 then lastbuttons else rawButtons
    let e := if (x = 0 ∧ y = 0) ∨ buttons &&& 0x04 = 0 then
        Event.dispatchRelativePointerEventX (x + (x >>> 1)) (y + (y >>> 1)) buttons
      else Event.dispatchScrollWheelEventX (-y) (-x) 0
    ⟨md, [.trackstick (x != 0 || y != 0) buttons, .event e], [], none, false⟩

/-- A trackstick packet changes only the quirk bit of `modelData`, and reports no
    touchpad sample and no forced drag. -/
theorem processTrackstickPacketV3_keeps (md : ModelData) (lastbuttons : UInt32) (packet : List UInt8) :
    (processTrackstickPacketV3 md lastbuttons packet).Keeps md ∧ (∀ x y z n b,
      PacketCall.dispatchEventsWithInfo x y z n b ∉ (processTrackstickPacketV3 md lastbuttons packet).calls) ∧
    PacketCall.forceDrag ∉ (processTrackstickPacketV3 md lastbuttons packet).calls := by
  unfold processTrackstickPacketV3
  by_cases h0 : pb packet 0 &&& 0x40 = 0
  · rw [if_pos h0]; exact ⟨PacketResult.done_keeps md, (fun _ _ _ _ _ h => nomatch h), fun h => nomatch h⟩
  by_cases h1 : pb packet 1 = 0x7f ∧ pb packet 2 = 0x7f ∧ pb packet 3 = 0x7f
  · rw [if_neg h0, if_pos h1]; exact ⟨PacketResult.done_keeps md, (fun _ _ _ _ _ h => nomatch h), fun h => nomatch h⟩
  rw [if_neg h0, if_neg h1]
  refine ⟨⟨?_, ?_, ?_, rfl, rfl, rfl⟩, fun _ _ _ _ _ h => ?_, fun h => ?_⟩
  iterate 3 (dsimp only; split <;> rfl)
  all_goals simp only [List.mem_cons, List.mem_singleton, reduceCtorEq, List.not_mem_nil, or_self] at h

/-- The locals of `processTouchpadPacketV3` along its body: the finger count, `f`,
    `modelData`, and the ghost record of the `processBitmap` call. -/
structure TouchpadLocals where
  fingers : Int
  f : AlpsFields
  model : ModelData
  bitmapCall : Option (Int × AlpsFields)

/-- The multi-packet branch: a bitmap packet after a held position packet decodes
    the held packet and calls `processBitmap` (whose finger count is dropped); any
    other packet abandons the sequence. -/
def multiPacketBranch (pr : Profile) (t : TouchpadLocals) : TouchpadLocals :=
  if t.model.multiPacket ≠ 0 then
    if t.f.isMp then
      let f := pr.decode t.f t.model.multiData.bytes
      let r := processBitmap pr t.model.secondTouch f
      { fingers := t.f.fingers, f := if t.f.fingers = 1 then { r.2.1 with z := 0 } else r.2.1,
        model := { t.model with secondTouch := r.2.2 }, bitmapCall := some (t.model.secondTouch, f) }
    else { t with model := { t.model with multiPacket := 0 } }
  else t

/-- The branch ends the sequence (or finds none) and leaves `f`, or keeps the held
    packet. -/
theorem multiPacketBranch_multiPacket (pr : Profile) (t : TouchpadLocals) :
    ((multiPacketBranch pr t).model.multiPacket = 0 ∧ (multiPacketBranch pr t).f = t.f) ∨
    ((multiPacketBranch pr t).model.multiPacket = t.model.multiPacket ∧ t.model.multiPacket ≠ 0 ∧
      (multiPacketBranch pr t).model.multiData = t.model.multiData) := by
  unfold multiPacketBranch; split
  · split
    · exact .inr ⟨rfl, ‹_›, rfl⟩
    · exact .inl ⟨rfl, rfl⟩
  · exact .inl ⟨by omega, rfl⟩

/-- The only call of `processBitmap` decodes the held packet, at the current
    `second_touch`. -/
theorem multiPacketBranch_bitmapCall (pr : Profile) (t : TouchpadLocals) :
    (multiPacketBranch pr t).bitmapCall = t.bitmapCall ∨
    (t.model.multiPacket ≠ 0 ∧
      (multiPacketBranch pr t).bitmapCall = some (t.model.secondTouch, pr.decode t.f t.model.multiData.bytes)) := by
  unfold multiPacketBranch; split
  · split
    · exact .inr ⟨‹_›, rfl⟩
    · exact .inl rfl
  · exact .inl rfl

theorem multiPacketBranch_secondTouch (pr : Profile) (t : TouchpadLocals) (h : t.model.secondTouch ≠ -1) :
    (multiPacketBranch pr t).model.secondTouch = t.model.secondTouch := by
  unfold multiPacketBranch; split
  · split
    · exact processBitmap_keep pr h _
    · rfl
  · rfl

theorem multiPacketBranch_secondTouch_range (pr : Profile) (t : TouchpadLocals)
    (h : -1 ≤ t.model.secondTouch ∧ t.model.secondTouch ≤ 3) :
    -1 ≤ (multiPacketBranch pr t).model.secondTouch ∧ (multiPacketBranch pr t).model.secondTouch ≤ 3 := by
  unfold multiPacketBranch; split
  · split
    · exact processBitmap_secondTouch_range pr h _
    · exact h
  · exact h

/-- The position the branch leaves in `f`: the packet's own, or on a bitmap packet
    the held packet's, with the first touch `processBitmap` assigns past its early
    return and the local's before it. -/
theorem multiPacketBranch_position (pr : Profile) (t : TouchpadLocals) :
    ((multiPacketBranch pr t).fingers = t.fingers ∧ (multiPacketBranch pr t).f = t.f) ∨
    (t.model.multiPacket ≠ 0 ∧ t.f.isMp = true ∧ (multiPacketBranch pr t).fingers = t.f.fingers ∧
      (multiPacketBranch pr t).f.x = (pr.decode t.f t.model.multiData.bytes).x ∧
      (multiPacketBranch pr t).f.y = (pr.decode t.f t.model.multiData.bytes).y ∧
      (((pr.decode t.f t.model.multiData.bytes).xMap = 0 ∨ (pr.decode t.f t.model.multiData.bytes).yMap = 0) →
        (multiPacketBranch pr t).f.x1 = (pr.decode t.f t.model.multiData.bytes).x1 ∧
        (multiPacketBranch pr t).f.y1 = (pr.decode t.f t.model.multiData.bytes).y1) ∧
      (¬((pr.decode t.f t.model.multiData.bytes).xMap = 0 ∨ (pr.decode t.f t.model.multiData.bytes).yMap = 0) →
        (multiPacketBranch pr t).f.x1 = (pr.decode t.f t.model.multiData.bytes).x ∧
        (multiPacketBranch pr t).f.y1 = (pr.decode t.f t.model.multiData.bytes).y)) := by
  unfold multiPacketBranch; split
  · split
    · obtain ⟨hx, hy, h0, h1⟩ := processBitmap_fields pr t.model.secondTouch (pr.decode t.f t.model.multiData.bytes)
      refine .inr ⟨‹_›, ‹_›, rfl, ?_⟩
      dsimp only; split <;> exact ⟨hx, hy, h0, h1⟩
    · exact .inl ⟨rfl, rfl⟩
  · exact .inl ⟨rfl, rfl⟩

/-- "Use st data when we don't have mt data". -/
def singleTouch (t : TouchpadLocals) : TouchpadLocals :=
  if t.fingers < 2 then
    { t with fingers := if t.f.z > 0 then 1 else 0, f := { t.f with x1 := t.f.x, y1 := t.f.y },
             model := { t.model with secondTouch := -1 } }
  else t

@[simp] theorem singleTouch_multiPacket (t : TouchpadLocals) :
    (singleTouch t).model.multiPacket = t.model.multiPacket := by
  unfold singleTouch; split <;> rfl

@[simp] theorem singleTouch_multiData (t : TouchpadLocals) : (singleTouch t).model.multiData = t.model.multiData := by
  unfold singleTouch; split <;> rfl

@[simp] theorem singleTouch_bitmapCall (t : TouchpadLocals) : (singleTouch t).bitmapCall = t.bitmapCall := by
  unfold singleTouch; split <;> rfl

/-- Fewer than two fingers reset `second_touch`; otherwise it stays. -/
theorem singleTouch_secondTouch (t : TouchpadLocals) :
    ((singleTouch t).fingers < 2 ∧ (singleTouch t).model.secondTouch = -1) ∨
    (2 ≤ (singleTouch t).fingers ∧ (singleTouch t).model.secondTouch = t.model.secondTouch) := by
  unfold singleTouch; split
  · exact .inl ⟨by dsimp only; split <;> omega, rfl⟩
  · exact .inr ⟨by omega, rfl⟩

/-- Fewer than two fingers report the position as the first touch. -/
theorem singleTouch_firstTouch (t : TouchpadLocals) :
    (t.fingers < 2 ∧ (singleTouch t).f.x1 = t.f.x ∧ (singleTouch t).f.y1 = t.f.y) ∨
    (2 ≤ t.fingers ∧ singleTouch t = t) := by
  unfold singleTouch; split
  · exact .inl ⟨‹_›, rfl, rfl⟩
  · exact .inr ⟨by omega, rfl⟩

/-- The touchpad buttons, with the trackstick buttons of the packet unless the
    trackstick reports its own. -/
def touchpadButtons (md : ModelData) (f : AlpsFields) : UInt32 :=
  buttonBits f.left f.right f.middle |||
    (if md.quirkTrackstickButtons then 0 else buttonBits f.tsLeft f.tsRight f.tsMiddle)

/-- `processTouchpadPacketV3`; `f₀` is what the uninitialised local `f` holds. -/
def processTouchpadPacketV3 (pr : Profile) (md : ModelData) (f₀ : AlpsFields) (packet : List UInt8) :
    PacketResult :=
  if md.multiPacket > 2 then { PacketResult.done md with warned := true }
  else
    let t := multiPacketBranch pr ⟨0, pr.decode f₀ packet, md, none⟩
    if t.f.isMp then { PacketResult.done t.model with bitmapCall := t.bitmapCall }
    else if t.model.multiPacket = 0 ∧ t.f.firstMp then
      { PacketResult.done { t.model with multiPacket := 1, multiData := .ofPacket packet } with
        bitmapCall := t.bitmapCall }
    else
      let t := singleTouch { t with model := { t.model with multiPacket := 0 } }
      ⟨t.model, [.dispatchEventsWithInfo (t.f.x1 * 3) (t.f.y1 * 3) t.f.z t.fingers (touchpadButtons t.model t.f)],
        [], t.bitmapCall, false⟩

/-- What a touchpad packet can do: log the warning, return on a bitmap packet, hold
    a `first_mp` position packet, or report one sample. -/
theorem processTouchpadPacketV3_cases (pr : Profile) (md : ModelData) (f₀ : AlpsFields) (packet : List UInt8) :
    (2 < md.multiPacket ∧ processTouchpadPacketV3 pr md f₀ packet = { PacketResult.done md with warned := true }) ∨
    (md.multiPacket ≤ 2 ∧ ∃ t, t = multiPacketBranch pr ⟨0, pr.decode f₀ packet, md, none⟩ ∧
      ((processTouchpadPacketV3 pr md f₀ packet = { PacketResult.done t.model with bitmapCall := t.bitmapCall }) ∨
       (t.model.multiPacket = 0 ∧ t.f.isMp = false ∧ processTouchpadPacketV3 pr md f₀ packet =
          { PacketResult.done { t.model with multiPacket := 1, multiData := .ofPacket packet } with
            bitmapCall := t.bitmapCall }) ∨
       (∃ t', t' = singleTouch { t with model := { t.model with multiPacket := 0 } } ∧
          processTouchpadPacketV3 pr md f₀ packet = ⟨t'.model, [.dispatchEventsWithInfo (t'.f.x1 * 3) (t'.f.y1 * 3)
            t'.f.z t'.fingers (touchpadButtons t'.model t'.f)], [], t'.bitmapCall, false⟩))) := by
  unfold processTouchpadPacketV3
  split
  · exact .inl ⟨‹_›, rfl⟩
  · refine .inr ⟨by omega, _, rfl, ?_⟩
    dsimp only
    split
    · exact .inl rfl
    · split
      · rename_i hmp h
        exact .inr (.inl ⟨h.1, by simpa using hmp, rfl⟩)
      · exact .inr (.inr ⟨_, rfl, rfl⟩)

/-- A packet that makes a call leaves the multi-packet branch with the fields of a
    position packet: a bitmap packet left in `f` returns before any call. -/
theorem processTouchpadPacketV3_calls_isMp (pr : Profile) (md : ModelData) (f₀ : AlpsFields) (packet : List UInt8)
    {c : PacketCall} (h : c ∈ (processTouchpadPacketV3 pr md f₀ packet).calls) :
    (multiPacketBranch pr ⟨0, pr.decode f₀ packet, md, none⟩).f.isMp = false := by
  unfold processTouchpadPacketV3 at h
  dsimp only at h
  split_ifs at h <;> simp_all [PacketResult.done]

/-- `processPacketV3`: trackstick packets end in `0x3f`. -/
def processPacketV3 (pr : Profile) (md : ModelData) (lastbuttons : UInt32) (f₀ : AlpsFields)
    (packet : List UInt8) : PacketResult :=
  if pb packet 5 = 0x3f then processTrackstickPacketV3 md lastbuttons packet
  else processTouchpadPacketV3 pr md f₀ packet

/-! ### v4 -/

/-- `modelData.multi_data[i] = b`. A write outside the array is recorded in the
    result's `writes` and leaves the array alone. -/
def setByte (d : MultiData) (i : Int) (b : UInt8) : MultiData :=
  ⟨if i < 0 then d.bytes else d.bytes.set i.toNat b, by split <;> simp [d.length_eq]⟩

/-- `processPacketV4`. The bitmap words computed from a completed `multi_data` are
    never used; `modelData.fingers` is set to the local `fingers`, still 0. -/
def processPacketV4 (md : ModelData) (packet : List UInt8) : PacketResult :=
  let md := if pb packet 6 &&& 0x40 ≠ 0 then { md with multiPacket := 0 } else md
  if md.multiPacket > 2 then { PacketResult.done md with warned := true }
  else
    let offset := 2 * md.multiPacket
    let data := setByte (setByte md.multiData offset (packet.getD 6 0)) (offset + 1) (packet.getD 7 0)
    let md : ModelData := { md with multiData := data, multiPacket := md.multiPacket + 1 }
    let md : ModelData := if md.multiPacket > 2 then { md with multiPacket := 0, fingers := 0 } else md
    let x : Int := ↑(((pb packet 1 &&& 0x7f) <<< 4) ||| ((pb packet 3 &&& 0x30) >>> 2) |||
      ((pb packet 0 &&& 0x30) >>> 4))
    let y : Int := ↑(((pb packet 2 &&& 0x7f) <<< 4) ||| (pb packet 3 &&& 0x0f))
    let z : Int := ↑(pb packet 5 &&& 0x7f)
    let fingers : Int := if md.fingers < 2 then (if z > 0 then 1 else 0) else md.fingers
    ⟨md, [.dispatchEventsWithInfo x y z fingers (buttonBits (bit (pb packet 4) 0x01) (bit (pb packet 4) 0x02) false)],
      [offset, offset + 1], none, false⟩

/-! ### v1 and v2 -/

/-- `processPacketV1V2`, with the driver's `z_finger`. Only the middle button of
    `ALPS_FW_BK_2` is reported of the forward and back buttons. -/
def processPacketV1V2 (zFinger : Int) (pr : Profile) (md : ModelData) (packet : List UInt8) : PacketResult :=
  let v1 := pr.protoVersion = .v1
  let left := if v1 then bit (pb packet 2) 0x10 else bit (pb packet 3) 1
  let right := if v1 then bit (pb packet 2) 0x08 else bit (pb packet 3) 2
  let middle := if v1 then false else bit (pb packet 3) 4
  let x : Int := if v1 then ↑(pb packet 1 ||| ((pb packet 0 &&& 0x07) <<< 7))
    else ↑(pb packet 1 ||| ((pb packet 2 &&& 0x78) <<< (7 - 3)))
  let y : Int := if v1 then ↑(pb packet 4 ||| ((pb packet 3 &&& 0x07) <<< 7))
    else ↑(pb packet 4 ||| ((pb packet 3 &&& 0x70) <<< (7 - 4)))
  let z : Int := pb packet 5
  let middle := if pr.flags &&& alpsFwBk2 ≠ 0 then bit (pb packet 2) 4 && bit (pb packet 3) 4 else middle
  let buttons := buttonBits left right middle
  let ges := bit (pb packet 2) 1
  let fin := bit (pb packet 2) 2
  if pr.flags &&& alpsDualpoint ≠ 0 ∧ z = 127 then
    let dx := if x > 383 then x - 768 else x
    let dy := -(if y > 255 then y - 512 else y)
    ⟨md, [.event (.dispatchRelativePointerEventX dx dy buttons)], [], none, false⟩
  else
    let z := if ges && !fin then zFinger + 1 else z
    let drag := ges && fin && !md.prevFin
    let fingers : Int := if z > 0 then (if z ≥ 98 then 2 else 1) else 0
    let scrollAmount : Int := ↑((pb packet 2 <<< 1) &&& 0x08) - ↑((pb packet 0 >>> 4) &&& 0x07)
    ⟨{ md with prevFin := fin },
      (if drag then [.forceDrag] else []) ++ [.dispatchEventsWithInfo x y z fingers buttons] ++
        (if pr.flags &&& alpsWheel ≠ 0 ∧ scrollAmount ≠ 0 then
          [.event (.dispatchScrollWheelEventX scrollAmount 0 0)] else []),
      [], none, false⟩

theorem processPacketV1V2_keeps (zFinger : Int) (pr : Profile) (md : ModelData) (packet : List UInt8) :
    (processPacketV1V2 zFinger pr md packet).Keeps md := by
  unfold processPacketV1V2; dsimp only; split <;> exact ⟨rfl, rfl, rfl, rfl, rfl, rfl⟩

/-! ### The driver -/

/-- `(this->*process_packet)(packet)`: the processor the profile's pointer names. -/
def processPacket (cfg : Config) (pr : Profile) (md : ModelData) (lastbuttons : UInt32) (f₀ : AlpsFields)
    (packet : List UInt8) : PacketResult :=
  match pr.processPacket with
  | some .processPacketV1V2 => processPacketV1V2 cfg.zFinger pr md packet
  | some .processPacketV3 => processPacketV3 pr md lastbuttons f₀ packet
  | some .processPacketV4 => processPacketV4 md packet
  | none => .done md

end AlpsGlidePoint
