import AlpsGlidePoint.Session

/-! # The multi-packet counter

`modelData.multi_packet` counts the packets of a multi-packet sequence. A v3 or v5
touchpad packet sets it to 1 when it holds a `first_mp` position packet and to 0
otherwise, or leaves it when it returns on a bitmap packet; a v4 packet advances it
and wraps it to 0 after the third fragment, or resets it on a sync bit. From 0 it
therefore stays within `0..2`: the `multipacket size > 2` returns are never taken,
and the v4 fragments are written at `multi_data[0..5]`, where three of them, from a
sync packet on, reassemble the bitmap in order.
-/

namespace AlpsGlidePoint

/-- `multi_packet` within `0..2`. -/
def MultiPacketBounded (md : ModelData) : Prop := 0 ≤ md.multiPacket ∧ md.multiPacket ≤ 2

theorem PacketResult.Keeps.bounded {md : ModelData} {r : PacketResult} (h : r.Keeps md)
    (hb : MultiPacketBounded md) : MultiPacketBounded r.model ∧ r.warned = false ∧ ∀ w ∈ r.writes, 0 ≤ w ∧ w ≤ 5 := by
  unfold MultiPacketBounded; rw [h.multiPacket, h.warned, h.writes]
  exact ⟨hb, rfl, fun _ hw => absurd hw (List.not_mem_nil _)⟩

theorem processTouchpadPacketV3_bounded (pr : Profile) {md : ModelData} (hb : MultiPacketBounded md)
    (f₀ : AlpsFields) (packet : List UInt8) :
    MultiPacketBounded (processTouchpadPacketV3 pr md f₀ packet).model ∧
    (processTouchpadPacketV3 pr md f₀ packet).warned = false ∧ (processTouchpadPacketV3 pr md f₀ packet).writes = [] := by
  unfold MultiPacketBounded at *
  rcases processTouchpadPacketV3_cases pr md f₀ packet with ⟨h, -⟩ | ⟨-, t, rfl, h | ⟨-, -, h⟩ | ⟨t', rfl, h⟩⟩
  · omega
  · have := multiPacketBranch_multiPacket pr ⟨0, pr.decode f₀ packet, md, none⟩
    dsimp only at this
    rw [h]; exact ⟨by dsimp only [PacketResult.done]; omega, rfl, rfl⟩
  · rw [h]; exact ⟨by dsimp only [PacketResult.done]; omega, rfl, rfl⟩
  · rw [h]; exact ⟨by simp, rfl, rfl⟩

/-- A v4 packet from a bounded counter writes within `multi_data[0..5]` and wraps the
    counter after the third fragment. -/
theorem processPacketV4_bounded {md : ModelData} (hb : MultiPacketBounded md) (packet : List UInt8) :
    MultiPacketBounded (processPacketV4 md packet).model ∧ (processPacketV4 md packet).warned = false ∧
    ∀ w ∈ (processPacketV4 md packet).writes, 0 ≤ w ∧ w ≤ 5 := by
  have hs : MultiPacketBounded (if pb packet 6 &&& 0x40 ≠ 0 then { md with multiPacket := 0 } else md) := by
    split
    · exact ⟨le_refl 0, by simp⟩
    · exact hb
  unfold processPacketV4
  generalize (if pb packet 6 &&& 0x40 ≠ 0 then { md with multiPacket := 0 } else md) = md' at hs ⊢
  unfold MultiPacketBounded at *
  rw [if_neg (by omega)]
  refine ⟨?_, rfl, ?_⟩
  · dsimp only; split <;> dsimp only <;> omega
  · simp only [List.mem_cons, List.mem_singleton, List.not_mem_nil, or_false]
    rintro w (rfl | rfl) <;> omega

/-- A v4 bitmap arrives two bytes a packet: from a packet with the sync bit set and
    two without, whatever the counter stood at, `multi_data` holds bytes 6 and 7 of
    each in order, and the counter and `modelData.fingers` are back to 0. -/
theorem processPacketV4_reassembles {md : ModelData} {p0 p1 p2 : List UInt8}
    (hs : pb p0 6 &&& 0x40 ≠ 0) (h1 : pb p1 6 &&& 0x40 = 0) (h2 : pb p2 6 &&& 0x40 = 0) :
    (processPacketV4 (processPacketV4 (processPacketV4 md p0).model p1).model p2).model.multiData.bytes =
      [p0.getD 6 0, p0.getD 7 0, p1.getD 6 0, p1.getD 7 0, p2.getD 6 0, p2.getD 7 0] ∧
    (processPacketV4 (processPacketV4 (processPacketV4 md p0).model p1).model p2).model.multiPacket = 0 ∧
    (processPacketV4 (processPacketV4 (processPacketV4 md p0).model p1).model p2).model.fingers = 0 := by
  obtain ⟨mp, ⟨data, h6⟩, st, q, pf, fi⟩ := md
  match data, h6 with
  | [_, _, _, _, _, _], _ => simp [processPacketV4, setByte, hs, h1, h2]

theorem processPacketV4_reassembles_fragments :
    pb [0x88, 0x10, 0x08, 0x00, 0x00, 0x30, 0x41, 0x02] 6 &&& 0x40 ≠ 0 ∧
    pb [0x88, 0x10, 0x08, 0x00, 0x00, 0x30, 0x03, 0x04] 6 &&& 0x40 = 0 ∧
    pb [0x88, 0x10, 0x08, 0x00, 0x00, 0x30, 0x05, 0x06] 6 &&& 0x40 = 0 ∧
    ((processPacketV4 (processPacketV4 (processPacketV4 ⟨2, .zero, -1, false, false, 0⟩
        [0x88, 0x10, 0x08, 0x00, 0x00, 0x30, 0x41, 0x02]).model [0x88, 0x10, 0x08, 0x00, 0x00, 0x30, 0x03, 0x04]).model
        [0x88, 0x10, 0x08, 0x00, 0x00, 0x30, 0x05, 0x06]).model.multiData.bytes =
      [0x41, 0x02, 0x03, 0x04, 0x05, 0x06] ∧
    (processPacketV4 (processPacketV4 (processPacketV4 ⟨2, .zero, -1, false, false, 0⟩
        [0x88, 0x10, 0x08, 0x00, 0x00, 0x30, 0x41, 0x02]).model [0x88, 0x10, 0x08, 0x00, 0x00, 0x30, 0x03, 0x04]).model
        [0x88, 0x10, 0x08, 0x00, 0x00, 0x30, 0x05, 0x06]).model.multiPacket = 0 ∧
    (processPacketV4 (processPacketV4 (processPacketV4 ⟨2, .zero, -1, false, false, 0⟩
        [0x88, 0x10, 0x08, 0x00, 0x00, 0x30, 0x41, 0x02]).model [0x88, 0x10, 0x08, 0x00, 0x00, 0x30, 0x03, 0x04]).model
        [0x88, 0x10, 0x08, 0x00, 0x00, 0x30, 0x05, 0x06]).model.fingers = 0) :=
  ⟨by decide, by decide, by decide, processPacketV4_reassembles (by decide) (by decide) (by decide)⟩

/-- One packet, for every profile: a bounded counter stays bounded, no warning is
    logged and every write lands in `multi_data[0..5]`. -/
theorem processPacket_bounded (cfg : Config) (pr : Profile) {md : ModelData} (hb : MultiPacketBounded md)
    (lastbuttons : UInt32) (f₀ : AlpsFields) (packet : List UInt8) :
    MultiPacketBounded (processPacket cfg pr md lastbuttons f₀ packet).model ∧
    (processPacket cfg pr md lastbuttons f₀ packet).warned = false ∧
    ∀ w ∈ (processPacket cfg pr md lastbuttons f₀ packet).writes, 0 ≤ w ∧ w ≤ 5 := by
  unfold processPacket
  split
  · exact (processPacketV1V2_keeps _ pr md packet).bounded hb
  · unfold processPacketV3; split
    · exact (processTrackstickPacketV3_keeps md lastbuttons packet).1.bounded hb
    · obtain ⟨h1, h2, h3⟩ := processTouchpadPacketV3_bounded pr hb f₀ packet
      exact ⟨h1, h2, by rw [h3]; exact fun _ hw => absurd hw (List.not_mem_nil _)⟩
  · exact processPacketV4_bounded hb packet
  · exact (PacketResult.done_keeps md).bounded hb

/-- From `multi_packet = 0`, for every profile and every run of packets: the counter
    stays within `0..2` after every packet, no packet takes the `multipacket size > 2`
    return, and every write of a v4 fragment indexes `multi_data` within `0..5`. -/
theorem multi_packet_stays_bounded (cfg : Config) (pr : Profile) {d d' : Driver} (h0 : d.model.multiPacket = 0)
    (h : Driver.Reaches cfg pr d d') (i : PacketInput) :
    (0 ≤ d'.model.multiPacket ∧ d'.model.multiPacket ≤ 2) ∧
    (processPacket cfg pr d'.model d'.touch.lastbuttons i.fInit i.packet).warned = false ∧
    ∀ w ∈ (processPacket cfg pr d'.model d'.touch.lastbuttons i.fInit i.packet).writes, 0 ≤ w ∧ w ≤ 5 := by
  have hb : MultiPacketBounded d'.model :=
    h.model_invariant (fun _ _ _ _ hb => (processPacket_bounded cfg pr hb _ _ _).1) ⟨h0.ge, by omega⟩
  exact ⟨hb, (processPacket_bounded cfg pr hb _ _ _).2⟩

theorem multi_packet_stays_bounded_pinnacle :
    pinnacleStart.model.multiPacket = 0 ∧ Driver.Reaches tapConfig pinnacleProfile pinnacleStart pinnacleHeld ∧
    ((0 ≤ pinnacleHeld.model.multiPacket ∧ pinnacleHeld.model.multiPacket ≤ 2) ∧
      (processPacket tapConfig pinnacleProfile pinnacleHeld.model pinnacleHeld.touch.lastbuttons
        (default : AlpsFields) twoFingerBitmap).warned = false ∧
      ∀ w ∈ (processPacket tapConfig pinnacleProfile pinnacleHeld.model pinnacleHeld.touch.lastbuttons
        (default : AlpsFields) twoFingerBitmap).writes, 0 ≤ w ∧ w ≤ 5) :=
  ⟨rfl, .step _ .refl, multi_packet_stays_bounded tapConfig pinnacleProfile rfl (.step _ .refl)
    ⟨envAt 1050000000, default, twoFingerBitmap⟩⟩

end AlpsGlidePoint
