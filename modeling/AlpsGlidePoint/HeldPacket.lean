import AlpsGlidePoint.SecondTouch

/-! # The packet a bitmap is read with

A v3 or v5 bitmap packet is read together with the position packet held before it:
`processTouchpadPacketV3` decodes the bitmap packet, decodes the held packet over it,
and calls `processBitmap` with the result. Every packet the driver holds is a position
packet. Pinnacle and Rushmore decoders assign only the position from a position
packet, so there the call gets the bitmap packet's bitmaps and the held packet's
position. The Dolphin decoder assigns every field from every packet: its bitmaps come
from the held position packet, and those of the bitmap packet are lost.
-/

namespace AlpsGlidePoint

/-- While a sequence is open, the held packet decodes as a position packet, over
    whatever the local held. -/
def HoldsPosition (pr : Profile) (md : ModelData) : Prop :=
  md.multiPacket ≠ 0 → ∀ f, (pr.decode f md.multiData.bytes).isMp = false

/-! ### The `processBitmap` call -/

theorem multiPacketBranch_call (pr : Profile) (t : TouchpadLocals) (h0 : t.bitmapCall = none) :
    (multiPacketBranch pr t).bitmapCall = none ∨
    (t.model.multiPacket ≠ 0 ∧ t.f.isMp = true ∧
      (multiPacketBranch pr t).bitmapCall = some (t.model.secondTouch, pr.decode t.f t.model.multiData.bytes)) := by
  unfold multiPacketBranch; split
  · split
    · exact .inr ⟨‹_›, ‹_›, rfl⟩
    · exact .inl h0
  · exact .inl h0

/-- A v3 or v5 packet calls `processBitmap` only on a bitmap packet in an open
    sequence, with the held packet decoded over the bitmap packet. -/
theorem processPacketV3_bitmapCall (pr : Profile) (md : ModelData) (lb : UInt32) (f₀ : AlpsFields)
    (packet : List UInt8) :
    (processPacketV3 pr md lb f₀ packet).bitmapCall = none ∨
    (md.multiPacket ≠ 0 ∧ (pr.decode f₀ packet).isMp = true ∧
      (processPacketV3 pr md lb f₀ packet).bitmapCall =
        some (md.secondTouch, pr.decode (pr.decode f₀ packet) md.multiData.bytes)) := by
  unfold processPacketV3; split
  · exact .inl (processTrackstickPacketV3_keeps md lb packet).1.bitmapCall
  · have hcall := multiPacketBranch_call pr ⟨0, pr.decode f₀ packet, md, none⟩ rfl
    rcases processTouchpadPacketV3_cases pr md f₀ packet with ⟨-, hr⟩ | ⟨-, t, rfl, hr | ⟨-, -, hr⟩ | ⟨t', rfl, hr⟩⟩ <;>
      rw [hr]
    · exact .inl rfl
    all_goals simpa only [singleTouch_bitmapCall] using hcall

/-- A bitmap packet in an open sequence calls `processBitmap` with the held packet
    decoded over it. -/
theorem processPacketV3_bitmapCall_of_mp (pr : Profile) {md : ModelData} (hm : md.multiPacket ≠ 0)
    (hm2 : md.multiPacket ≤ 2) (lb : UInt32) (f₀ : AlpsFields) {packet : List UInt8} (h5 : pb packet 5 ≠ 0x3f)
    (hmp : (pr.decode f₀ packet).isMp = true) :
    (processPacketV3 pr md lb f₀ packet).bitmapCall =
      some (md.secondTouch, pr.decode (pr.decode f₀ packet) md.multiData.bytes) := by
  have hbranch : (multiPacketBranch pr ⟨0, pr.decode f₀ packet, md, none⟩).bitmapCall =
      some (md.secondTouch, pr.decode (pr.decode f₀ packet) md.multiData.bytes) := by
    unfold multiPacketBranch; rw [if_pos hm, if_pos hmp]
  rw [processPacketV3, if_neg h5]
  rcases processTouchpadPacketV3_cases pr md f₀ packet with ⟨h, -⟩ | ⟨-, t, rfl, hr | ⟨-, -, hr⟩ | ⟨t', rfl, hr⟩⟩
  · exact absurd h (by omega)
  all_goals rw [hr]; simpa only [singleTouch_bitmapCall] using hbranch

/-! ### The held packet -/

/-- A v3 or v5 packet holds only position packets. -/
theorem processPacketV3_holdsPosition (pr : Profile) (hd : pr.decodeFields.isSome) {md : ModelData}
    (h : HoldsPosition pr md) (lb : UInt32) (f₀ : AlpsFields) (packet : List UInt8) :
    HoldsPosition pr (processPacketV3 pr md lb f₀ packet).model := by
  unfold processPacketV3; split
  · have hk := (processTrackstickPacketV3_keeps md lb packet).1
    intro hm; rw [hk.multiData]; exact h (hk.multiPacket ▸ hm)
  · rcases processTouchpadPacketV3_cases pr md f₀ packet with ⟨-, hr⟩ | ⟨-, t, ht, hr | ⟨h0, hmp, hr⟩ | ⟨t', rfl, hr⟩⟩ <;>
      rw [hr] <;> dsimp only [PacketResult.done, HoldsPosition]
    · exact h
    · rcases ht ▸ multiPacketBranch_multiPacket pr ⟨0, pr.decode f₀ packet, md, none⟩ with ⟨h0, -⟩ | ⟨hm, -, hd'⟩
      · exact fun hm => absurd h0 hm
      · rw [hd', hm]; exact h
    · rcases ht ▸ multiPacketBranch_multiPacket pr ⟨0, pr.decode f₀ packet, md, none⟩ with ⟨-, hf⟩ | ⟨hm, hne, -⟩
      · intro _ f
        rw [Profile.decode_isMp_ofPacket pr hd f f₀, ← hmp, hf]
      · exact absurd (hm.symm.trans h0) hne
    · intro hm; simp at hm

/-- Along every run of a v3 or v5 pad from a closed sequence, the held packet is a
    position packet. -/
theorem Driver.Reaches.holdsPosition {cfg : Config} {pr : Profile} (hv : pr.processPacket = some .processPacketV3)
    (hd : pr.decodeFields.isSome) {md : ModelData} (h0 : md.multiPacket = 0) {d : Driver}
    (h : Driver.Reaches cfg pr ⟨md, TouchState.initial⟩ d) : HoldsPosition pr d.model :=
  h.model_invariant (fun _ _ _ _ hp => by unfold processPacket; rw [hv]; exact processPacketV3_holdsPosition pr hd hp _ _ _)
    (fun hm => absurd h0 hm)

/-! ### Pinnacle and Rushmore -/

/-- A Pinnacle or Rushmore position packet assigns the position from its own bytes
    and leaves the bitmaps. -/
theorem decode_position_v3 {pr : Profile}
    (hd : pr.decodeFields = some .decodePinnacle ∨ pr.decodeFields = some .decodeRushmore)
    {f : AlpsFields} {p : List UInt8} (hmp : (pr.decode f p).isMp = false) (g : AlpsFields) :
    (pr.decode f p).xMap = f.xMap ∧ (pr.decode f p).yMap = f.yMap ∧
    (pr.decode f p).x = (pr.decode g p).x ∧ (pr.decode f p).y = (pr.decode g p).y := by
  unfold Profile.decode at *
  rcases hd with h | h <;> rw [h] at hmp ⊢
  · unfold decodePinnacle at hmp ⊢; dsimp only at hmp ⊢
    split at hmp
    · exact absurd hmp (by simp_all)
    · rw [if_neg ‹_›, if_neg ‹_›]; exact ⟨rfl, rfl, rfl, rfl⟩
  · unfold decodeRushmore at hmp ⊢; dsimp only at hmp ⊢
    split at hmp
    · exact absurd hmp (by simp_all)
    · rw [if_neg ‹_›, if_neg ‹_›]; exact ⟨rfl, rfl, rfl, rfl⟩

/-- On a Pinnacle or Rushmore pad, along every run of packets from a closed
    sequence, every `processBitmap` call is made on a bitmap packet, at the current
    `second_touch`, with the bitmaps of the bitmap packet and the position of the held
    packet. -/
theorem v3_bitmap_call_pairs_packets (cfg : Config) (pr : Profile) (hv : pr.processPacket = some .processPacketV3)
    (hd : pr.decodeFields = some .decodePinnacle ∨ pr.decodeFields = some .decodeRushmore)
    {md : ModelData} (h0 : md.multiPacket = 0) {d : Driver} (h : Driver.Reaches cfg pr ⟨md, TouchState.initial⟩ d)
    (f₀ : AlpsFields) (packet : List UInt8) {st : Int} {F : AlpsFields}
    (hcall : (processPacket cfg pr d.model d.touch.lastbuttons f₀ packet).bitmapCall = some (st, F)) :
    (pr.decode f₀ packet).isMp = true ∧ st = d.model.secondTouch ∧
    F.xMap = (pr.decode f₀ packet).xMap ∧ F.yMap = (pr.decode f₀ packet).yMap ∧
    ∀ g, F.x = (pr.decode g d.model.multiData.bytes).x ∧ F.y = (pr.decode g d.model.multiData.bytes).y := by
  have hs : pr.decodeFields.isSome := by rcases hd with h | h <;> simp [h]
  unfold processPacket at hcall; rw [hv] at hcall
  rcases processPacketV3_bitmapCall pr d.model d.touch.lastbuttons f₀ packet with hn | ⟨hm, hmp, hc⟩
  · rw [hn] at hcall; cases hcall
  · obtain ⟨rfl, rfl⟩ := Prod.mk.inj (Option.some.inj (hc.symm.trans hcall))
    have hpos := decode_position_v3 hd (h.holdsPosition hv hs h0 hm (pr.decode f₀ packet))
    exact ⟨hmp, rfl, (hpos f₀).1, (hpos f₀).2.1, fun g => (hpos g).2.2⟩

theorem v3_bitmap_call_pairs_packets_held :
    pinnacleProfile.processPacket = some .processPacketV3 ∧ pinnacleProfile.decodeFields = some .decodePinnacle ∧
    pinnacleStart.model.multiPacket = 0 ∧ Driver.Reaches tapConfig pinnacleProfile pinnacleStart pinnacleHeld ∧
    (processPacket tapConfig pinnacleProfile pinnacleHeld.model pinnacleHeld.touch.lastbuttons default
      emptyColumns).bitmapCall = some (0, pinnacleProfile.decode (pinnacleProfile.decode default emptyColumns) heldPosition) ∧
    (pinnacleProfile.decode (pinnacleProfile.decode default emptyColumns) heldPosition).x =
      (pinnacleProfile.decode default pinnacleHeld.model.multiData.bytes).x :=
  have hreach : Driver.Reaches tapConfig pinnacleProfile pinnacleStart pinnacleHeld := .step _ .refl
  have hcall : (processPacket tapConfig pinnacleProfile pinnacleHeld.model pinnacleHeld.touch.lastbuttons default
      emptyColumns).bitmapCall = some (0, pinnacleProfile.decode (pinnacleProfile.decode default emptyColumns) heldPosition) := by
    decide
  ⟨rfl, rfl, rfl, hreach, hcall,
    ((v3_bitmap_call_pairs_packets tapConfig pinnacleProfile rfl (.inl rfl) rfl hreach default emptyColumns hcall).2.2.2.2
      default).1⟩

/-! ### Dolphin -/

/-- The profile `identify` selects for a Dolphin pad, from an empty `modelData`. -/
def dolphinProfile : Profile :=
  setDefaults ⟨.v5, 0, 0, 0, 0, 0, 0, 0, [], 0, 0, none, none, none⟩

/-- A Dolphin position packet with `first_mp` set, at `(16, 8)` with pressure 48. -/
def dolphinPosition : List UInt8 := [0xca, 0x10, 0x08, 0x00, 0x00, 0x30]

theorem decode_dolphinPosition (f : AlpsFields) :
    dolphinProfile.decode f dolphinPosition =
      { f with firstMp := true, isMp := false, fingers := 1, xMap := 0x6000, yMap := 0x410, x := 16, y := 8, z := 48,
               left := false, right := false, middle := false, tsLeft := false, tsRight := false, tsMiddle := false } :=
  rfl

/-- A Dolphin bitmap packet for two fingers, one contact at x bits 2 and 3 and
    y bit 0. -/
def dolphinBitmap : List UInt8 := [0xec, 0x01, 0x00, 0x00, 0x03, 0x00]

theorem decode_dolphinBitmap (f : AlpsFields) :
    dolphinProfile.decode f dolphinBitmap =
      { f with firstMp := false, isMp := true, fingers := 2, xMap := 0x0c, yMap := 0x01, x := 385, y := 0, z := 0,
               left := false, right := false, middle := false, tsLeft := false, tsRight := false, tsMiddle := false } :=
  rfl

/-- On a Dolphin pad `processBitmap` reads the bitmaps of the held position packet:
    after the position packet, whose bitmap bytes decode to `0x6000` and `0x410`, the
    bitmap packet with bitmaps `0x0c` and `0x01` is reported to `processBitmap` with the
    position packet's position and bitmaps, from any `modelData` with no sequence held
    and whatever the local held. -/
theorem dolphin_bitmap_read_from_position (md : ModelData) (lb lb' : UInt32) (f₀ f₁ : AlpsFields) :
    (∀ f, (dolphinProfile.decode f dolphinBitmap).isMp = true ∧
      (dolphinProfile.decode f dolphinBitmap).xMap = 0x0c ∧ (dolphinProfile.decode f dolphinBitmap).yMap = 0x01) ∧
    (∀ f, (dolphinProfile.decode f dolphinPosition).firstMp = true ∧
      (dolphinProfile.decode f dolphinPosition).xMap = 0x6000 ∧ (dolphinProfile.decode f dolphinPosition).yMap = 0x410) ∧
    ∃ F, (processPacketV3 dolphinProfile (processPacketV3 dolphinProfile { md with multiPacket := 0 } lb f₀
      dolphinPosition).model lb' f₁ dolphinBitmap).bitmapCall = some (md.secondTouch, F) ∧
      F.xMap = 0x6000 ∧ F.yMap = 0x410 ∧ F.x = 16 ∧ F.y = 8 := by
  refine ⟨fun _ => ⟨rfl, rfl, rfl⟩, fun _ => ⟨rfl, rfl, rfl⟩, ?_⟩
  have hfirst : (processPacketV3 dolphinProfile { md with multiPacket := 0 } lb f₀ dolphinPosition).model =
      { md with multiPacket := 1, multiData := .ofPacket dolphinPosition } := by
    simp [processPacketV3, processTouchpadPacketV3, multiPacketBranch, PacketResult.done, decode_dolphinPosition]
    rfl
  refine ⟨dolphinProfile.decode (dolphinProfile.decode f₁ dolphinBitmap) dolphinPosition, ?_, rfl, rfl, rfl, rfl⟩
  rw [hfirst]
  exact processPacketV3_bitmapCall_of_mp dolphinProfile (show (1 : Int) ≠ 0 by decide) (show (1 : Int) ≤ 2 by decide)
    lb' f₁ (by decide) rfl

end AlpsGlidePoint
