import AlpsGlidePoint.MultiPacket

/-! # The second touch

`modelData.second_touch` names the corner of the bitmap box reported as the second
touch. `processBitmap` chooses it while it is `-1`, as the corner diagonally opposite
the one nearest to the first touch, and keeps it otherwise; a sample with fewer than
two fingers clears it. So along every v3 or v5 run it stays within `-1..3`, a chosen
corner is dropped only by a sample reported with fewer than two fingers, and the
corner read is always one of the four. A held packet is always a position packet,
so the first touch `processBitmap` measures from is a decoded position.

The local `f` of `processTouchpadPacketV3` is not initialised, and `processBitmap`
returns before assigning `f.x1` and `f.y1` when a bitmap is empty: a bitmap packet
with an empty bitmap and two fingers then reports whatever the local held. That is
the only sample not at three times a decoded position.
-/

namespace AlpsGlidePoint

/-- What every v3 and v5 packet keeps of `modelData`: `second_touch` within `-1..3`,
    and a held packet decodes as a position packet. -/
structure TouchpadInvariant (pr : Profile) (md : ModelData) : Prop where
  secondTouch : -1 ≤ md.secondTouch ∧ md.secondTouch ≤ 3
  held : md.multiPacket ≠ 0 → ∀ f, (pr.decode f md.multiData.bytes).isMp = false

/-- What one packet does to `second_touch`: a chosen corner is dropped only by a
    sample reported with fewer than two fingers, every such sample clears it, and
    `processBitmap` is called only on the held packet at the current corner. -/
structure SecondTouchStep (pr : Profile) (md : ModelData) (r : PacketResult) : Prop where
  reset : 0 ≤ md.secondTouch → r.model.secondTouch ≠ md.secondTouch →
    r.model.secondTouch = -1 ∧ ∃ x y z n b, n < 2 ∧ r.calls = [.dispatchEventsWithInfo x y z n b]
  dispatch : ∀ x y z n b, PacketCall.dispatchEventsWithInfo x y z n b ∈ r.calls → n < 2 →
    r.model.secondTouch = -1
  bitmap : ∀ st f, r.bitmapCall = some (st, f) →
    st = md.secondTouch ∧ md.multiPacket ≠ 0 ∧ ∃ g, f = pr.decode g md.multiData.bytes

section Step

variable {pr : Profile} {md : ModelData} {r : PacketResult}

theorem PacketResult.Keeps.invariant (h : r.Keeps md) (hi : TouchpadInvariant pr md) :
    TouchpadInvariant pr r.model :=
  ⟨h.secondTouch ▸ hi.secondTouch, h.multiPacket ▸ h.multiData ▸ hi.held⟩

theorem PacketResult.Keeps.secondTouchStep (h : r.Keeps md)
    (hd : ∀ x y z n b, PacketCall.dispatchEventsWithInfo x y z n b ∉ r.calls) : SecondTouchStep pr md r :=
  ⟨fun _ hne => absurd h.secondTouch hne, fun x y z n b hc => absurd hc (hd x y z n b),
    fun _ _ hb => by rw [h.bitmapCall] at hb; cases hb⟩

variable (pr)

/-- The locals after the multi-packet branch keep the invariant. -/
theorem multiPacketBranch_invariant (hi : TouchpadInvariant pr md) (f : AlpsFields) :
    TouchpadInvariant pr (multiPacketBranch pr ⟨0, f, md, none⟩).model := by
  refine ⟨multiPacketBranch_secondTouch_range pr _ hi.secondTouch, fun hmp => ?_⟩
  rcases multiPacketBranch_multiPacket pr ⟨0, f, md, none⟩ with ⟨h, -⟩ | ⟨h, -, hdata⟩
  · exact absurd h hmp
  · rw [hdata]; exact hi.held (h ▸ hmp)

theorem processTouchpadPacketV3_invariant (hd : pr.decodeFields.isSome) (hi : TouchpadInvariant pr md)
    (f₀ : AlpsFields) (packet : List UInt8) :
    TouchpadInvariant pr (processTouchpadPacketV3 pr md f₀ packet).model := by
  have ht := multiPacketBranch_invariant pr hi (pr.decode f₀ packet)
  have hbranch := multiPacketBranch_multiPacket pr ⟨0, pr.decode f₀ packet, md, none⟩
  rcases processTouchpadPacketV3_cases pr md f₀ packet with ⟨-, h⟩ | ⟨-, t, ht', hcases⟩
  · rw [h]; exact hi
  rw [← ht'] at ht hbranch
  rcases hcases with h | ⟨hmp, hf, h⟩ | ⟨t', rfl, h⟩ <;> rw [h]
  · exact ht
  · refine ⟨ht.secondTouch, fun _ g => ?_⟩
    rcases hbranch with ⟨-, hfe⟩ | ⟨hm, hne, -⟩
    · dsimp only [PacketResult.done]
      rw [pr.decode_isMp_ofPacket hd g f₀ packet, ← hf, hfe]
    · exact absurd (hm.symm.trans hmp) hne
  · refine ⟨?_, fun hmp => absurd (singleTouch_multiPacket _) hmp⟩
    rcases singleTouch_secondTouch { t with model := { t.model with multiPacket := 0 } } with ⟨-, hs⟩ | ⟨-, hs⟩
    · rw [hs]; decide
    · rw [hs]; exact ht.secondTouch

theorem processTouchpadPacketV3_secondTouchStep (f₀ : AlpsFields) (packet : List UInt8) :
    SecondTouchStep pr md (processTouchpadPacketV3 pr md f₀ packet) := by
  rcases processTouchpadPacketV3_cases pr md f₀ packet with ⟨-, h⟩ | ⟨-, t, ht, hcases⟩
  · rw [h]; exact ⟨fun _ hne => absurd rfl hne, fun _ _ _ _ _ hc => (by cases hc), fun _ _ hb => (by cases hb)⟩
  have hbitmap : ∀ st f, t.bitmapCall = some (st, f) →
      st = md.secondTouch ∧ md.multiPacket ≠ 0 ∧ ∃ g, f = pr.decode g md.multiData.bytes := by
    intro st f hb
    rcases ht ▸ multiPacketBranch_bitmapCall pr ⟨0, pr.decode f₀ packet, md, none⟩ with h | ⟨hmp, h⟩ <;>
      rw [h] at hb
    · cases hb
    · cases hb; exact ⟨rfl, hmp, _, rfl⟩
  have hkeep : 0 ≤ md.secondTouch → t.model.secondTouch = md.secondTouch :=
    fun h => ht ▸ multiPacketBranch_secondTouch pr _ (by dsimp only; omega)
  rcases hcases with h | ⟨-, -, h⟩ | ⟨t', rfl, h⟩ <;> rw [h]
  · exact ⟨fun hs hne => absurd (hkeep hs) hne, fun _ _ _ _ _ hc => (by cases hc), hbitmap⟩
  · exact ⟨fun hs hne => absurd (hkeep hs) hne, fun _ _ _ _ _ hc => (by cases hc), hbitmap⟩
  · rcases singleTouch_secondTouch { t with model := { t.model with multiPacket := 0 } } with ⟨hn, hs⟩ | ⟨hn, hs⟩
    · exact ⟨fun _ _ => ⟨hs, _, _, _, _, _, hn, rfl⟩, fun _ _ _ _ _ _ _ => hs,
        fun st f hb => hbitmap st f (by simpa using hb)⟩
    · refine ⟨fun h0 hne => absurd (hs.trans (hkeep h0)) hne, fun x y z n b hc hn' => ?_,
        fun st f hb => hbitmap st f (by simpa using hb)⟩
      obtain ⟨-, -, -, rfl, -⟩ := by simpa using hc
      dsimp only at hn hn'; omega

/-- One v3 packet keeps the invariant and changes `second_touch` only as
    `SecondTouchStep` allows. -/
theorem processPacketV3_step (hd : pr.decodeFields.isSome) (hi : TouchpadInvariant pr md)
    (lastbuttons : UInt32) (f₀ : AlpsFields) (packet : List UInt8) :
    TouchpadInvariant pr (processPacketV3 pr md lastbuttons f₀ packet).model ∧
    SecondTouchStep pr md (processPacketV3 pr md lastbuttons f₀ packet) := by
  unfold processPacketV3; split
  · obtain ⟨hk, hn, -⟩ := processTrackstickPacketV3_keeps md lastbuttons packet
    exact ⟨hk.invariant hi, hk.secondTouchStep hn⟩
  · exact ⟨processTouchpadPacketV3_invariant pr hd hi f₀ packet, processTouchpadPacketV3_secondTouchStep pr f₀ packet⟩

end Step

/-- After a held packet, a bitmap packet for two or more fingers whose bitmap
    `processBitmap` finds empty is reported at three times the `x1`, `y1` of the
    uninitialised local: no decoder assigns them, and `processBitmap` returns before
    it does. -/
theorem processTouchpadPacketV3_empty_bitmap (pr : Profile) {md : ModelData} (hmp : md.multiPacket ≠ 0)
    (hle : md.multiPacket ≤ 2) (f₀ : AlpsFields) (packet : List UInt8)
    (hbit : (pr.decode f₀ packet).isMp = true) (hn : 2 ≤ (pr.decode f₀ packet).fingers)
    (hheld : (pr.decode (pr.decode f₀ packet) md.multiData.bytes).isMp = false)
    (hempty : (pr.decode (pr.decode f₀ packet) md.multiData.bytes).xMap = 0 ∨
      (pr.decode (pr.decode f₀ packet) md.multiData.bytes).yMap = 0) :
    ∃ z n b, 2 ≤ n ∧ (processTouchpadPacketV3 pr md f₀ packet).calls =
      [.dispatchEventsWithInfo (f₀.x1 * 3) (f₀.y1 * 3) z n b] := by
  obtain ⟨hx1, hy1⟩ := pr.decode_x1 (pr.decode f₀ packet) md.multiData.bytes
  obtain ⟨hx0, hy0⟩ := pr.decode_x1 f₀ packet
  have hne1 : (pr.decode f₀ packet).fingers ≠ 1 := by omega
  have hlt : ¬(pr.decode f₀ packet).fingers < 2 := by omega
  simp [processTouchpadPacketV3, multiPacketBranch, processBitmap, singleTouch, hmp, hbit, hheld, hempty, hne1, hlt,
    hn, Int.not_lt.2 hle, hx1, hy1, hx0, hy0]

theorem decode_heldPosition (f : AlpsFields) :
    pinnacleProfile.decode f heldPosition =
      { f with firstMp := true, isMp := false, x := 256, y := 128, z := 48, left := false, right := false,
               middle := false, tsLeft := false, tsRight := false, tsMiddle := false } :=
  rfl

/-- A Pinnacle bitmap packet for two fingers with an empty x bitmap. -/
def emptyColumns : List UInt8 := [0xcf, 0x00, 0x00, 0x00, 0x00, 0x01]

theorem decode_emptyColumns (f : AlpsFields) :
    pinnacleProfile.decode f emptyColumns = { f with firstMp := false, isMp := true, fingers := 2, xMap := 0, yMap := 0 } :=
  rfl

/-- From any `modelData` with no sequence held, the position packet at `(256, 128)`
    is held, and the bitmap packet with an empty x bitmap that follows is reported
    with two fingers at three times the `x1`, `y1` of the uninitialised local, for
    whatever it holds, not at `(768, 384)`. -/
theorem empty_bitmap_reports_uninitialised_point (md : ModelData) (lb lb' : UInt32) (f₀ f₁ : AlpsFields) :
    (∀ f, (pinnacleProfile.decode f heldPosition).x = 256 ∧ (pinnacleProfile.decode f heldPosition).y = 128) ∧
    ∃ z n b, 2 ≤ n ∧ (processPacketV3 pinnacleProfile (processPacketV3 pinnacleProfile { md with multiPacket := 0 } lb
      f₀ heldPosition).model lb' f₁ emptyColumns).calls = [.dispatchEventsWithInfo (f₁.x1 * 3) (f₁.y1 * 3) z n b] := by
  refine ⟨fun _ => ⟨rfl, rfl⟩, ?_⟩
  have hfirst : (processPacketV3 pinnacleProfile { md with multiPacket := 0 } lb f₀ heldPosition).model =
      { md with multiPacket := 1, multiData := .ofPacket heldPosition } := by
    have h5 : pb heldPosition 5 = 0x30 := rfl
    simp [processPacketV3, processTouchpadPacketV3, multiPacketBranch, PacketResult.done, decode_heldPosition, h5]
  have hempty := decode_emptyColumns f₁
  have hheld : (MultiData.ofPacket heldPosition).bytes = heldPosition := MultiData.ofPacket_bytes rfl
  rw [hfirst, processPacketV3, if_neg (show ¬pb emptyColumns 5 = 0x3f by decide)]
  exact processTouchpadPacketV3_empty_bitmap pinnacleProfile (show (1 : Int) ≠ 0 by decide)
    (show (1 : Int) ≤ 2 by decide) f₁ emptyColumns (by rw [hempty]) (by rw [hempty])
    (by dsimp only; rw [hheld, decode_heldPosition]) (.inl (by dsimp only; rw [hheld, decode_heldPosition, hempty]))


/-- Where a touchpad packet reports its one sample, while a held packet is a position
    packet as every run keeps it: on a position packet at three times the position
    decoded from its own bytes, and on a bitmap packet at three times the position
    decoded from the held packet, whatever the local held; or, where `processBitmap`
    returns early on an empty bitmap and two or more fingers are reported, at three
    times the `x1`, `y1` the local held before the packet. -/
theorem processTouchpadPacketV3_sample (pr : Profile) (hd : pr.decodeFields.isSome) {md : ModelData}
    (hi : TouchpadInvariant pr md) (f₀ : AlpsFields) (packet : List UInt8) (x y z n : Int) (b : UInt32)
    (h : PacketCall.dispatchEventsWithInfo x y z n b ∈ (processTouchpadPacketV3 pr md f₀ packet).calls) :
    ((pr.decode f₀ packet).isMp = false ∧
      ∀ g, x = (pr.decode g packet).x * 3 ∧ y = (pr.decode g packet).y * 3) ∨
    ((pr.decode f₀ packet).isMp = true ∧
      ∀ g, x = (pr.decode g md.multiData.bytes).x * 3 ∧ y = (pr.decode g md.multiData.bytes).y * 3) ∨
    ((pr.decode f₀ packet).isMp = true ∧ ((pr.decode (pr.decode f₀ packet) md.multiData.bytes).xMap = 0 ∨
      (pr.decode (pr.decode f₀ packet) md.multiData.bytes).yMap = 0) ∧ 2 ≤ n ∧ x = f₀.x1 * 3 ∧ y = f₀.y1 * 3) := by
  have hmp := processTouchpadPacketV3_calls_isMp pr md f₀ packet h
  rcases processTouchpadPacketV3_cases pr md f₀ packet with ⟨-, hr⟩ | ⟨-, t, ht, hr | ⟨-, -, hr⟩ | ⟨t', rfl, hr⟩⟩ <;>
    rw [hr] at h
  · cases h
  · cases h
  · cases h
  obtain ⟨rfl, rfl, -, rfl, -⟩ : _ ∧ _ ∧ _ ∧ _ ∧ _ := by simpa using h
  have hpos := multiPacketBranch_position pr ⟨0, pr.decode f₀ packet, md, none⟩
  rw [← ht] at hpos hmp
  rcases singleTouch_firstTouch { t with model := { t.model with multiPacket := 0 } } with
    ⟨hn, hx, hy⟩ | ⟨hn, hid⟩ <;> rcases hpos with ⟨hf, hft⟩ | ⟨hm, hbit, hf, hpx, hpy, hempty, hfull⟩
  · -- a position packet
    rw [hft] at hmp
    exact .inl ⟨hmp, fun g => ⟨by rw [hx, hft, (pr.decode_xy_local hd hmp g).1],
      by rw [hy, hft, (pr.decode_xy_local hd hmp g).2]⟩⟩
  · -- a bitmap packet for one finger
    have hheld := hi.held hm
    exact .inr (.inl ⟨hbit, fun g => ⟨by rw [hx, hpx, (pr.decode_xy_local hd (hheld _) g).1],
      by rw [hy, hpy, (pr.decode_xy_local hd (hheld _) g).2]⟩⟩)
  · -- only a bitmap packet reports two fingers
    dsimp only at hn hf; omega
  rw [hid]
  by_cases he : (pr.decode (pr.decode f₀ packet) md.multiData.bytes).xMap = 0 ∨
    (pr.decode (pr.decode f₀ packet) md.multiData.bytes).yMap = 0
  · -- the early return: no decoder assigns `x1`, `y1`
    obtain ⟨h1, h2⟩ := hempty he
    obtain ⟨hx1, hy1⟩ := pr.decode_x1 (pr.decode f₀ packet) md.multiData.bytes
    obtain ⟨hx0, hy0⟩ := pr.decode_x1 f₀ packet
    exact .inr (.inr ⟨hbit, he, hn, by rw [h1, hx1, hx0], by rw [h2, hy1, hy0]⟩)
  · obtain ⟨h1, h2⟩ := hfull he
    have hheld := hi.held hm
    exact .inr (.inl ⟨hbit, fun g => ⟨by rw [h1, (pr.decode_xy_local hd (hheld _) g).1],
      by rw [h2, (pr.decode_xy_local hd (hheld _) g).2]⟩⟩)

theorem processTouchpadPacketV3_sample_empty_bitmap :
    pinnacleProfile.decodeFields.isSome ∧
    TouchpadInvariant pinnacleProfile ⟨1, .ofPacket heldPosition, 0, false, false, 0⟩ ∧
    PacketCall.dispatchEventsWithInfo 0 0 48 2 0 ∈ (processTouchpadPacketV3 pinnacleProfile
      ⟨1, .ofPacket heldPosition, 0, false, false, 0⟩ default emptyColumns).calls ∧
    (((pinnacleProfile.decode default emptyColumns).isMp = false ∧
        ∀ g, (0 : Int) = (pinnacleProfile.decode g emptyColumns).x * 3 ∧
          (0 : Int) = (pinnacleProfile.decode g emptyColumns).y * 3) ∨
      ((pinnacleProfile.decode default emptyColumns).isMp = true ∧
        ∀ g, (0 : Int) = (pinnacleProfile.decode g (MultiData.ofPacket heldPosition).bytes).x * 3 ∧
          (0 : Int) = (pinnacleProfile.decode g (MultiData.ofPacket heldPosition).bytes).y * 3) ∨
      ((pinnacleProfile.decode default emptyColumns).isMp = true ∧
        ((pinnacleProfile.decode (pinnacleProfile.decode default emptyColumns) (MultiData.ofPacket heldPosition).bytes).xMap = 0 ∨
          (pinnacleProfile.decode (pinnacleProfile.decode default emptyColumns) (MultiData.ofPacket heldPosition).bytes).yMap = 0) ∧
        (2 : Int) ≤ 2 ∧ (0 : Int) = (default : AlpsFields).x1 * 3 ∧ (0 : Int) = (default : AlpsFields).y1 * 3)) :=
  have hi : TouchpadInvariant pinnacleProfile ⟨1, .ofPacket heldPosition, 0, false, false, 0⟩ :=
    ⟨⟨by decide, by decide⟩, fun _ _ => rfl⟩
  ⟨rfl, hi, by decide, processTouchpadPacketV3_sample pinnacleProfile rfl hi default emptyColumns
    0 0 48 2 0 (by decide)⟩

end AlpsGlidePoint
