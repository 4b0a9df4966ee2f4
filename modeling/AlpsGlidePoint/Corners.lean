import AlpsGlidePoint.BitmapRuns
import AlpsGlidePoint.Stream

/-! # The corners of a bitmap packet

The bitmaps of the three profiles that decode them fit the widths `setDefaults` and
`identify` give those profiles: 15 × 11 bits on Pinnacle pads, 16 × 12 on Rushmore
pads and 23 × 12 on Dolphin pads. Within its width every point of a nonzero bitmap is
at least one bit long, and the low point's middle is no further on than the high
point's, whether the axis shows several runs or one divided in two. Each corner
coordinate scales such a middle, between 0 and `2 * (bits - 1)`, to between 0 and the
axis maximum, so the four corners are those of one box on the pad, before the axis
inversion and after it.
-/

namespace AlpsGlidePoint

/-- The bitmap geometry each decoder is given: Pinnacle and Rushmore pads are v3, with
    2000 × 1400 over 15 × 11 and 16 × 12 bitmap bits; Dolphin pads are v5, with
    1360 × 660 over 23 × 12. -/
def Profile.BitmapLayout (p : Profile) : Prop :=
  match p.decodeFields with
  | some .decodePinnacle => p.protoVersion = .v3 ∧ p.xMax = 2000 ∧ p.yMax = 1400 ∧ p.xBits = 15 ∧ p.yBits = 11
  | some .decodeRushmore => p.protoVersion = .v3 ∧ p.xMax = 2000 ∧ p.yMax = 1400 ∧ p.xBits = 16 ∧ p.yBits = 12
  | some .decodeDolphin => p.protoVersion = .v5 ∧ p.xMax = 1360 ∧ p.yMax = 660 ∧ p.xBits = 23 ∧ p.yBits = 12
  | none => False

instance (p : Profile) : Decidable p.BitmapLayout := by
  unfold Profile.BitmapLayout; split <;> infer_instance

/-! ### The profiles `identify` selects -/

/-- The table rows are v1, v2 and v4 rows. -/
theorem alpsModelData_protoVersion :
    ∀ m ∈ alpsModelData, m.protoVersion = .v1 ∨ m.protoVersion = .v2 ∨ m.protoVersion = .v4 := by
  decide

/-- A table match sets no decoder. -/
theorem matchTable_decodeFields {p q : Profile} {e7 ec : Report} (h : matchTable p e7 ec = some q) :
    q.decodeFields = p.decodeFields := by
  obtain ⟨m, hm, rfl⟩ := Option.map_eq_some'.1 h
  rcases alpsModelData_protoVersion m (List.mem_of_find?_eq_some hm) with hv | hv | hv <;>
    simp only [setDefaults, hv]

/-- From a `modelData` with no decoder set, every profile `identify` returns that
    decodes bitmaps has the layout of its decoder. -/
theorem identify_bitmapLayout {p : Profile} (hp : p.decodeFields = none) :
    Returns (fun r => r.2.decodeFields = none ∨ r.2.BitmapLayout) (identify p) := by
  unfold identify
  repeat' first
    | refine Returns.pure ?_
    | refine Returns.bind fun _ => ?_
    | refine Returns.ite ?_ ?_
    | split
  all_goals first
    | exact .inl hp
    | exact .inl ((matchTable_decodeFields ‹_›).trans hp)
    | exact .inr ⟨rfl, rfl, rfl, rfl, rfl⟩

theorem pinnacleProfile_bitmapLayout : pinnacleProfile.BitmapLayout := by decide

/-- The widths and ranges of a layout. -/
theorem Profile.BitmapLayout.bounds {p : Profile} (hp : p.BitmapLayout) :
    0 ≤ p.xMax ∧ 0 ≤ p.yMax ∧ 2 ≤ p.xBits ∧ p.xBits ≤ 32 ∧ 2 ≤ p.yBits ∧ p.yBits ≤ 32 := by
  unfold Profile.BitmapLayout at hp
  split at hp
  all_goals first | exact hp.elim | (obtain ⟨-, hx, hy, hxb, hyb⟩ := hp; omega)

/-! ### The decoded bitmaps -/

/-- A decoder of a layout assigns bitmaps within its widths, or leaves them as the
    caller's local held them. -/
theorem Profile.decode_maps_lt {p : Profile} (hp : p.BitmapLayout) (f : AlpsFields) (packet : List UInt8) :
    ((p.decode f packet).xMap < 2 ^ p.xBits.toNat ∧ (p.decode f packet).yMap < 2 ^ p.yBits.toNat) ∨
    ((p.decode f packet).xMap = f.xMap ∧ (p.decode f packet).yMap = f.yMap) := by
  revert hp
  unfold Profile.BitmapLayout Profile.decode
  rcases p.decodeFields with _ | ⟨_ | _ | _⟩
  · exact False.elim
  · rintro ⟨-, -, -, hx, hy⟩
    rw [hx, hy]; unfold decodePinnacle; dsimp only; split
    · exact .inl ⟨Nat.or_lt_two_pow (Nat.or_lt_two_pow (masked_shiftLeft_lt (by decide))
        (masked_shiftLeft_lt (by decide))) (masked_shiftRight_lt (by decide)),
        Nat.or_lt_two_pow (Nat.or_lt_two_pow (masked_shiftLeft_lt (by decide))
        (masked_shiftLeft_lt (by decide))) (masked_lt (by decide))⟩
    · exact .inr ⟨rfl, rfl⟩
  · rintro ⟨-, -, -, hx, hy⟩
    rw [hx, hy]; unfold decodeRushmore; dsimp only; split
    · exact .inl ⟨Nat.or_lt_two_pow (Nat.or_lt_two_pow (Nat.or_lt_two_pow (masked_shiftLeft_lt (by decide))
        (masked_shiftLeft_lt (by decide))) (masked_shiftLeft_lt (by decide))) (masked_shiftRight_lt (by decide)),
        Nat.or_lt_two_pow (Nat.or_lt_two_pow (Nat.or_lt_two_pow (masked_shiftLeft_lt (by decide))
        (masked_shiftLeft_lt (by decide))) (masked_shiftLeft_lt (by decide))) (masked_lt (by decide))⟩
    · exact .inr ⟨rfl, rfl⟩
  · rintro ⟨-, -, -, hx, hy⟩
    rw [hx, hy]
    exact .inl ⟨Nat.or_lt_two_pow (Nat.or_lt_two_pow (Nat.or_lt_two_pow (Nat.or_lt_two_pow (Nat.or_lt_two_pow
        (masked_shiftRight_lt (by decide)) (masked_shiftLeft_lt (by decide))) (masked_shiftLeft_lt (by decide)))
        (masked_shiftLeft_lt (by decide))) (masked_shiftLeft_lt (by decide))) (masked_shiftLeft_lt (by decide)),
      Nat.or_lt_two_pow (masked_lt (by decide)) (masked_shiftLeft_lt (by decide))⟩

/-! ### The points of an axis -/

/-- The points of a nonzero bitmap of `bits` bits are at least one bit long and end
    within the width, and the low point's middle is no further on than the high
    point's. -/
theorem axisPoints_ordered {map bits : Nat} (hbits : bits ≤ 32) (hmap : map < 2 ^ bits) (h0 : map ≠ 0) :
    1 ≤ (axisPoints map).1.numBits ∧ (axisPoints map).1.startBit + (axisPoints map).1.numBits ≤ bits ∧
    1 ≤ (axisPoints map).2.numBits ∧ (axisPoints map).2.startBit + (axisPoints map).2.numBits ≤ bits ∧
    2 * (axisPoints map).1.startBit + (axisPoints map).1.numBits ≤
      2 * (axisPoints map).2.startBit + (axisPoints map).2.numBits := by
  have h32 : map < 2 ^ 32 := Nat.lt_of_lt_of_le hmap (Nat.pow_le_pow_right (by decide) hbits)
  have hsize : map.size ≤ bits := Nat.size_le.2 hmap
  obtain ⟨hn, hlow, hhigh⟩ := alpsGetBitmapPoints_eq h32 ⟨0, 0⟩ ⟨0, 0⟩ 0
  obtain ⟨r, rs, hrs⟩ := List.exists_cons_of_ne_nil (bitRuns_ne_nil h32 h0)
  have hr := bitRuns_end_le h32 (hrs ▸ List.mem_cons_self r rs)
  rw [hrs] at hn hlow hhigh
  unfold axisPoints; dsimp only
  rw [hn, hlow]
  split
  · unfold splitContact; simp only [List.head?_cons, Option.getD_some]; omega
  · rename_i hne
    obtain ⟨q, qs, hqs⟩ := List.exists_cons_of_ne_nil (fun h => hne (by simp [h]) : rs ≠ [])
    have hlast : rs.getLast (by simp [hqs]) ∈ rs := List.getLast_mem _
    have hq := bitRuns_end_le h32 (hrs ▸ List.mem_cons_of_mem r hlast)
    have hsorted := List.rel_of_pairwise_cons (hrs ▸ (bitRuns_spec h32).2.1) hlast
    rw [hhigh, if_pos (by simp [hqs]), List.getLast?_cons, List.getLast?_eq_getLast _ (by simp [hqs])]
    simp only [List.head?_cons, Option.getD_some]; omega

/-! ### The corners -/

section Coords

variable {max bits : Int} (hmax : 0 ≤ max) (hbits : 2 ≤ bits)
include hmax hbits

/-- A point of at least one bit within the width scales to between 0 and the
    maximum. -/
theorem cornerCoord_mem {q : BitmapPoint} (h1 : 1 ≤ q.numBits) (hq : q.startBit + q.numBits ≤ bits) :
    0 ≤ cornerCoord max bits q ∧ cornerCoord max bits q ≤ max := by
  have hden : 0 < 2 * (bits - 1) := by omega
  have hmid : 0 ≤ 2 * (q.startBit : Int) + q.numBits - 1 := by omega
  unfold cornerCoord
  rw [Int.tdiv_eq_ediv (Int.mul_nonneg hmax hmid) hden.le]
  exact ⟨Int.ediv_nonneg (Int.mul_nonneg hmax hmid) hden.le,
    Int.ediv_le_of_le_mul hden (Int.mul_le_mul_of_nonneg_left (by omega) hmax)⟩

/-- Scaling keeps the order of the middles. -/
theorem cornerCoord_mono {q q' : BitmapPoint} (h1 : 1 ≤ q.numBits)
    (h : 2 * q.startBit + q.numBits ≤ 2 * q'.startBit + q'.numBits) :
    cornerCoord max bits q ≤ cornerCoord max bits q' := by
  have hden : 0 < 2 * (bits - 1) := by omega
  have hmid : 0 ≤ 2 * (q.startBit : Int) + q.numBits - 1 := by omega
  have hle : 2 * (q.startBit : Int) + q.numBits - 1 ≤ 2 * (q'.startBit : Int) + q'.numBits - 1 := by omega
  unfold cornerCoord
  rw [Int.tdiv_eq_ediv (Int.mul_nonneg hmax hmid) hden.le,
    Int.tdiv_eq_ediv (Int.mul_nonneg hmax (Int.le_trans hmid hle)) hden.le]
  exact Int.ediv_le_ediv hden (Int.mul_le_mul_of_nonneg_left hle hmax)

/-- The two coordinates of a nonzero bitmap's axis lie between 0 and the maximum, the
    low one first. -/
theorem axis_coords (hb : bits ≤ 32) {map : Nat} (hmap : map < 2 ^ bits.toNat) (h0 : map ≠ 0) :
    0 ≤ cornerCoord max bits (axisPoints map).1 ∧
    cornerCoord max bits (axisPoints map).1 ≤ cornerCoord max bits (axisPoints map).2 ∧
    cornerCoord max bits (axisPoints map).2 ≤ max := by
  obtain ⟨h1, he1, h2, he2, hmid⟩ := axisPoints_ordered (by omega) hmap h0
  exact ⟨(cornerCoord_mem hmax hbits h1 (by omega)).1, cornerCoord_mono hmax hbits h1 hmid,
    (cornerCoord_mem hmax hbits h2 (by omega)).2⟩

end Coords

/-- Corners built from two coordinates per axis within the ranges are one box on the
    pad, corner 0 opposite corner 2, after the axis inversion too. -/
theorem bitmapCorners_box (p : Profile) {xLow xHigh yLow yHigh : BitmapPoint}
    (hx : 0 ≤ cornerCoord p.xMax p.xBits xLow ∧ cornerCoord p.xMax p.xBits xLow ≤ p.xMax ∧
      0 ≤ cornerCoord p.xMax p.xBits xHigh ∧ cornerCoord p.xMax p.xBits xHigh ≤ p.xMax)
    (hy : 0 ≤ cornerCoord p.yMax p.yBits yLow ∧ cornerCoord p.yMax p.yBits yLow ≤ p.yMax ∧
      0 ≤ cornerCoord p.yMax p.yBits yHigh ∧ cornerCoord p.yMax p.yBits yHigh ≤ p.yMax) :
    ∃ x0 x1 y0 y1 : Int, bitmapCorners p xLow xHigh yLow yHigh = [(x0, y0), (x1, y0), (x1, y1), (x0, y1)] ∧
      0 ≤ x0 ∧ x0 ≤ p.xMax ∧ 0 ≤ x1 ∧ x1 ≤ p.xMax ∧ 0 ≤ y0 ∧ y0 ≤ p.yMax ∧ 0 ≤ y1 ∧ y1 ≤ p.yMax := by
  unfold bitmapCorners; dsimp only
  split_ifs <;> (try simp only [List.map_cons, List.map_nil]) <;> exact ⟨_, _, _, _, rfl, by omega⟩

/-- The bitmaps of the profiles that decode them fit their widths, no division of
    `processBitmap` is by zero, and on nonzero bitmaps the low coordinate of each axis
    is no further on than the high one and both lie on the pad, so the four corners
    are one box on the pad, corner 0 opposite corner 2, before the axis inversion and
    after it. -/
theorem bitmap_corners_on_pad (p : Profile) (hp : p.BitmapLayout) :
    (∀ (g : AlpsFields) (packet : List UInt8),
      ((p.decode g packet).xMap < 2 ^ p.xBits.toNat ∧ (p.decode g packet).yMap < 2 ^ p.yBits.toNat) ∨
      ((p.decode g packet).xMap = g.xMap ∧ (p.decode g packet).yMap = g.yMap)) ∧
    0 < 2 * (p.xBits - 1) ∧ 0 < 2 * (p.yBits - 1) ∧
    ∀ f : AlpsFields, f.xMap < 2 ^ p.xBits.toNat → f.yMap < 2 ^ p.yBits.toNat → f.xMap ≠ 0 → f.yMap ≠ 0 →
      (0 ≤ cornerCoord p.xMax p.xBits (axisPoints f.xMap).1 ∧
        cornerCoord p.xMax p.xBits (axisPoints f.xMap).1 ≤ cornerCoord p.xMax p.xBits (axisPoints f.xMap).2 ∧
        cornerCoord p.xMax p.xBits (axisPoints f.xMap).2 ≤ p.xMax) ∧
      (0 ≤ cornerCoord p.yMax p.yBits (axisPoints f.yMap).1 ∧
        cornerCoord p.yMax p.yBits (axisPoints f.yMap).1 ≤ cornerCoord p.yMax p.yBits (axisPoints f.yMap).2 ∧
        cornerCoord p.yMax p.yBits (axisPoints f.yMap).2 ≤ p.yMax) ∧
      ∃ x0 x1 y0 y1 : Int, bitmapCornersOf p f = [(x0, y0), (x1, y0), (x1, y1), (x0, y1)] ∧
        0 ≤ x0 ∧ x0 ≤ p.xMax ∧ 0 ≤ x1 ∧ x1 ≤ p.xMax ∧ 0 ≤ y0 ∧ y0 ≤ p.yMax ∧ 0 ≤ y1 ∧ y1 ≤ p.yMax := by
  obtain ⟨hxm, hym, hxb, hxb', hyb, hyb'⟩ := hp.bounds
  refine ⟨p.decode_maps_lt hp, by omega, by omega, fun f hx hy hx0 hy0 => ?_⟩
  have ax := axis_coords hxm hxb hxb' hx hx0
  have ay := axis_coords hym hyb hyb' hy hy0
  exact ⟨ax, ay, bitmapCorners_box p ⟨ax.1, by omega, by omega, ax.2.2⟩ ⟨ay.1, by omega, by omega, ay.2.2⟩⟩

theorem bitmap_corners_on_pad_pinnacle :
    pinnacleProfile.BitmapLayout ∧ 0 < 2 * (pinnacleProfile.xBits - 1) :=
  ⟨by decide, (bitmap_corners_on_pad pinnacleProfile (by decide)).2.1⟩

end AlpsGlidePoint
