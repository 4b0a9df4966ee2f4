import AlpsGlidePoint.Fields
import Mathlib.Tactic.Linarith

/-! # Bitmap packets

`alps_get_bitmap_points` and `processBitmap`: the bounding box of the contacts a
bitmap packet shows, its four corners, and the corner kept for the second touch.
The corner is chosen once per two-finger sequence, while `second_touch` is `-1`: the
one diagonally opposite the corner nearest to the first touch. Every bitmap point
ends within the first 33 bits, so under the geometry of the v3 and v5 profiles the
corners stay within 8600 of the origin, no squared distance to a decoded position
reaches `0x7fffffff`, and the search always finds the nearest corner.
-/

namespace AlpsGlidePoint

/-- `struct alps_bitmap_point`. -/
structure BitmapPoint where
  startBit : Nat
  numBits : Nat
  deriving DecidableEq, Repr

/-- The loop state of `alps_get_bitmap_points`: the two points, whether `point` has
    moved on to `high`, the previous bit and the finger count. -/
structure BitmapScan where
  low : BitmapPoint
  high : BitmapPoint
  onHigh : Bool
  prevBit : Bool
  fingers : Int
  deriving DecidableEq, Repr

namespace BitmapScan

/-- `*point`. -/
def point (s : BitmapScan) : BitmapPoint := if s.onHigh then s.high else s.low

/-- A write through `point`. -/
def setPoint (s : BitmapScan) (q : BitmapPoint) : BitmapScan :=
  if s.onHigh then { s with high := q } else { s with low := q }

/-- One iteration of the loop, at bit `i` whose value is `b`: a set bit after a clear
    one starts a contact, every set bit widens it, and the first clear bit after a
    contact moves `point` to `high`. -/
def step (s : BitmapScan) (i : Nat) (b : Bool) : BitmapScan :=
  let s :=
    if b then
      let s := if !s.prevBit then { s.setPoint ⟨i, 0⟩ with fingers := s.fingers + 1 } else s
      s.setPoint ⟨s.point.startBit, s.point.numBits + 1⟩
    else if s.prevBit then { s with onHigh := true } else s
  { s with prevBit := b }

/-- Both points end by bit `i`. -/
def Bounded (s : BitmapScan) (i : Nat) : Prop :=
  s.low.startBit + s.low.numBits ≤ i ∧ s.high.startBit + s.high.numBits ≤ i

theorem Bounded.mono {s : BitmapScan} {i j : Nat} (h : s.Bounded i) (hij : i ≤ j) : s.Bounded j :=
  ⟨Nat.le_trans h.1 hij, Nat.le_trans h.2 hij⟩

theorem Bounded.setPoint {s : BitmapScan} {i : Nat} (h : s.Bounded i) {q : BitmapPoint}
    (hq : q.startBit + q.numBits ≤ i) : (s.setPoint q).Bounded i := by
  unfold BitmapScan.setPoint; split
  · exact ⟨h.1, hq⟩
  · exact ⟨hq, h.2⟩

theorem Bounded.point {s : BitmapScan} {i : Nat} (h : s.Bounded i) : s.point.startBit + s.point.numBits ≤ i := by
  unfold BitmapScan.point; split
  · exact h.2
  · exact h.1

/-- Widening the point `point` designates by one bit. -/
theorem Bounded.widen {s : BitmapScan} {i : Nat} (h : s.Bounded i) :
    (s.setPoint ⟨s.point.startBit, s.point.numBits + 1⟩).Bounded (i + 1) :=
  (h.mono (Nat.le_succ i)).setPoint (by have := h.point; dsimp only; omega)

/-- Bit `i` widens a point to end by bit `i + 1` at most. -/
theorem Bounded.step {s : BitmapScan} {i : Nat} (h : s.Bounded i) (b : Bool) : (s.step i b).Bounded (i + 1) := by
  unfold BitmapScan.step
  cases b with
  | true =>
    have h' : (if !s.prevBit then { s.setPoint ⟨i, 0⟩ with fingers := s.fingers + 1 } else s).Bounded i := by
      split
      · exact (h.setPoint (Nat.le_refl i) : (s.setPoint ⟨i, 0⟩).Bounded i)
      · exact h
    exact h'.widen
  | false =>
    show (if s.prevBit then { s with onHigh := true } else s).Bounded (i + 1)
    split
    · exact ⟨Nat.le_succ_of_le h.1, Nat.le_succ_of_le h.2⟩
    · exact h.mono (Nat.le_succ i)

end BitmapScan

/-- `for (i = 0; map != 0; i++, map >>= 1)`. `map` is an `unsigned int`, so the loop
    runs at most 32 times. -/
def bitmapLoop : Nat → Nat → Nat → BitmapScan → BitmapScan
  | 0, _, _, s => s
  | n + 1, map, i, s => if map = 0 then s else bitmapLoop n (map >>> 1) (i + 1) (s.step i (map &&& 1 == 1))

theorem bitmapLoop_bounded (n map i : Nat) {s : BitmapScan} (h : s.Bounded i) :
    (bitmapLoop n map i s).Bounded (i + n) := by
  induction n generalizing map i s with
  | zero => exact h
  | succ n ih =>
    unfold bitmapLoop; split
    · exact h.mono (by omega)
    · have := ih (map >>> 1) (i + 1) (h.step (map &&& 1 == 1))
      rwa [Nat.add_right_comm, Nat.add_assoc] at this

/-- `alps_get_bitmap_points(map, low, high, fingers)`: `*low`, `*high` and `*fingers`
    after the loop, from what they held, with `point = low` and `prev_bit = 0`. -/
def alpsGetBitmapPoints (map : Nat) (low high : BitmapPoint) (fingers : Int) : BitmapPoint × BitmapPoint × Int :=
  let s := bitmapLoop 32 map 0 ⟨low, high, false, false, fingers⟩
  (s.low, s.high, s.fingers)

/-- From the zeroed points of `processBitmap`, both points end by bit 32. -/
theorem alpsGetBitmapPoints_bounded (map : Nat) :
    (alpsGetBitmapPoints map ⟨0, 0⟩ ⟨0, 0⟩ 0).1.startBit + (alpsGetBitmapPoints map ⟨0, 0⟩ ⟨0, 0⟩ 0).1.numBits ≤ 32 ∧
    (alpsGetBitmapPoints map ⟨0, 0⟩ ⟨0, 0⟩ 0).2.1.startBit + (alpsGetBitmapPoints map ⟨0, 0⟩ ⟨0, 0⟩ 0).2.1.numBits ≤ 32 :=
  bitmapLoop_bounded 32 map 0 ⟨Nat.le_refl 0, Nat.le_refl 0⟩

/-- A single contact divided between the two points. -/
def splitContact (low : BitmapPoint) : BitmapPoint × BitmapPoint :=
  let i := low.numBits / 2
  (⟨low.startBit, low.numBits - i⟩, ⟨low.startBit + i, max i 1⟩)

/-- The points of one axis: the points of its bitmap from zeroed points and count,
    the single contact divided. -/
def axisPoints (map : Nat) : BitmapPoint × BitmapPoint :=
  let points := alpsGetBitmapPoints map ⟨0, 0⟩ ⟨0, 0⟩ 0
  if points.2.2 = 1 then splitContact points.1 else (points.1, points.2.1)

/-- A point that ends by bit 33. -/
def BitmapPoint.Bounded (q : BitmapPoint) : Prop := q.startBit + q.numBits ≤ 33

theorem axisPoints_bounded (map : Nat) : (axisPoints map).1.Bounded ∧ (axisPoints map).2.Bounded := by
  have h := alpsGetBitmapPoints_bounded map
  unfold axisPoints splitContact BitmapPoint.Bounded
  dsimp only
  split <;> dsimp only <;> omega

/-- One coordinate of a corner: the middle of the point, scaled from `bits` bitmap
    positions to `max`. -/
def cornerCoord (max bits : Int) (q : BitmapPoint) : Int :=
  Int.tdiv (max * (2 * q.startBit + q.numBits - 1)) (2 * (bits - 1))

/-- The four corners, top-left, top-right, bottom-right, bottom-left, with the x
    order reversed on v5 pads and the y order on v3 and v4 pads. -/
def bitmapCorners (p : Profile) (xLow xHigh yLow yHigh : BitmapPoint) : List (Int × Int) :=
  let cx := cornerCoord p.xMax p.xBits
  let cy := cornerCoord p.yMax p.yBits
  let corners := [(cx xLow, cy yLow), (cx xHigh, cy yLow), (cx xHigh, cy yHigh), (cx xLow, cy yHigh)]
  let corners := if p.protoVersion = .v5 then corners.map fun c => (p.xMax - c.1, c.2) else corners
  if p.protoVersion = .v3 ∨ p.protoVersion = .v4 then corners.map fun c => (c.1, p.yMax - c.2) else corners

/-- The corners of the bitmaps of `f`. -/
def bitmapCornersOf (p : Profile) (f : AlpsFields) : List (Int × Int) :=
  bitmapCorners p (axisPoints f.xMap).1 (axisPoints f.xMap).2 (axisPoints f.yMap).1 (axisPoints f.yMap).2

/-- `dx * dx + dy * dy` from `(x, y)` to a corner. -/
def cornerDistance (x y : Int) (c : Int × Int) : Int := (x - c.1) * (x - c.1) + (y - c.2) * (y - c.2)

/-- One step of the closest-corner search over `(second_touch, closest)`. -/
def closerCorner (x y : Int) (corners : List (Int × Int)) (acc : Int × Int) (i : Nat) : Int × Int :=
  if cornerDistance x y (corners.getD i (0, 0)) < acc.2 then (i, cornerDistance x y (corners.getD i (0, 0)))
  else acc

/-- The closest-corner search, from `second_touch == -1` and `closest = 0x7fffffff`. -/
def closestCorner (x y : Int) (corners : List (Int × Int)) : Int :=
  ((List.range 4).foldl (closerCorner x y corners) (-1, 0x7fffffff)).1

/-- `processBitmap(&modelData, f)`: the finger count, the fields with the two touches,
    and `second_touch`. With an empty bitmap it returns at once. The corner is read
    at `second_touch`, which the theorems below keep within `0..3`. -/
def processBitmap (p : Profile) (secondTouch : Int) (f : AlpsFields) : Int × AlpsFields × Int :=
  if f.xMap = 0 ∨ f.yMap = 0 then (0, f, secondTouch)
  else
    let fingers := max (alpsGetBitmapPoints f.xMap ⟨0, 0⟩ ⟨0, 0⟩ 0).2.2 (alpsGetBitmapPoints f.yMap ⟨0, 0⟩ ⟨0, 0⟩ 0).2.2
    let corners := bitmapCornersOf p f
    let secondTouch := if secondTouch = -1 then Int.tmod (closestCorner f.x f.y corners + 2) 4 else secondTouch
    let c := corners.getD secondTouch.toNat (0, 0)
    (fingers, { f with x1 := f.x, y1 := f.y, x2 := c.1, y2 := c.2 }, secondTouch)

/-- `processBitmap` keeps the position and, past its early return, makes it the
    first touch; at the early return it assigns nothing. -/
theorem processBitmap_fields (p : Profile) (st : Int) (f : AlpsFields) :
    (processBitmap p st f).2.1.x = f.x ∧ (processBitmap p st f).2.1.y = f.y ∧
    ((f.xMap = 0 ∨ f.yMap = 0) → (processBitmap p st f).2.1.x1 = f.x1 ∧ (processBitmap p st f).2.1.y1 = f.y1) ∧
    (¬(f.xMap = 0 ∨ f.yMap = 0) → (processBitmap p st f).2.1.x1 = f.x ∧ (processBitmap p st f).2.1.y1 = f.y) := by
  unfold processBitmap; split
  · exact ⟨rfl, rfl, fun _ => ⟨rfl, rfl⟩, fun h' => absurd ‹_› h'⟩
  · exact ⟨rfl, rfl, fun h' => absurd h' ‹_›, fun _ => ⟨rfl, rfl⟩⟩

/-! ### The corner search -/

/-- The bitmap geometry of the v3 and v5 profiles: ranges up to 2000 over at least
    11 bitmap positions. -/
structure Profile.BitmapGeometry (p : Profile) : Prop where
  xMax : 0 ≤ p.xMax ∧ p.xMax ≤ 2000
  yMax : 0 ≤ p.yMax ∧ p.yMax ≤ 2000
  xBits : 11 ≤ p.xBits
  yBits : 11 ≤ p.yBits

theorem cornerCoord_natAbs_le {max bits : Int} (hmax : 0 ≤ max ∧ max ≤ 2000) (hbits : 11 ≤ bits)
    {q : BitmapPoint} (hq : q.Bounded) : (cornerCoord max bits q).natAbs ≤ 6600 := by
  unfold cornerCoord
  rw [Int.natAbs_tdiv]
  have hnum : (max * (2 * q.startBit + q.numBits - 1)).natAbs ≤ 2000 * 66 := by
    rw [Int.natAbs_mul]
    unfold BitmapPoint.Bounded at hq
    exact Nat.mul_le_mul (by omega) (by omega)
  have hden : 20 ≤ (2 * (bits - 1)).natAbs := by omega
  generalize (max * (2 * q.startBit + q.numBits - 1)).natAbs = a at hnum ⊢
  generalize (2 * (bits - 1)).natAbs = b at hden ⊢
  calc a / b ≤ a / 20 := Nat.div_le_div_left hden (by decide)
    _ ≤ 6600 := by omega

/-- Every corner lies within 8600 of the origin on both axes. -/
theorem bitmapCorners_bounded {p : Profile} (hp : p.BitmapGeometry) {xLow xHigh yLow yHigh : BitmapPoint}
    (hxl : xLow.Bounded) (hxh : xHigh.Bounded) (hyl : yLow.Bounded) (hyh : yHigh.Bounded) :
    ∀ c ∈ bitmapCorners p xLow xHigh yLow yHigh, c.1.natAbs ≤ 8600 ∧ c.2.natAbs ≤ 8600 := by
  have bx := fun {q : BitmapPoint} (hq : q.Bounded) => cornerCoord_natAbs_le hp.xMax hp.xBits hq
  have by' := fun {q : BitmapPoint} (hq : q.Bounded) => cornerCoord_natAbs_le hp.yMax hp.yBits hq
  have base : ∀ c ∈ [(cornerCoord p.xMax p.xBits xLow, cornerCoord p.yMax p.yBits yLow),
      (cornerCoord p.xMax p.xBits xHigh, cornerCoord p.yMax p.yBits yLow),
      (cornerCoord p.xMax p.xBits xHigh, cornerCoord p.yMax p.yBits yHigh),
      (cornerCoord p.xMax p.xBits xLow, cornerCoord p.yMax p.yBits yHigh)], c.1.natAbs ≤ 6600 ∧ c.2.natAbs ≤ 6600 := by
    simp only [List.mem_cons, List.mem_singleton, List.not_mem_nil, or_false]
    rintro c (rfl | rfl | rfl | rfl)
    exacts [⟨bx hxl, by' hyl⟩, ⟨bx hxh, by' hyl⟩, ⟨bx hxh, by' hyh⟩, ⟨bx hxl, by' hyh⟩]
  have hx := hp.xMax; have hy := hp.yMax
  intro c hc
  unfold bitmapCorners at hc; dsimp only at hc
  split at hc <;> split at hc
  · obtain ⟨_, ⟨c', hc', rfl⟩, rfl⟩ := by simpa only [List.mem_map] using hc
    have := base c' hc'; dsimp only; omega
  · obtain ⟨c', hc', rfl⟩ := List.mem_map.1 hc; have := base c' hc'; dsimp only; omega
  · obtain ⟨c', hc', rfl⟩ := List.mem_map.1 hc; have := base c' hc'; dsimp only; omega
  · have := base c hc; omega

/-- Under the corner bounds, a squared distance from a decoded position stays below
    `0x7fffffff`. -/
theorem cornerDistance_lt {x y : Int} (hx : InRange11 x) (hy : InRange11 y) {c : Int × Int}
    (hc : c.1.natAbs ≤ 8600 ∧ c.2.natAbs ≤ 8600) : cornerDistance x y c < 0x7fffffff := by
  have square_le (a : Int) (h : a.natAbs ≤ 10647) : a * a ≤ 10647 * 10647 := by
    rw [← Int.natAbs_mul_self']
    exact_mod_cast Nat.mul_le_mul h h
  unfold cornerDistance InRange11 at *
  have := square_le (x - c.1) (by omega)
  have := square_le (y - c.2) (by omega)
  linarith

/-- The search over four distances below `0x7fffffff` ends on a nearest index. -/
theorem search_nearest (d : Nat → Int) (hd : ∀ i < 4, d i < 0x7fffffff) :
    0 ≤ ((List.range 4).foldl (fun acc i => if d i < acc.2 then ((i : Int), d i) else acc) (-1, 0x7fffffff)).1 ∧
    ((List.range 4).foldl (fun acc i => if d i < acc.2 then ((i : Int), d i) else acc) (-1, 0x7fffffff)).1 < 4 ∧
    ∀ j < 4, d ((List.range 4).foldl (fun acc i => if d i < acc.2 then ((i : Int), d i) else acc)
      (-1, 0x7fffffff)).1.toNat ≤ d j := by
  have h0 := hd 0 (by decide); have h1 := hd 1 (by decide)
  have h2 := hd 2 (by decide); have h3 := hd 3 (by decide)
  have four : ∀ j < 4, j = 0 ∨ j = 1 ∨ j = 2 ∨ j = 3 := by omega
  simp only [List.range, List.range.loop, List.foldl]
  split_ifs <;> simp only [Nat.cast_ofNat, Nat.cast_zero, Nat.cast_one, Int.reduceToNat] <;>
    refine ⟨by omega, by omega, fun j hj => ?_⟩ <;> rcases four j hj with rfl | rfl | rfl | rfl <;> omega

/-- The search finds the nearest corner: the first corner no corner beats, when every
    distance is below `0x7fffffff`. -/
theorem closestCorner_nearest (x y : Int) (corners : List (Int × Int))
    (hd : ∀ i < 4, cornerDistance x y (corners.getD i (0, 0)) < 0x7fffffff) :
    0 ≤ closestCorner x y corners ∧ closestCorner x y corners < 4 ∧
    ∀ j < 4, cornerDistance x y (corners.getD (closestCorner x y corners).toNat (0, 0)) ≤
      cornerDistance x y (corners.getD j (0, 0)) :=
  search_nearest (fun i => cornerDistance x y (corners.getD i (0, 0))) hd

/-- Each step of the search keeps its index within `-1..3`. -/
theorem foldl_closerCorner_range (x y : Int) (corners : List (Int × Int)) {l : List Nat} (hl : ∀ i ∈ l, i < 4)
    {acc : Int × Int} (h : -1 ≤ acc.1 ∧ acc.1 ≤ 3) :
    -1 ≤ (l.foldl (closerCorner x y corners) acc).1 ∧ (l.foldl (closerCorner x y corners) acc).1 ≤ 3 := by
  induction l generalizing acc with
  | nil => exact h
  | cons i l ih =>
    have hi := hl i (List.mem_cons_self i l)
    refine ih (fun j hj => hl j (List.mem_cons_of_mem i hj)) ?_
    unfold closerCorner; split
    · dsimp only; omega
    · exact h

theorem closestCorner_range (x y : Int) (corners : List (Int × Int)) :
    -1 ≤ closestCorner x y corners ∧ closestCorner x y corners ≤ 3 :=
  foldl_closerCorner_range x y corners (fun _ hi => List.mem_range.1 hi) ⟨by decide, by decide⟩

/-- A chosen corner stays. -/
theorem processBitmap_keep (p : Profile) {st : Int} (h : st ≠ -1) (f : AlpsFields) :
    (processBitmap p st f).2.2 = st := by
  unfold processBitmap; split <;> simp [h]

/-- From `-1..3`, `second_touch` stays within `-1..3`, whatever the geometry. -/
theorem processBitmap_secondTouch_range (p : Profile) {st : Int} (hst : -1 ≤ st ∧ st ≤ 3) (f : AlpsFields) :
    -1 ≤ (processBitmap p st f).2.2 ∧ (processBitmap p st f).2.2 ≤ 3 := by
  unfold processBitmap; split
  · exact hst
  · dsimp only; split
    · have := closestCorner_range f.x f.y (bitmapCornersOf p f)
      rw [Int.tmod_eq_emod (by omega) (by decide)]; omega
    · exact hst

/-- The corner `second_touch` names, for a `processBitmap` call past its early
    return, as seen from the first touch. -/
def secondDistance (p : Profile) (f : AlpsFields) (i : Nat) : Int :=
  cornerDistance f.x f.y ((bitmapCornersOf p f).getD i (0, 0))

/-- `processBitmap` on a decoded position: an empty bitmap changes nothing; otherwise
    the first touch is the position, the corner read is within `0..3`, a chosen corner
    stays, and from `-1` the chosen corner is the one diagonally opposite the corner
    nearest to the position. -/
theorem processBitmap_spec {p : Profile} (hp : p.BitmapGeometry) {st : Int} (hst : -1 ≤ st ∧ st ≤ 3)
    {f : AlpsFields} (hx : InRange11 f.x) (hy : InRange11 f.y) :
    ((f.xMap = 0 ∨ f.yMap = 0) → processBitmap p st f = (0, f, st)) ∧
    (f.xMap ≠ 0 → f.yMap ≠ 0 →
      (processBitmap p st f).2.1.x1 = f.x ∧ (processBitmap p st f).2.1.y1 = f.y ∧
      0 ≤ (processBitmap p st f).2.2 ∧ (processBitmap p st f).2.2 ≤ 3 ∧
      (st ≠ -1 → (processBitmap p st f).2.2 = st) ∧
      (st = -1 → ∃ k : Int, (processBitmap p st f).2.2 = Int.tmod (k + 2) 4 ∧ 0 ≤ k ∧ k < 4 ∧
        ∀ j < 4, secondDistance p f k.toNat ≤ secondDistance p f j)) := by
  refine ⟨fun h => if_pos h, fun hxm hym => ?_⟩
  have hb := bitmapCorners_bounded hp (axisPoints_bounded f.xMap).1 (axisPoints_bounded f.xMap).2
    (axisPoints_bounded f.yMap).1 (axisPoints_bounded f.yMap).2
  have hd : ∀ i < 4, cornerDistance f.x f.y ((bitmapCornersOf p f).getD i (0, 0)) < 0x7fffffff := by
    intro i _
    apply cornerDistance_lt hx hy
    rw [List.getD_eq_getElem?_getD]
    cases h : (bitmapCornersOf p f)[i]? with
    | none => exact ⟨by decide, by decide⟩
    | some c => exact hb c (List.getElem?_mem h)
  obtain ⟨k0, k4, hk⟩ := closestCorner_nearest f.x f.y (bitmapCornersOf p f) hd
  unfold processBitmap
  rw [if_neg (by simp [hxm, hym])]
  dsimp only
  refine ⟨rfl, rfl, ?_⟩
  by_cases h : st = -1
  · subst h
    rw [if_pos rfl]
    have hmod := Int.tmod_eq_emod (show 0 ≤ closestCorner f.x f.y (bitmapCornersOf p f) + 2 by omega)
      (show (0 : Int) ≤ 4 by decide)
    exact ⟨by omega, by omega, fun h => absurd rfl h, fun _ => ⟨_, rfl, k0, k4, hk⟩⟩
  · rw [if_neg h]
    exact ⟨by omega, by omega, fun _ => rfl, fun h' => absurd h' h⟩

end AlpsGlidePoint
