import AlpsGlidePoint.Profile

/-! # Decoding v3 and v5 packets

`struct alps_fields` and the three `decode_fields` routines of v3 (Pinnacle and
Rushmore) and v5 (Dolphin) pads. A decoder assigns only some fields: a Pinnacle or
Rushmore bitmap packet sets the finger count and the two bitmaps, a position packet
the coordinates, the pressure and the buttons; the others keep what the caller's
local held. Every coordinate a decoder assigns fits in 11 bits.
-/

namespace AlpsGlidePoint

/-- `struct alps_fields`. -/
structure AlpsFields where
  xMap : Nat
  yMap : Nat
  fingers : Int
  x : Int
  y : Int
  z : Int
  firstMp : Bool
  isMp : Bool
  left : Bool
  right : Bool
  middle : Bool
  tsLeft : Bool
  tsRight : Bool
  tsMiddle : Bool
  x1 : Int
  y1 : Int
  x2 : Int
  y2 : Int
  deriving DecidableEq, Repr, Inhabited

/-- `packet[i]`, promoted to `int`. -/
def pb (p : List UInt8) (i : Nat) : Nat := (p.getD i 0).toNat

/-- `!!(b & m)`. -/
def bit (b m : Nat) : Bool := b &&& m != 0

/-- `decodeButtonsV3`. -/
def decodeButtonsV3 (f : AlpsFields) (p : List UInt8) : AlpsFields :=
  { f with
    left := bit (pb p 3) 0x01, right := bit (pb p 3) 0x02, middle := bit (pb p 3) 0x04,
    tsLeft := bit (pb p 3) 0x10, tsRight := bit (pb p 3) 0x20, tsMiddle := bit (pb p 3) 0x40 }

/-- The position fields shared by Pinnacle and Rushmore packets. -/
def decodePositionV3 (f : AlpsFields) (p : List UInt8) : AlpsFields :=
  decodeButtonsV3 { f with
    x := ↑(((pb p 1 &&& 0x7f) <<< 4) ||| ((pb p 4 &&& 0x30) >>> 2) ||| ((pb p 0 &&& 0x30) >>> 4)),
    y := ↑(((pb p 2 &&& 0x7f) <<< 4) ||| (pb p 4 &&& 0x0f)),
    z := ↑(pb p 5 &&& 0x7f) } p

/-- `decodePinnacle`. -/
def decodePinnacle (f : AlpsFields) (p : List UInt8) : AlpsFields :=
  let f := { f with firstMp := bit (pb p 4) 0x40, isMp := bit (pb p 0) 0x40 }
  if f.isMp then
    { f with
      fingers := ↑((pb p 5 &&& 0x3) + 1),
      xMap := ((pb p 4 &&& 0x7e) <<< 8) ||| ((pb p 1 &&& 0x7f) <<< 2) ||| ((pb p 0 &&& 0x30) >>> 4),
      yMap := ((pb p 3 &&& 0x70) <<< 4) ||| ((pb p 2 &&& 0x7f) <<< 1) ||| (pb p 4 &&& 0x01) }
  else decodePositionV3 f p

/-- `decodeRushmore`. -/
def decodeRushmore (f : AlpsFields) (p : List UInt8) : AlpsFields :=
  let f := { f with firstMp := bit (pb p 4) 0x40, isMp := bit (pb p 5) 0x40 }
  if f.isMp then
    { f with
      fingers := ↑(max (pb p 5 &&& 0x3) ((pb p 5 >>> 2) &&& 0x3) + 1),
      xMap := ((pb p 5 &&& 0x10) <<< 11) ||| ((pb p 4 &&& 0x7e) <<< 8) ||| ((pb p 1 &&& 0x7f) <<< 2) |||
        ((pb p 0 &&& 0x30) >>> 4),
      yMap := ((pb p 5 &&& 0x20) <<< 6) ||| ((pb p 3 &&& 0x70) <<< 4) ||| ((pb p 2 &&& 0x7f) <<< 1) |||
        (pb p 4 &&& 0x01) }
  else decodePositionV3 f p

/-- `decodeDolphin`: every field but the multi-touch points, from every packet. -/
def decodeDolphin (f : AlpsFields) (p : List UInt8) : AlpsFields :=
  decodeButtonsV3 { f with
    firstMp := bit (pb p 0) 0x02, isMp := bit (pb p 0) 0x20,
    fingers := ↑(((pb p 0 &&& 0x6) >>> 1) ||| ((pb p 0 &&& 0x10) >>> 2)),
    xMap := ((pb p 2 &&& 0x60) >>> 5) ||| ((pb p 4 &&& 0x7f) <<< 2) ||| ((pb p 5 &&& 0x7f) <<< 9) |||
      ((pb p 3 &&& 0x07) <<< 16) ||| ((pb p 3 &&& 0x70) <<< 15) ||| ((pb p 0 &&& 0x01) <<< 22),
    yMap := (pb p 1 &&& 0x7f) ||| ((pb p 2 &&& 0x1f) <<< 7),
    x := ↑((pb p 1 &&& 0x7f) ||| ((pb p 4 &&& 0x0f) <<< 7)),
    y := ↑((pb p 2 &&& 0x7f) ||| ((pb p 4 &&& 0xf0) <<< 3)),
    z := if pb p 0 &&& 4 != 0 then 0 else ↑(pb p 5 &&& 0x7f) } p

/-- `(this->*decode_fields)(&f, p)`. The v3 and v5 profiles always set the pointer;
    an unset one decodes nothing. -/
def Profile.decode (pr : Profile) (f : AlpsFields) (p : List UInt8) : AlpsFields :=
  match pr.decodeFields with
  | some .decodePinnacle => decodePinnacle f p
  | some .decodeRushmore => decodeRushmore f p
  | some .decodeDolphin => decodeDolphin f p
  | none => f

/-- No decoder assigns the first touch. -/
theorem Profile.decode_x1 (pr : Profile) (f : AlpsFields) (p : List UInt8) :
    (pr.decode f p).x1 = f.x1 ∧ (pr.decode f p).y1 = f.y1 := by
  unfold Profile.decode decodePinnacle decodeRushmore decodeDolphin decodePositionV3 decodeButtonsV3
  split <;> (try dsimp only) <;> (try split) <;> exact ⟨rfl, rfl⟩

/-! ### Bounds of the decoded coordinates -/

theorem masked_shiftLeft_lt {a m k n : Nat} (h : m * 2 ^ k < 2 ^ n) : (a &&& m) <<< k < 2 ^ n := by
  rw [Nat.shiftLeft_eq]
  exact Nat.lt_of_le_of_lt (Nat.mul_le_mul_right _ Nat.and_le_right) h

theorem masked_shiftRight_lt {a m k n : Nat} (h : m < 2 ^ n) : (a &&& m) >>> k < 2 ^ n := by
  rw [Nat.shiftRight_eq_div_pow]
  exact Nat.lt_of_le_of_lt (Nat.div_le_self _ _) (Nat.lt_of_le_of_lt Nat.and_le_right h)

theorem masked_lt {a m n : Nat} (h : m < 2 ^ n) : a &&& m < 2 ^ n :=
  Nat.lt_of_le_of_lt Nat.and_le_right h

/-- A coordinate a decoder assigns: between 0 and 2047. -/
def InRange11 (v : Int) : Prop := 0 ≤ v ∧ v < 2 ^ 11

theorem inRange11_ofNat {v : Nat} (h : v < 2 ^ 11) : InRange11 v := ⟨Int.ofNat_nonneg v, by omega⟩

theorem decodePositionV3_xy (f : AlpsFields) (p : List UInt8) :
    InRange11 (decodePositionV3 f p).x ∧ InRange11 (decodePositionV3 f p).y :=
  ⟨inRange11_ofNat (Nat.or_lt_two_pow (Nat.or_lt_two_pow (masked_shiftLeft_lt (by decide))
      (masked_shiftRight_lt (by decide))) (masked_shiftRight_lt (by decide))),
    inRange11_ofNat (Nat.or_lt_two_pow (masked_shiftLeft_lt (by decide)) (masked_lt (by decide)))⟩

theorem decodeDolphin_xy (f : AlpsFields) (p : List UInt8) :
    InRange11 (decodeDolphin f p).x ∧ InRange11 (decodeDolphin f p).y :=
  ⟨inRange11_ofNat (Nat.or_lt_two_pow (masked_lt (by decide)) (masked_shiftLeft_lt (by decide))),
    inRange11_ofNat (Nat.or_lt_two_pow (masked_lt (by decide)) (masked_shiftLeft_lt (by decide)))⟩

/-- A decoder keeps the coordinates in range: it assigns them in range, or leaves
    them as they were. -/
theorem Profile.decode_xy (pr : Profile) {f : AlpsFields} (hx : InRange11 f.x) (hy : InRange11 f.y)
    (p : List UInt8) : InRange11 (pr.decode f p).x ∧ InRange11 (pr.decode f p).y := by
  unfold Profile.decode
  split
  · unfold decodePinnacle; dsimp only; split
    · exact ⟨hx, hy⟩
    · exact decodePositionV3_xy _ p
  · unfold decodeRushmore; dsimp only; split
    · exact ⟨hx, hy⟩
    · exact decodePositionV3_xy _ p
  · exact decodeDolphin_xy f p
  · exact ⟨hx, hy⟩

/-- A packet the decoder does not take for a bitmap packet assigns the coordinates. -/
theorem Profile.decode_xy_of_not_mp (pr : Profile) (hd : pr.decodeFields.isSome) (f : AlpsFields)
    (p : List UInt8) (hmp : (pr.decode f p).isMp = false) :
    InRange11 (pr.decode f p).x ∧ InRange11 (pr.decode f p).y := by
  unfold Profile.decode at *
  split at hmp
  · unfold decodePinnacle at *; dsimp only at *; split at hmp
    · exact absurd hmp (by simp_all)
    · rw [if_neg (by simp_all)]; exact decodePositionV3_xy _ p
  · unfold decodeRushmore at *; dsimp only at *; split at hmp
    · exact absurd hmp (by simp_all)
    · rw [if_neg (by simp_all)]; exact decodePositionV3_xy _ p
  · exact decodeDolphin_xy f p
  · simp_all

/-- A packet the decoder does not take for a bitmap packet gets its position from its
    own bytes, whatever the local held. -/
theorem Profile.decode_xy_local (pr : Profile) (hd : pr.decodeFields.isSome) {f : AlpsFields} {p : List UInt8}
    (hmp : (pr.decode f p).isMp = false) (g : AlpsFields) :
    (pr.decode g p).x = (pr.decode f p).x ∧ (pr.decode g p).y = (pr.decode f p).y := by
  unfold Profile.decode at *
  split at hmp
  · unfold decodePinnacle at *; dsimp only at *; split at hmp
    · exact absurd hmp (by simp_all)
    · rw [if_neg (by simp_all), if_neg (by simp_all)]; exact ⟨rfl, rfl⟩
  · unfold decodeRushmore at *; dsimp only at *; split at hmp
    · exact absurd hmp (by simp_all)
    · rw [if_neg (by simp_all), if_neg (by simp_all)]; exact ⟨rfl, rfl⟩
  · exact ⟨rfl, rfl⟩
  · simp_all

end AlpsGlidePoint
