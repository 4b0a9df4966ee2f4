import AlpsGlidePoint.Bitmap
import Mathlib.Data.Nat.Size
import Mathlib.Data.Nat.Bitwise

/-! # The runs of a bitmap

`alps_get_bitmap_points` scans a bitmap from bit 0 up to its highest set bit. Read
against the maximal runs of set bits, lowest first, the loop counts the runs, leaves
the lowest in `low` and, when there are two or more, the highest in `high`; a single
run leaves `high` as it was. The runs lie within the significant bits and apart from
each other, so for the bitmaps the v3 and v5 decoders produce, the four corners
`processBitmap` computes are those of one box on the pad.
-/

namespace AlpsGlidePoint

/-- The maximal runs of set bits of `bits`, read from bit `i` on, lowest first;
    `pending` is a run still open at bit `i`. A clear bit or the end of the bits
    closes the open run. -/
def runsAux : Option BitmapPoint → Nat → List Bool → List BitmapPoint
  | none, _, [] => []
  | some r, _, [] => [r]
  | none, i, false :: bs => runsAux none (i + 1) bs
  | some r, i, false :: bs => r :: runsAux none (i + 1) bs
  | none, i, true :: bs => runsAux (some ⟨i, 1⟩) (i + 1) bs
  | some r, i, true :: bs => runsAux (some ⟨r.startBit, r.numBits + 1⟩) (i + 1) bs

/-- The maximal runs of set bits among the 32 bits of an `unsigned int`, lowest
    first, as (start bit, length). -/
def bitRuns (map : Nat) : List BitmapPoint := runsAux none 0 ((List.range 32).map map.testBit)

example : bitRuns 0b1011 = [⟨0, 2⟩, ⟨3, 1⟩] := by decide

theorem runsAux_nil (pending : Option BitmapPoint) (i : Nat) : runsAux pending i [] = pending.toList := by
  cases pending <;> rfl

/-- Clear bits past the last set one add no run. -/
theorem runsAux_append_clear (pending : Option BitmapPoint) (i : Nat) (bs : List Bool) (k : Nat) :
    runsAux pending i (bs ++ List.replicate k false) = runsAux pending i bs := by
  induction bs generalizing pending i with
  | nil =>
    rw [List.nil_append, runsAux_nil]
    induction k generalizing pending i with
    | zero => exact runsAux_nil pending i
    | succ k ih => cases pending <;> simp only [List.replicate_succ, runsAux, ih, Option.toList]
  | cons x bs ih => rw [List.cons_append]; cases x <;> cases pending <;> simp only [runsAux, ih]

/-- The 32 bits of an unsigned bitmap are its significant bits, then clear bits. -/
theorem uintBits_eq {map : Nat} (hmap : map < 2 ^ 32) :
    (List.range 32).map map.testBit = map.bits ++ List.replicate (32 - map.size) false := by
  have hs : map.size ≤ 32 := Nat.size_le.2 hmap
  refine List.ext_getElem (by simp [Nat.size_eq_bits_len]; omega) fun k h₁ h₂ => ?_
  rw [List.getElem_map, List.getElem_range, Nat.testBit_eq_inth, List.getElem_append]
  split
  · exact List.getI_eq_getElem _ _
  · rw [List.getElem_replicate, List.getI_eq_default _ (by omega)]; rfl

theorem bitRuns_eq {map : Nat} (hmap : map < 2 ^ 32) : bitRuns map = runsAux none 0 map.bits := by
  rw [bitRuns, uintBits_eq hmap, runsAux_append_clear]

/-- The loop reads the bits of `map` lowest first: bit 0 is `map &&& 1`, the rest
    are the bits of `map >>> 1`. -/
theorem bits_eq_cons {map : Nat} (h : map ≠ 0) : map.bits = (map &&& 1 == 1) :: (map >>> 1).bits := by
  rw [Nat.and_one_is_mod, Nat.shiftRight_eq_div_pow, pow_one]
  have hmap := Nat.div_add_mod map 2
  rcases Nat.mod_two_eq_zero_or_one map with h2 | h2 <;> rw [h2] at hmap ⊢ <;> conv_lhs => rw [← hmap]
  · rw [Nat.add_zero, Nat.bit0_bits _ (by omega)]; rfl
  · rw [Nat.bit1_bits]; rfl

/-! ### The runs are the maximal runs of set bits -/

/-- A maximal run of set bits of `b`: at least one bit long, every bit of it set, the
    bits just before and just after it clear. -/
def IsMaximalRun (b : Nat → Bool) (r : BitmapPoint) : Prop :=
  1 ≤ r.numBits ∧ (∀ j, r.startBit ≤ j → j < r.startBit + r.numBits → b j = true) ∧
    (r.startBit = 0 ∨ b (r.startBit - 1) = false) ∧ b (r.startBit + r.numBits) = false

/-- What `runsAux` assumes at bit `i`: an open run is a run of set bits ending at `i`
    whose previous bit is clear; with none open, the previous bit is clear. -/
def OpenRun (b : Nat → Bool) (i : Nat) : Option BitmapPoint → Prop
  | none => i = 0 ∨ b (i - 1) = false
  | some p => 1 ≤ p.numBits ∧ p.startBit + p.numBits = i ∧ (∀ j, p.startBit ≤ j → j < i → b j = true) ∧
      (p.startBit = 0 ∨ b (p.startBit - 1) = false)

/-- The first bit `runsAux` can place in a run: that of the open run, or `i`. -/
def openFrom (i : Nat) : Option BitmapPoint → Nat
  | none => i
  | some p => p.startBit

section Maximal

variable {b : Nat → Bool} {i : Nat}

theorem OpenRun.close {p : BitmapPoint} (h : OpenRun b i (some p)) (hb : b i = false) : IsMaximalRun b p :=
  ⟨h.1, fun j h1 h2 => h.2.2.1 j h1 (h.2.1 ▸ h2), h.2.2.2, h.2.1 ▸ hb⟩

theorem OpenRun.skip (hb : b i = false) : OpenRun b (i + 1) none := .inr hb

theorem OpenRun.start (h : OpenRun b i none) (hb : b i = true) : OpenRun b (i + 1) (some ⟨i, 1⟩) := by
  refine ⟨Nat.le_refl 1, rfl, fun j h1 h2 => ?_, h⟩
  obtain rfl : j = i := by dsimp only at h1 h2; omega
  exact hb

theorem OpenRun.extend {p : BitmapPoint} (h : OpenRun b i (some p)) (hb : b i = true) :
    OpenRun b (i + 1) (some ⟨p.startBit, p.numBits + 1⟩) := by
  obtain ⟨h1, hend, hset, hbefore⟩ := h
  refine ⟨Nat.le_add_left 1 _, by dsimp only; omega, fun j hj1 hj2 => ?_, hbefore⟩
  rcases Nat.lt_or_ge j i with hj | hj
  · exact hset j hj1 hj
  · obtain rfl : j = i := by omega
    exact hb

/-- `bs` holds the bits of `b` from bit `i` on. -/
def BitsFrom (b : Nat → Bool) (i : Nat) (bs : List Bool) : Prop := ∀ k, b (i + k) = bs.getI k

theorem BitsFrom.head {x : Bool} {bs : List Bool} (h : BitsFrom b i (x :: bs)) : b i = x := h 0

theorem BitsFrom.tail {x : Bool} {bs : List Bool} (h : BitsFrom b i (x :: bs)) : BitsFrom b (i + 1) bs :=
  fun k => by rw [show i + 1 + k = i + (k + 1) by omega, h, List.getI_cons_succ]

theorem BitsFrom.clear {bs : List Bool} (h : BitsFrom b i bs) {j : Nat} (hj : i + bs.length ≤ j) : b j = false := by
  rw [show j = i + (j - i) by omega, h, List.getI_eq_default _ (by omega)]; rfl

/-- Every run `runsAux` lists is a maximal run of set bits. -/
theorem runsAux_maximal {bs : List Bool} (hbs : BitsFrom b i bs) {pending : Option BitmapPoint}
    (h : OpenRun b i pending) : ∀ r ∈ runsAux pending i bs, IsMaximalRun b r := by
  induction bs generalizing i pending with
  | nil =>
    cases pending with
    | none => exact fun r hr => nomatch hr
    | some p => exact fun r hr => List.mem_singleton.1 hr ▸ h.close (hbs.clear (by simp))
  | cons x bs ih =>
    have hx := hbs.head
    cases x <;> cases pending
    case false.none => exact ih hbs.tail (.skip hx)
    case false.some p =>
      intro r hr
      rcases List.mem_cons.1 hr with rfl | hr
      · exact h.close hx
      · exact ih hbs.tail (.skip hx) r hr
    case true.none => exact ih hbs.tail (h.start hx)
    case true.some p => exact ih hbs.tail (h.extend hx)

end Maximal

section Order

variable {i : Nat} {bs : List Bool} {pending : Option BitmapPoint}

/-- `runsAux` lists no run before its first bit. -/
theorem runsAux_from (h : ∀ p ∈ pending, p.startBit + p.numBits = i) :
    ∀ r ∈ runsAux pending i bs, openFrom i pending ≤ r.startBit := by
  induction bs generalizing i pending with
  | nil => cases pending <;> simp [runsAux, openFrom]
  | cons x bs ih =>
    cases x <;> cases pending
    case false.none => exact fun r hr => Nat.le_of_succ_le (ih (fun p hp => absurd hp (Option.not_mem_none p)) r hr)
    case false.some p =>
      intro r hr
      rcases List.mem_cons.1 hr with rfl | hr
      · exact Nat.le_refl _
      · have := ih (fun p hp => absurd hp (Option.not_mem_none p)) r hr
        have := h p rfl
        simp only [openFrom] at *; omega
    case true.none => exact ih (fun p hp => by cases hp; rfl)
    case true.some p => exact ih (fun p' hp => by cases hp; have := h p rfl; dsimp only; omega)

/-- The runs are listed lowest first, each ending before the next starts. -/
theorem runsAux_sorted (h : ∀ p ∈ pending, p.startBit + p.numBits = i) :
    (runsAux pending i bs).Pairwise (fun r r' => r.startBit + r.numBits < r'.startBit) := by
  induction bs generalizing i pending with
  | nil => cases pending <;> simp [runsAux]
  | cons x bs ih =>
    cases x <;> cases pending
    case false.none => exact ih (fun p hp => absurd hp (Option.not_mem_none p))
    case false.some p =>
      refine List.pairwise_cons.2 ⟨fun r hr => ?_, ih (fun p hp => absurd hp (Option.not_mem_none p))⟩
      have := runsAux_from (fun p hp => absurd hp (Option.not_mem_none p)) r hr
      have := h p rfl
      simp only [openFrom] at *; omega
    case true.none => exact ih (fun p hp => by cases hp; rfl)
    case true.some p => exact ih (fun p' hp => by cases hp; have := h p rfl; dsimp only; omega)

end Order

/-- Every set bit from the first bit on lies in a listed run. -/
theorem runsAux_cover {b : Nat → Bool} {i : Nat} {bs : List Bool} (hbs : BitsFrom b i bs)
    {pending : Option BitmapPoint} (h : OpenRun b i pending) : ∀ j, openFrom i pending ≤ j → b j = true →
      ∃ r ∈ runsAux pending i bs, r.startBit ≤ j ∧ j < r.startBit + r.numBits := by
  induction bs generalizing i pending with
  | nil =>
    intro j hj hbj
    have hji : j < i := Nat.lt_of_not_ge fun hji => absurd (hbs.clear (by simpa using hji)) (by simp [hbj])
    cases pending with
    | none => exact absurd hj (by simpa [openFrom] using hji)
    | some p => exact ⟨p, List.mem_singleton_self p, hj, h.2.1 ▸ hji⟩
  | cons x bs ih =>
    have hx := hbs.head
    intro j hj hbj
    cases x <;> cases pending
    case false.none =>
      have hne : j ≠ i := ne_of_apply_ne b (by rw [hbj, hx]; decide)
      exact ih hbs.tail (.skip hx) j (by simp only [openFrom] at hj ⊢; omega) hbj
    case false.some p =>
      have hne : j ≠ i := ne_of_apply_ne b (by rw [hbj, hx]; decide)
      rcases Nat.lt_or_ge j i with hji | hji
      · exact ⟨p, List.mem_cons_self _ _, hj, h.2.1 ▸ hji⟩
      · obtain ⟨r, hr, hrj⟩ := ih hbs.tail (.skip hx) j (by simp only [openFrom]; omega) hbj
        exact ⟨r, List.mem_cons_of_mem _ hr, hrj⟩
    case true.none => exact ih hbs.tail (h.start hx) j hj hbj
    case true.some p => exact ih hbs.tail (h.extend hx) j hj hbj

/-! ### The loop against the runs -/

namespace BitmapScan

/-- The loop state after the closed runs `runs` and the open run `pending`, from
    `low`, `high` and count `n`: the count has grown by their number, `low` holds the
    first, `high` the last when there are two or more, `point` has moved to `high`
    once a run closed, and the previous bit was set exactly when a run is open. -/
structure Tracks (low high : BitmapPoint) (n : Int) (runs : List BitmapPoint) (pending : Option BitmapPoint)
    (s : BitmapScan) : Prop where
  fingers : s.fingers = n + (runs ++ pending.toList).length
  low : s.low = (runs ++ pending.toList).head?.getD low
  high : s.high = if 2 ≤ (runs ++ pending.toList).length then (runs ++ pending.toList).getLast?.getD high else high
  onHigh : s.onHigh = !runs.isEmpty
  prevBit : s.prevBit = pending.isSome

variable {low high : BitmapPoint} {n : Int}

theorem point_setPoint (s : BitmapScan) (q : BitmapPoint) : (s.setPoint q).point = q := by
  unfold setPoint point; split <;> simp_all

/-- The open run is the one `point` designates. -/
theorem Tracks.point {runs : List BitmapPoint} {r : BitmapPoint} {s : BitmapScan}
    (h : s.Tracks low high n runs (some r)) : s.point = r := by
  unfold BitmapScan.point
  cases runs with
  | nil => simp [h.onHigh, h.low]
  | cons q qs => simp [h.onHigh, h.high, List.getLast?_cons]

/-- One bit: the loop keeps tracking the runs, with the open run extended, closed or
    started as `runsAux` does. -/
theorem Tracks.step {runs : List BitmapPoint} {pending : Option BitmapPoint} {s : BitmapScan}
    (h : s.Tracks low high n runs pending) (i : Nat) (b : Bool) (bs : List Bool) :
    ∃ runs' pending', (s.step i b).Tracks low high n runs' pending' ∧
      runs' ++ runsAux pending' (i + 1) bs = runs ++ runsAux pending i (b :: bs) := by
  cases b <;> cases pending
  case false.none =>
    refine ⟨runs, none, ?_, rfl⟩
    have hp : s.prevBit = false := h.prevBit
    simp only [BitmapScan.step, hp, Bool.false_eq_true, if_false]
    exact ⟨h.fingers, h.low, h.high, h.onHigh, rfl⟩
  case false.some r =>
    refine ⟨runs ++ [r], none, ?_, by simp [runsAux]⟩
    have hp : s.prevBit = true := h.prevBit
    simp only [BitmapScan.step, hp, if_true, Bool.false_eq_true, if_false]
    exact ⟨by simpa using h.fingers, by simpa using h.low, by simpa using h.high, by simp, rfl⟩
  case true.none =>
    refine ⟨runs, some ⟨i, 1⟩, ?_, rfl⟩
    have hp : s.prevBit = false := h.prevBit
    simp only [BitmapScan.step, hp, Bool.not_false, if_true, point_setPoint]
    cases runs with
    | nil =>
      have ho : s.onHigh = false := by simpa using h.onHigh
      refine ⟨by simp [setPoint, ho, h.fingers], by simp [setPoint, BitmapScan.point, ho], ?_, by simp [setPoint, ho], rfl⟩
      simpa [setPoint, ho] using h.high
    | cons q qs =>
      have ho : s.onHigh = true := by simpa using h.onHigh
      refine ⟨by simp [setPoint, ho, h.fingers]; omega, by simpa [setPoint, ho] using h.low, ?_,
        by simp [setPoint, ho], rfl⟩
      simp [setPoint, BitmapScan.point, ho, List.getLast?_cons]
  case true.some r =>
    refine ⟨runs, some ⟨r.startBit, r.numBits + 1⟩, ?_, rfl⟩
    have hp : s.prevBit = true := h.prevBit
    have hr := h.point
    simp only [BitmapScan.step, hp, Bool.not_true, Bool.false_eq_true, if_false, hr]
    cases runs with
    | nil =>
      have ho : s.onHigh = false := by simpa using h.onHigh
      refine ⟨by simpa [setPoint, ho] using h.fingers, by simp [setPoint, ho], ?_, by simp [setPoint, ho], rfl⟩
      simpa [setPoint, ho] using h.high
    | cons q qs =>
      have ho : s.onHigh = true := by simpa using h.onHigh
      refine ⟨by simpa [setPoint, ho] using h.fingers, by simpa [setPoint, ho] using h.low, ?_,
        by simp [setPoint, ho], rfl⟩
      simp [setPoint, ho, List.getLast?_cons]

end BitmapScan

theorem shiftRight_one_lt {map m : Nat} (h : map < 2 ^ (m + 1)) : map >>> 1 < 2 ^ m := by
  rw [Nat.shiftRight_one]; rw [pow_succ] at h; omega

/-- The loop over a bitmap below `2 ^ n` tracks the runs of its bits. -/
theorem bitmapLoop_tracks {low high : BitmapPoint} {k : Int} (n map i : Nat) (hmap : map < 2 ^ n)
    {runs : List BitmapPoint} {pending : Option BitmapPoint} {s : BitmapScan}
    (h : s.Tracks low high k runs pending) :
    ∃ runs' pending', (bitmapLoop n map i s).Tracks low high k runs' pending' ∧
      runs' ++ pending'.toList = runs ++ runsAux pending i map.bits := by
  induction n generalizing map i runs pending s with
  | zero =>
    obtain rfl : map = 0 := by omega
    exact ⟨runs, pending, h, by rw [Nat.zero_bits, runsAux_nil]⟩
  | succ n ih =>
    unfold bitmapLoop
    split
    · subst map
      exact ⟨runs, pending, h, by rw [Nat.zero_bits, runsAux_nil]⟩
    · rename_i h0
      obtain ⟨runs₁, pending₁, h₁, e₁⟩ := h.step i (map &&& 1 == 1) (map >>> 1).bits
      obtain ⟨runs₂, pending₂, h₂, e₂⟩ :=
        ih (map >>> 1) (i + 1) (shiftRight_one_lt hmap) h₁
      exact ⟨runs₂, pending₂, h₂, by rw [e₂, e₁, bits_eq_cons h0]⟩

/-! ### `alps_get_bitmap_points` -/

theorem bitsFrom_testBit (map : Nat) : BitsFrom map.testBit 0 map.bits := fun k => by
  rw [Nat.zero_add, Nat.testBit_eq_inth]

/-- `bitRuns map` lists the maximal runs of set bits of an unsigned `map`, lowest
    first and each ending before the next starts, and every set bit lies in one of
    them. -/
theorem bitRuns_spec {map : Nat} (hmap : map < 2 ^ 32) :
    (∀ r ∈ bitRuns map, IsMaximalRun map.testBit r) ∧
    (bitRuns map).Pairwise (fun r r' => r.startBit + r.numBits < r'.startBit) ∧
    ∀ j, map.testBit j = true → ∃ r ∈ bitRuns map, r.startBit ≤ j ∧ j < r.startBit + r.numBits := by
  have hopen : OpenRun map.testBit 0 none := Or.inl rfl
  rw [bitRuns_eq hmap]
  exact ⟨runsAux_maximal (bitsFrom_testBit map) hopen, runsAux_sorted fun p hp => absurd hp (Option.not_mem_none p),
    fun j => runsAux_cover (bitsFrom_testBit map) hopen j (Nat.zero_le j)⟩

/-- Every run is at least one bit long and ends within the significant bits. -/
theorem bitRuns_end_le {map : Nat} (hmap : map < 2 ^ 32) {r : BitmapPoint} (hr : r ∈ bitRuns map) :
    1 ≤ r.numBits ∧ r.startBit + r.numBits ≤ map.size := by
  obtain ⟨h1, hset, -, -⟩ := (bitRuns_spec hmap).1 r hr
  refine ⟨h1, Nat.not_lt.1 fun h => ?_⟩
  have hclear := (bitsFrom_testBit map).clear (j := r.startBit + r.numBits - 1) (by rw [Nat.size_eq_bits_len]; omega)
  rw [hset _ (by omega) (by omega)] at hclear
  exact nomatch hclear

theorem bitRuns_ne_nil {map : Nat} (hmap : map < 2 ^ 32) (h : map ≠ 0) : bitRuns map ≠ [] := by
  obtain ⟨j, hj⟩ := Nat.ne_zero_implies_bit_true h
  obtain ⟨r, hr, -⟩ := (bitRuns_spec hmap).2.2 j hj
  exact List.ne_nil_of_mem hr

/-- Fuel beyond the bits of `map` is never used: the loop has stopped. -/
theorem bitmapLoop_fuel {m : Nat} (n map i : Nat) (s : BitmapScan) (hmap : map < 2 ^ m) (hmn : m ≤ n) :
    bitmapLoop n map i s = bitmapLoop m map i s := by
  induction m generalizing n map i s with
  | zero =>
    obtain rfl : map = 0 := by omega
    cases n <;> rfl
  | succ m ih =>
    obtain ⟨n, rfl⟩ : ∃ k, n = k + 1 := ⟨n - 1, by omega⟩
    unfold bitmapLoop
    split
    · rfl
    · exact ih n _ _ _ (shiftRight_one_lt hmap) (by omega)

/-- The loop test `map != 0` holds at iteration `k` exactly while `k` is below the
    number of significant bits. -/
theorem shiftRight_ne_zero_iff (map k : Nat) : map >>> k ≠ 0 ↔ k < map.size := by
  rw [Nat.shiftRight_eq_div_pow, Ne, Nat.div_eq_zero_iff (Nat.two_pow_pos k), Nat.not_lt, Nat.lt_size]

/-- On an unsigned bitmap the count grows by the number of runs, `*low` ends as the
    lowest run, and `*high` as the highest when there are two or more. -/
theorem alpsGetBitmapPoints_eq {map : Nat} (hmap : map < 2 ^ 32) (low high : BitmapPoint) (n : Int) :
    (alpsGetBitmapPoints map low high n).2.2 = n + (bitRuns map).length ∧
    (alpsGetBitmapPoints map low high n).1 = (bitRuns map).head?.getD low ∧
    (alpsGetBitmapPoints map low high n).2.1 =
      if 2 ≤ (bitRuns map).length then (bitRuns map).getLast?.getD high else high := by
  have h0 : BitmapScan.Tracks low high n [] none ⟨low, high, false, false, n⟩ :=
    ⟨by simp, rfl, by simp, rfl, rfl⟩
  obtain ⟨runs, pending, h, e⟩ := bitmapLoop_tracks 32 map 0 hmap h0
  rw [List.nil_append, ← bitRuns_eq hmap] at e
  unfold alpsGetBitmapPoints
  rw [← e]
  exact ⟨h.fingers, h.low, h.high⟩

/-- `processBitmap` counts the runs of its busier axis, or returns 0 on an empty
    bitmap. -/
theorem processBitmap_fingers (p : Profile) (st : Int) {f : AlpsFields} (hx : f.xMap < 2 ^ 32)
    (hy : f.yMap < 2 ^ 32) : (processBitmap p st f).1 =
      if f.xMap = 0 ∨ f.yMap = 0 then 0 else max ((bitRuns f.xMap).length : Int) (bitRuns f.yMap).length := by
  unfold processBitmap
  split
  · rfl
  · simp only [(alpsGetBitmapPoints_eq hx _ _ _).1, (alpsGetBitmapPoints_eq hy _ _ _).1, zero_add]

/-- `alps_get_bitmap_points` on a nonzero unsigned bitmap runs one iteration per
    significant bit, adds the number of maximal runs of set bits to `*fingers`,
    leaves the lowest run in `*low`, and the highest in `*high` when there are two or
    more; a single run leaves `*high` as it was. So `processBitmap` counts the runs
    of its busier axis when both bitmaps are nonzero, and returns 0 otherwise. -/
theorem alpsGetBitmapPoints_runs (map : Nat) (hmap : map < 2 ^ 32) (h0 : map ≠ 0) (low high : BitmapPoint)
    (n : Int) :
    map.size ≤ 32 ∧ (∀ k, map >>> k ≠ 0 ↔ k < map.size) ∧
    bitmapLoop 32 map 0 ⟨low, high, false, false, n⟩ = bitmapLoop map.size map 0 ⟨low, high, false, false, n⟩ ∧
    (alpsGetBitmapPoints map low high n).2.2 = n + (bitRuns map).length ∧
    some (alpsGetBitmapPoints map low high n).1 = (bitRuns map).head? ∧
    (2 ≤ (bitRuns map).length → some (alpsGetBitmapPoints map low high n).2.1 = (bitRuns map).getLast?) ∧
    ((bitRuns map).length = 1 → (alpsGetBitmapPoints map low high n).2.1 = high) ∧
    ∀ (p : Profile) (st : Int) (f : AlpsFields), f.xMap < 2 ^ 32 → f.yMap < 2 ^ 32 →
      (processBitmap p st f).1 =
        if f.xMap = 0 ∨ f.yMap = 0 then 0 else max ((bitRuns f.xMap).length : Int) (bitRuns f.yMap).length := by
  have hsize : map.size ≤ 32 := Nat.size_le.2 hmap
  obtain ⟨hn, hlow, hhigh⟩ := alpsGetBitmapPoints_eq hmap low high n
  obtain ⟨r, rs, hrs⟩ := List.exists_cons_of_ne_nil (bitRuns_ne_nil hmap h0)
  refine ⟨hsize, shiftRight_ne_zero_iff map, bitmapLoop_fuel 32 map 0 _ (Nat.lt_size_self map) hsize, hn,
    by rw [hlow, hrs]; rfl, fun h2 => ?_, fun h1 => by rw [hhigh, if_neg (by omega)],
    fun p st f hx hy => processBitmap_fingers p st hx hy⟩
  rw [hhigh, if_pos h2, List.getLast?_eq_getLast _ (bitRuns_ne_nil hmap h0)]; rfl

theorem alpsGetBitmapPoints_runs_two :
    ((11 : Nat) < 2 ^ 32 ∧ (11 : Nat) ≠ 0) ∧
    (alpsGetBitmapPoints 11 ⟨0, 0⟩ ⟨0, 0⟩ 0).2.2 = 0 + (bitRuns 11).length :=
  ⟨⟨by decide, by decide⟩, (alpsGetBitmapPoints_runs 11 (by decide) (by decide) ⟨0, 0⟩ ⟨0, 0⟩ 0).2.2.2.1⟩

end AlpsGlidePoint
