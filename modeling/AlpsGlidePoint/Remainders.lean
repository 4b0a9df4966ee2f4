import AlpsGlidePoint.Lift

/-! # Carrying the remainders

Each motion mode divides its movement by a divisor and carries the remainder to the
next sample, so that no movement is lost between samples. A sample whose delta is
computed keeps the account `u * d + r' = D + r` for the units `u` it emits, the
remainder `r'` after, the movement `D` since the last sample and the remainder `r`
before. Move, Drag and DragLock emit their units in the final report, after stages
that leave the deltas and remainders alone; two-finger scrolling keeps the account
on each scrolling axis; vertical and horizontal scrolling keep it on `scrollrest`,
and so does circular scrolling in the right half of the pad. In the left half
circular scrolling neither adds `scrollrest` nor updates it, and the account is
lost.
-/

namespace AlpsGlidePoint

/-- A stage that leaves the deltas and the pointer remainders as they were. -/
structure KeepsDeltas (c c' : CallState) : Prop where
  dx : c'.dx = c.dx
  dy : c'.dy = c.dy
  xrest : c'.st.xrest = c.st.xrest
  yrest : c'.st.yrest = c.st.yrest

namespace KeepsDeltas

variable {c c' c'' : CallState}

theorem refl (c : CallState) : KeepsDeltas c c := ⟨rfl, rfl, rfl, rfl⟩

theorem trans (h : KeepsDeltas c c') (h' : KeepsDeltas c' c'') : KeepsDeltas c c'' :=
  ⟨h'.dx.trans h.dx, h'.dy.trans h.dy, h'.xrest.trans h.xrest, h'.yrest.trans h.yrest⟩

end KeepsDeltas

/-- The scroll-wheel units among some events, summed per axis: `deltaAxis1`, the
    vertical axis, then `deltaAxis2`, the horizontal one. -/
def wheelUnits : List Event → Int × Int
  | [] => (0, 0)
  | .dispatchScrollWheelEventX a b _ :: es => ((wheelUnits es).1 + a, (wheelUnits es).2 + b)
  | _ :: es => wheelUnits es

@[simp] theorem wheelUnits_nil : wheelUnits [] = (0, 0) := rfl

@[simp] theorem wheelUnits_wheel (a b w : Int) :
    wheelUnits [.dispatchScrollWheelEventX a b w] = (a, b) := by
  simp [wheelUnits]

section Stages

variable (cfg : Config) (env : Env) (z fingers : Int) (c : CallState)

theorem captureTap_keepsDeltas : KeepsDeltas c (captureTap cfg env z fingers c) := by
  have st (c : CallState) (s : TouchState) (hx : s.xrest = c.st.xrest) (hy : s.yrest = c.st.yrest) :
      KeepsDeltas c { c with st := s } := ⟨rfl, rfl, hx, hy⟩
  unfold captureTap; split
  · refine KeepsDeltas.trans ?_ (st _ _ rfl rfl)
    split
    · lift_lets; intro _ c1
      have h1 : KeepsDeltas c c1 := by simp only [c1]; split <;> exact ⟨rfl, rfl, rfl, rfl⟩
      refine h1.trans ?_
      split_ifs <;> exact ⟨rfl, rfl, rfl, rfl⟩
    · exact .refl c
  · exact .refl c

theorem cscrollTriggers_keepsDeltas (ts : List (Bool × List Int)) :
    KeepsDeltas c (ts.foldl (cscrollTrigger cfg z) c) := by
  induction ts generalizing c with
  | nil => exact .refl c
  | cons t ts ih =>
    refine KeepsDeltas.trans ?_ (ih _)
    unfold cscrollTrigger; split_ifs <;> exact ⟨rfl, rfl, rfl, rfl⟩

theorem promoteDrag_keepsDeltas : KeepsDeltas c (promoteDrag cfg env z c) := by
  unfold promoteDrag; split_ifs <;> exact ⟨rfl, rfl, rfl, rfl⟩

theorem promoteDragLock_keepsDeltas : KeepsDeltas c (promoteDragLock cfg z c) := by
  unfold promoteDragLock; split_ifs <;> exact ⟨rfl, rfl, rfl, rfl⟩

theorem promoteMultiTouch_keepsDeltas : KeepsDeltas c (promoteMultiTouch cfg z fingers c) := by
  unfold promoteMultiTouch; split_ifs <;> exact ⟨rfl, rfl, rfl, rfl⟩

theorem promoteCScroll_keepsDeltas : KeepsDeltas c (promoteCScroll cfg z c) := by
  unfold promoteCScroll; split_ifs
  · exact cscrollTriggers_keepsDeltas cfg z _ _
  · exact .refl c

theorem promoteVScroll_keepsDeltas : KeepsDeltas c (promoteVScroll cfg z c) := by
  unfold promoteVScroll; split_ifs <;> exact ⟨rfl, rfl, rfl, rfl⟩

theorem promoteHScroll_keepsDeltas : KeepsDeltas c (promoteHScroll cfg z c) := by
  unfold promoteHScroll; split_ifs <;> exact ⟨rfl, rfl, rfl, rfl⟩

theorem promoteMove_keepsDeltas : KeepsDeltas c (promoteMove cfg z c) := by
  unfold promoteMove; split_ifs <;> exact ⟨rfl, rfl, rfl, rfl⟩

/-- The promotions change modes, never the deltas or the pointer remainders. -/
theorem promote_keepsDeltas : KeepsDeltas c (promote cfg env z fingers c) :=
  (((((promoteDrag_keepsDeltas cfg env z c).trans (promoteDragLock_keepsDeltas cfg z _)).trans
    (promoteMultiTouch_keepsDeltas cfg z fingers _)).trans (promoteCScroll_keepsDeltas cfg z _)).trans
    (promoteVScroll_keepsDeltas cfg z _)).trans (promoteHScroll_keepsDeltas cfg z _) |>.trans
    (promoteMove_keepsDeltas cfg z _)

end Stages

section Scroll

variable (cfg : Config) (env : Env) (z fingers : Int) (c : CallState)

/-- VScroll: a sample that stays in the mode and is not suppressed after typing emits
    units that, with `scrollrest` after, account for the vertical movement and
    `scrollrest` before. The source negates the units (`-dy / vscrolldivisor`). -/
theorem vScrollMotion_carries
    (hs : ¬(!cfg.vsticky ∧ (c.x < cfg.redge ∨ fingers > 1 ∨ z > cfg.zlimit)))
    (hp : ¬(cfg.palmWt ∧ env.nowNs - env.keytime < cfg.maxaftertyping)) :
    ∃ es, (vScrollMotion cfg env z fingers c).out = c.out ++ es ∧
      -(wheelUnits es).1 * cfg.vscrolldivisor + (vScrollMotion cfg env z fingers c).st.scrollrest =
        c.y - c.st.lasty + c.st.scrollrest := by
  unfold vScrollMotion
  rw [if_neg hs, if_neg hp]
  dsimp only
  generalize c.y - c.st.lasty + c.st.scrollrest = v
  split_ifs with h1 h2 h2
  · exact absurd rfl h2
  · exact ⟨[], by simp, by simp⟩
  · refine ⟨_, rfl, ?_⟩
    simp [Int.tdiv_add_tmod']
  · obtain rfl : v = 0 := not_not.mp h2
    exact ⟨[], by simp, by simp⟩

/-- HScroll: as VScroll, on the horizontal axis, with the units not negated
    (`dx / hscrolldivisor`). -/
theorem hScrollMotion_carries
    (hs : ¬(!cfg.hsticky ∧ (c.y < cfg.bedge ∨ fingers > 1 ∨ z > cfg.zlimit)))
    (hp : ¬(cfg.palmWt ∧ env.nowNs - env.keytime < cfg.maxaftertyping)) :
    ∃ es, (hScrollMotion cfg env z fingers c).out = c.out ++ es ∧
      (wheelUnits es).2 * cfg.hscrolldivisor + (hScrollMotion cfg env z fingers c).st.scrollrest =
        c.x - c.st.lastx + c.st.scrollrest := by
  unfold hScrollMotion
  rw [if_neg hs, if_neg hp]
  dsimp only
  generalize c.x - c.st.lastx + c.st.scrollrest = v
  split_ifs with h1 h2 h2
  · exact absurd rfl h2
  · exact ⟨[], by simp, by simp⟩
  · refine ⟨_, rfl, ?_⟩
    simp [Int.tdiv_add_tmod']
  · obtain rfl : v = 0 := not_not.mp h2
    exact ⟨[], by simp, by simp⟩

/-- CScroll in the right half of the pad: the rotary movement, the x-term chosen by
    `y < centery` and the y-term `y - lasty`, is carried through `scrollrest`. -/
theorem cScrollMotion_right_carries (hx : ¬c.x < cfg.centerx)
    (hp : ¬(cfg.palmWt ∧ env.nowNs - env.keytime < cfg.maxaftertyping)) :
    ∃ es, (cScrollMotion cfg env c).out = c.out ++ es ∧
      (wheelUnits es).1 * cfg.cscrolldivisor + (cScrollMotion cfg env c).st.scrollrest =
        (if c.y < cfg.centery then c.x - c.st.lastx else c.st.lastx - c.x) + (c.y - c.st.lasty) +
          c.st.scrollrest := by
  unfold cScrollMotion
  rw [if_neg hp]
  dsimp only
  simp only [if_neg hx]
  generalize (if c.y < cfg.centery then c.x - c.st.lastx else c.st.lastx - c.x) + (c.y - c.st.lasty) +
    c.st.scrollrest = v
  split_ifs with h1 h2 h2
  · exact absurd rfl h2
  · exact ⟨[], by simp, by simp⟩
  · refine ⟨_, rfl, ?_⟩
    simp [Int.tdiv_add_tmod']
  · obtain rfl : v = 0 := not_not.mp h2
    exact ⟨[], by simp, by simp⟩

/-- CScroll in the left half of the pad: a movement past the threshold is divided,
    but `scrollrest` is neither added to it nor updated. -/
theorem cScrollMotion_left_keeps_rest (hx : c.x < cfg.centerx)
    (hp : ¬(cfg.palmWt ∧ env.nowNs - env.keytime < cfg.maxaftertyping))
    (hbig : ¬cAbs ((if c.y < cfg.centery then c.x - c.st.lastx else c.st.lastx - c.x) + (c.st.lasty - c.y)) <
      cfg.scrolldxthresh) :
    (cScrollMotion cfg env c).st.scrollrest = c.st.scrollrest ∧
    ∃ es, (cScrollMotion cfg env c).out = c.out ++ es ∧
      (wheelUnits es).1 = Int.tdiv ((if c.y < cfg.centery then c.x - c.st.lastx else c.st.lastx - c.x) +
        (c.st.lasty - c.y)) cfg.cscrolldivisor := by
  unfold cScrollMotion
  rw [if_neg hp]
  dsimp only
  simp only [if_pos hx, if_neg hbig]
  generalize (if c.y < cfg.centery then c.x - c.st.lastx else c.st.lastx - c.x) + (c.st.lasty - c.y) = v
  split_ifs with h2
  · exact ⟨rfl, _, rfl, by simp⟩
  · obtain rfl : v = 0 := not_not.mp h2
    exact ⟨rfl, [], by simp, by simp⟩

theorem holdSmallDx_keeps : (holdSmallDx cfg c).dy = c.dy ∧ (holdSmallDx cfg c).st.yrest = c.st.yrest := by
  unfold holdSmallDx; split_ifs <;> exact ⟨rfl, rfl⟩

theorem holdSmallDy_keeps : (holdSmallDy cfg c).dx = c.dx ∧ (holdSmallDy cfg c).st.xrest = c.st.xrest := by
  unfold holdSmallDy; split_ifs <;> exact ⟨rfl, rfl⟩

/-- A horizontal delta with its remainder after division: held back when small, it
    is all remainder; otherwise quotient and remainder account for it. -/
theorem holdSmallDx_carry (d : Int) (h : c.st.xrest = Int.tmod c.dx d) :
    Int.tdiv (holdSmallDx cfg c).dx d * d + (holdSmallDx cfg c).st.xrest = c.dx := by
  unfold holdSmallDx; split_ifs
  · simp
  · rw [h]; exact Int.tdiv_add_tmod' _ _

/-- As `holdSmallDx_carry`, vertically. -/
theorem holdSmallDy_carry (d : Int) (h : c.st.yrest = Int.tmod c.dy d) :
    Int.tdiv (holdSmallDy cfg c).dy d * d + (holdSmallDy cfg c).st.yrest = c.dy := by
  unfold holdSmallDy; split_ifs
  · simp
  · rw [h]; exact Int.tdiv_add_tmod' _ _

/-- The two-finger deltas after the small movements are held back: on each scrolling
    axis the quotient of the delta and the remainder account for the movement and the
    remainder before. -/
theorem twoFinger_held :
    (cfg.wheelVertical = true →
      Int.tdiv (holdSmallDy cfg (holdSmallDx cfg (recordDy cfg env (twoFingerDeltas cfg c)))).dy cfg.wvdivisor *
          cfg.wvdivisor + (holdSmallDy cfg (holdSmallDx cfg (recordDy cfg env (twoFingerDeltas cfg c)))).st.yrest =
        c.y - c.st.lasty + c.st.yrest) ∧
    (cfg.wheelHorizontal = true →
      Int.tdiv (holdSmallDy cfg (holdSmallDx cfg (recordDy cfg env (twoFingerDeltas cfg c)))).dx cfg.whdivisor *
          cfg.whdivisor + (holdSmallDy cfg (holdSmallDx cfg (recordDy cfg env (twoFingerDeltas cfg c)))).st.xrest =
        c.x - c.st.lastx + c.st.xrest) := by
  constructor <;> intro h
  · obtain ⟨hdy, hyr⟩ := holdSmallDx_keeps cfg (recordDy cfg env (twoFingerDeltas cfg c))
    rw [holdSmallDy_carry cfg _ _ (by rw [hyr, hdy]; simp only [recordDy, twoFingerDeltas, h, if_true]), hdy]
    simp only [recordDy, twoFingerDeltas, h, if_true]
  · obtain ⟨hdx, hxr⟩ := holdSmallDy_keeps cfg (holdSmallDx cfg (recordDy cfg env (twoFingerDeltas cfg c)))
    rw [hdx, hxr, holdSmallDx_carry cfg _ _ (by simp only [recordDy, twoFingerDeltas, h, if_true])]
    simp only [recordDy, twoFingerDeltas, h, if_true]

/-- The two-finger dispatch: the remainders stay, and on each scrolling axis the
    units, with the source's negation undone, are the delta's quotient. -/
theorem twoFingerDispatch_units :
    ∃ es, (twoFingerDispatch cfg c).out = c.out ++ es ∧ (twoFingerDispatch cfg c).st = c.st ∧
      (cfg.wheelVertical = true → -(wheelUnits es).1 = Int.tdiv c.dy cfg.wvdivisor) ∧
      (cfg.wheelHorizontal = true → -(wheelUnits es).2 = Int.tdiv c.dx cfg.whdivisor) := by
  unfold twoFingerDispatch
  by_cases h : c.dy ≠ 0 ∨ c.dx ≠ 0
  · rw [if_pos h]
    exact ⟨_, rfl, rfl, fun hv => by simp [hv], fun hh => by simp [hh]⟩
  · rw [if_neg h]
    obtain ⟨hy, hx⟩ : c.dy = 0 ∧ c.dx = 0 := by simpa [not_or] using h
    exact ⟨[], by simp, rfl, fun _ => by simp [hy], fun _ => by simp [hx]⟩

/-- MultiTouch with two fingers held since the last sample and no palm or
    after-typing suppression: on each scrolling axis the units emitted, with the
    source's negation undone, and the remainder after account for the movement and
    the remainder before. -/
theorem twoFingerScroll_carries (hmode : c.st.touchmode = .mTouch) (h2 : fingers = 2)
    (hf : c.st.lastFingers = fingers) (hpalm : ¬(cfg.palm ∧ z > cfg.zlimit))
    (hp : ¬(cfg.palmWt ∧ env.nowNs - env.keytime < cfg.maxaftertyping)) :
    ∃ es, (motion cfg env z fingers c).out = c.out ++ es ∧
      (cfg.wvdivisor ≠ 0 →
        -(wheelUnits es).1 * cfg.wvdivisor + (motion cfg env z fingers c).st.yrest = c.y - c.st.lasty + c.st.yrest) ∧
      (cfg.whdivisor ≠ 0 → cfg.hscroll = true →
        -(wheelUnits es).2 * cfg.whdivisor + (motion cfg env z fingers c).st.xrest = c.x - c.st.lastx + c.st.xrest) := by
  have hm : motion cfg env z fingers c =
      twoFingerDispatch cfg (holdSmallDy cfg (holdSmallDx cfg (recordDy cfg env (twoFingerDeltas cfg c)))) := by
    subst h2
    simp only [motion, hmode, multiTouch, twoFingerScroll, hf, if_neg hpalm, if_neg hp]
    rfl
  obtain ⟨hy, hx⟩ := twoFinger_held cfg env c
  obtain ⟨es, hes, hst, hv, hh⟩ := twoFingerDispatch_units cfg
    (holdSmallDy cfg (holdSmallDx cfg (recordDy cfg env (twoFingerDeltas cfg c))))
  have hout : (holdSmallDy cfg (holdSmallDx cfg (recordDy cfg env (twoFingerDeltas cfg c)))).out = c.out := by
    unfold holdSmallDy holdSmallDx; split_ifs <;> rfl
  refine ⟨es, by rw [hm, hes, hout], fun hw => ?_, fun hw hs => ?_⟩
  · have hv' : cfg.wheelVertical = true := by simpa [Config.wheelVertical] using hw
    rw [hm, hst, hv hv', hy hv']
  · have hh' : cfg.wheelHorizontal = true := by simpa [Config.wheelHorizontal] using ⟨hw, hs⟩
    rw [hm, hst, hh hh', hx hh']

end Scroll

/-- Circular scrolling started from the left edge (`ctrigger` 9 starts it from any
    edge), three units of movement per wheel step. -/
def cscrollConfig : Config :=
  { tapConfig with scroll := true, cscrolldivisor := 3, ctrigger := 9, ledge := 1000 }

/-- A touch at the left edge from the session start: circular scrolling begins. -/
def cscrollTouch : TouchState :=
  gestureStep cscrollConfig TouchState.initial (.sample (envAt 1000000000) 500 1000 60 1 0)

/-- From the session start, circular scrolling in the left half of the pad, a
    movement of 7 divided by 3: two wheel units are emitted and `scrollrest` stays 0,
    so the remainder 1 is lost. -/
theorem cScroll_left_half_loses_remainder :
    cscrollTouch.touchmode = .cScroll ∧ cscrollTouch.scrollrest = 0 ∧
    (dispatchEventsWithInfo cscrollConfig (envAt 1010000000) cscrollTouch 507 1000 60 1 0).out =
      [.dispatchScrollWheelEventX 2 0 0, .dispatchRelativePointerEventX 0 0 0] ∧
    (dispatchEventsWithInfo cscrollConfig (envAt 1010000000) cscrollTouch 507 1000 60 1 0).st.scrollrest = 0 ∧
    (wheelUnits (dispatchEventsWithInfo cscrollConfig (envAt 1010000000) cscrollTouch 507 1000 60 1 0).out).1 *
        cscrollConfig.cscrolldivisor +
        (dispatchEventsWithInfo cscrollConfig (envAt 1010000000) cscrollTouch 507 1000 60 1 0).st.scrollrest ≠
      ((dispatchEventsWithInfo cscrollConfig (envAt 1010000000) cscrollTouch 507 1000 60 1 0).st.lastx -
          cscrollTouch.lastx) +
        (cscrollTouch.lasty -
          (dispatchEventsWithInfo cscrollConfig (envAt 1010000000) cscrollTouch 507 1000 60 1 0).st.lasty) +
        cscrollTouch.scrollrest := by
  decide

section Move

variable (cfg : Config) (env : Env) (z fingers : Int) (c : CallState)

/-- The Move arm, its delta computed and not bogus: the deltas are the movement plus
    the remainders, and the remainders are what their division leaves. -/
theorem moveDelta_computed (hf : c.st.lastFingers = fingers) (ht : env.nowNs - c.st.touchtime > 100000000)
    (hb : ¬(cAbs (c.x - c.st.lastx + c.st.xrest) > cfg.bogusdxthresh ∨
      cAbs (c.y - c.st.lasty + c.st.yrest) > cfg.bogusdythresh)) :
    (moveDelta cfg env fingers c).dx = c.x - c.st.lastx + c.st.xrest ∧
    (moveDelta cfg env fingers c).dy = c.y - c.st.lasty + c.st.yrest ∧
    (moveDelta cfg env fingers c).st.xrest = Int.tmod (c.x - c.st.lastx + c.st.xrest) cfg.divisorx ∧
    (moveDelta cfg env fingers c).st.yrest = Int.tmod (c.y - c.st.lasty + c.st.yrest) cfg.divisory := by
  unfold moveDelta
  rw [if_pos ⟨hf, ht⟩]
  dsimp only
  rw [if_neg hb]
  exact ⟨rfl, rfl, rfl, rfl⟩

@[simp] theorem report_out (c : CallState) :
    (report cfg z fingers c).out =
      c.out ++ [.dispatchRelativePointerEventX (Int.tdiv c.dx cfg.divisorx) (Int.tdiv c.dy cfg.divisory) c.buttons] :=
  rfl

@[simp] theorem report_xrest (c : CallState) : (report cfg z fingers c).st.xrest = c.st.xrest := rfl

@[simp] theorem report_yrest (c : CallState) : (report cfg z fingers c).st.yrest = c.st.yrest := rfl

/-- Move, Drag and DragLock: a sample whose delta is computed and not bogus ends in a
    report of the delta's units, and those units with the remainders after account for
    the movement and the remainders before. The stages between the motion step and the
    report change modes and taps, never the deltas or the remainders. -/
theorem move_carries (hmode : c.st.touchmode = .move ∨ c.st.touchmode = .drag ∨ c.st.touchmode = .dragLock)
    (hf : c.st.lastFingers = fingers) (ht : env.nowNs - c.st.touchtime > 100000000)
    (hb : ¬(cAbs (c.x - c.st.lastx + c.st.xrest) > cfg.bogusdxthresh ∨
      cAbs (c.y - c.st.lasty + c.st.yrest) > cfg.bogusdythresh)) :
    ∃ pre ux uy b,
      (report cfg z fingers (promote cfg env z fingers (captureTap cfg env z fingers (motion cfg env z fingers c)))).out =
        pre ++ [.dispatchRelativePointerEventX ux uy b] ∧
      ux * cfg.divisorx +
          (report cfg z fingers (promote cfg env z fingers (captureTap cfg env z fingers (motion cfg env z fingers c)))).st.xrest =
        c.x - c.st.lastx + c.st.xrest ∧
      uy * cfg.divisory +
          (report cfg z fingers (promote cfg env z fingers (captureTap cfg env z fingers (motion cfg env z fingers c)))).st.yrest =
        c.y - c.st.lasty + c.st.yrest := by
  obtain ⟨hdx, hdy, hxr, hyr⟩ : (motion cfg env z fingers c).dx = c.x - c.st.lastx + c.st.xrest ∧
      (motion cfg env z fingers c).dy = c.y - c.st.lasty + c.st.yrest ∧
      (motion cfg env z fingers c).st.xrest = Int.tmod (c.x - c.st.lastx + c.st.xrest) cfg.divisorx ∧
      (motion cfg env z fingers c).st.yrest = Int.tmod (c.y - c.st.lasty + c.st.yrest) cfg.divisory := by
    rcases hmode with h | h | h <;> simp only [motion, h]
    · exact moveDelta_computed cfg env fingers c hf ht hb
    all_goals split_ifs <;> exact moveDelta_computed cfg env fingers _ hf ht hb
  have hk := (captureTap_keepsDeltas cfg env z fingers (motion cfg env z fingers c)).trans
    (promote_keepsDeltas cfg env z fingers _)
  refine ⟨_, _, _, _, report_out cfg z fingers _, ?_, ?_⟩
  · rw [report_xrest, hk.dx, hk.xrest, hdx, hxr, Int.tdiv_add_tmod']
  · rw [report_yrest, hk.dy, hk.yrest, hdy, hyr, Int.tdiv_add_tmod']

end Move

/-- Every motion mode but the left half of circular scrolling carries its remainder:
    for a sample whose delta the mode computes, the units emitted, the source's
    negation undone, times the divisor, plus the remainder after, are the movement
    plus the remainder before. -/
theorem motion_carries_remainder (cfg : Config) (env : Env) (z fingers : Int) :
    (∀ c : CallState, (c.st.touchmode = .move ∨ c.st.touchmode = .drag ∨ c.st.touchmode = .dragLock) →
      c.st.lastFingers = fingers → env.nowNs - c.st.touchtime > 100000000 →
      ¬(cAbs (c.x - c.st.lastx + c.st.xrest) > cfg.bogusdxthresh ∨
        cAbs (c.y - c.st.lasty + c.st.yrest) > cfg.bogusdythresh) →
      ∃ pre ux uy b,
        (report cfg z fingers (promote cfg env z fingers (captureTap cfg env z fingers (motion cfg env z fingers c)))).out =
          pre ++ [.dispatchRelativePointerEventX ux uy b] ∧
        ux * cfg.divisorx + (report cfg z fingers
            (promote cfg env z fingers (captureTap cfg env z fingers (motion cfg env z fingers c)))).st.xrest =
          c.x - c.st.lastx + c.st.xrest ∧
        uy * cfg.divisory + (report cfg z fingers
            (promote cfg env z fingers (captureTap cfg env z fingers (motion cfg env z fingers c)))).st.yrest =
          c.y - c.st.lasty + c.st.yrest) ∧
    (∀ c : CallState, c.st.touchmode = .mTouch → fingers = 2 → c.st.lastFingers = fingers →
      ¬(cfg.palm ∧ z > cfg.zlimit) → ¬(cfg.palmWt ∧ env.nowNs - env.keytime < cfg.maxaftertyping) →
      ∃ es, (motion cfg env z fingers c).out = c.out ++ es ∧
        (cfg.wvdivisor ≠ 0 →
          -(wheelUnits es).1 * cfg.wvdivisor + (motion cfg env z fingers c).st.yrest = c.y - c.st.lasty + c.st.yrest) ∧
        (cfg.whdivisor ≠ 0 → cfg.hscroll = true →
          -(wheelUnits es).2 * cfg.whdivisor + (motion cfg env z fingers c).st.xrest = c.x - c.st.lastx + c.st.xrest)) ∧
    (∀ c : CallState, c.st.touchmode = .vScroll →
      ¬(!cfg.vsticky ∧ (c.x < cfg.redge ∨ fingers > 1 ∨ z > cfg.zlimit)) →
      ¬(cfg.palmWt ∧ env.nowNs - env.keytime < cfg.maxaftertyping) →
      ∃ es, (motion cfg env z fingers c).out = c.out ++ es ∧
        -(wheelUnits es).1 * cfg.vscrolldivisor + (motion cfg env z fingers c).st.scrollrest =
          c.y - c.st.lasty + c.st.scrollrest) ∧
    (∀ c : CallState, c.st.touchmode = .hScroll →
      ¬(!cfg.hsticky ∧ (c.y < cfg.bedge ∨ fingers > 1 ∨ z > cfg.zlimit)) →
      ¬(cfg.palmWt ∧ env.nowNs - env.keytime < cfg.maxaftertyping) →
      ∃ es, (motion cfg env z fingers c).out = c.out ++ es ∧
        (wheelUnits es).2 * cfg.hscrolldivisor + (motion cfg env z fingers c).st.scrollrest =
          c.x - c.st.lastx + c.st.scrollrest) ∧
    (∀ c : CallState, c.st.touchmode = .cScroll → ¬c.x < cfg.centerx →
      ¬(cfg.palmWt ∧ env.nowNs - env.keytime < cfg.maxaftertyping) →
      ∃ es, (motion cfg env z fingers c).out = c.out ++ es ∧
        (wheelUnits es).1 * cfg.cscrolldivisor + (motion cfg env z fingers c).st.scrollrest =
          (if c.y < cfg.centery then c.x - c.st.lastx else c.st.lastx - c.x) + (c.y - c.st.lasty) +
            c.st.scrollrest) := by
  refine ⟨fun c hm hf ht hb => move_carries cfg env z fingers c hm hf ht hb,
    fun c hm h2 hf hpalm hp => twoFingerScroll_carries cfg env z fingers c hm h2 hf hpalm hp,
    fun c hm hs hp => ?_, fun c hm hs hp => ?_, fun c hm hx hp => ?_⟩
  · simpa only [motion, hm] using vScrollMotion_carries cfg env z fingers c hs hp
  · simpa only [motion, hm] using hScrollMotion_carries cfg env z fingers c hs hp
  · simpa only [motion, hm] using cScrollMotion_right_carries cfg env c hx hp

/-- A right-edge scroll moving 90 down. -/
def edgeScroll : CallState :=
  ⟨{ TouchState.initial with touchmode := .vScroll, lasty := 100 }, 0, 0, 6100, 190, 0, 0, 0, [], [], false⟩

theorem motion_carries_remainder_edgeScroll :
    edgeScroll.st.touchmode = .vScroll ∧
    ¬(!tapConfig.vsticky ∧ (edgeScroll.x < tapConfig.redge ∨ (1 : Int) > 1 ∨ (48 : Int) > tapConfig.zlimit)) ∧
    ¬(tapConfig.palmWt ∧ (envAt 0).nowNs - (envAt 0).keytime < tapConfig.maxaftertyping) ∧
    ∃ es, (motion tapConfig (envAt 0) 48 1 edgeScroll).out = edgeScroll.out ++ es ∧
      -(wheelUnits es).1 * tapConfig.vscrolldivisor + (motion tapConfig (envAt 0) 48 1 edgeScroll).st.scrollrest =
        edgeScroll.y - edgeScroll.st.lasty + edgeScroll.st.scrollrest :=
  have hm : edgeScroll.st.touchmode = .vScroll := rfl
  have hs : ¬(!tapConfig.vsticky ∧ (edgeScroll.x < tapConfig.redge ∨ (1 : Int) > 1 ∨ (48 : Int) > tapConfig.zlimit)) := by
    decide
  have hp : ¬(tapConfig.palmWt ∧ (envAt 0).nowNs - (envAt 0).keytime < tapConfig.maxaftertyping) := by decide
  ⟨hm, hs, hp, (motion_carries_remainder tapConfig (envAt 0) 48 1).2.2.1 edgeScroll hm hs hp⟩

end AlpsGlidePoint
