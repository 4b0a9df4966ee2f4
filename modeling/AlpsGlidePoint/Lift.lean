import AlpsGlidePoint.Gesture

/-! # Lifting the finger

A sample with the pressure under `z_finger` in a touch mode reaches the finger-lift
step. A lift that is no tap always leaves the touch modes. A tap does too in Drag
and DragLock, and when the default arm recognises a tap: a triple tap with `rtap`,
a double tap with `rtap` (after a pressure of 126 with two fingers), or a single
tap (one finger before the lift). Every other tap keeps the mode: MultiTouch or
Move survive the lift. The stages after the lift never enter a touch mode again
while the pressure stays under `z_finger`.

A touch that moves too far cancels its tap, but only across: the vertical distance
the cancel test computes is never positive, so no vertical movement resets
`touchtime`, and the lift after it still taps.
-/

namespace AlpsGlidePoint

/-- The lifts whose tap resolution leaves the mode as it is: a tap (within
    `maxtaptime`, `clicking` on) outside Drag and DragLock, that is no triple tap
    with `rtap`, and neither the double tap nor the single tap the default arm
    recognises. -/
def TapKeepsMode (cfg : Config) (env : Env) (s : TouchState) (fingers : Int) : Prop :=
  env.nowNs - s.touchtime < cfg.maxtaptime ∧ cfg.clicking = true ∧ s.touchmode ≠ .drag ∧
    s.touchmode ≠ .dragLock ∧ ¬(s.wastriple = true ∧ cfg.rtap = true) ∧
    (if s.wasdouble = true ∧ cfg.rtap = true then ¬(s.lastz = 126 ∧ s.lastFingers = 2 ∧ fingers = 0)
     else ¬(s.lastFingers = 1 ∧ fingers = 0))

section Lift

variable (cfg : Config) (env : Env) (z fingers : Int) (c : CallState)

/-- The momentum check changes only the momentum fields and the events. -/
theorem momentumStart_keeps : (momentumStart cfg c).st.touchmode = c.st.touchmode ∧
    (TapKeepsMode cfg env (momentumStart cfg c).st fingers ↔ TapKeepsMode cfg env c.st fingers) := by
  unfold momentumStart; dsimp only; split_ifs <;> exact ⟨rfl, Iff.rfl⟩

/-- A lift's tap resolution or drag release: a mode between contacts, or the mode
    kept by a tap the default arm does not recognise. -/
theorem tapOrRelease_touchmode : (tapOrRelease cfg env fingers c).st.touchmode.isTouchMode = false ∨
    (TapKeepsMode cfg env c.st fingers ∧ (tapOrRelease cfg env fingers c).st.touchmode = c.st.touchmode) := by
  unfold tapOrRelease
  split_ifs with htap
  · unfold resolveTap
    split
    · exact .inl rfl
    · exact .inl rfl
    · rename_i hdrag hlock
      split_ifs with h3 h2 h2' h1 <;>
        first
        | exact .inl rfl
        | exact .inr ⟨⟨htap.1, htap.2, hdrag, hlock, by simpa using h3, by simp_all⟩, rfl⟩
  · unfold releaseDrag; dsimp only; split_ifs <;> exact .inl rfl

/-- The finger-lift step ends in a mode between contacts, or keeps the mode on a tap
    the default arm does not recognise. -/
theorem fingerLift_touchmode : (fingerLift cfg env fingers c).st.touchmode.isTouchMode = false ∨
    (TapKeepsMode cfg env c.st fingers ∧ (fingerLift cfg env fingers c).st.touchmode = c.st.touchmode) := by
  obtain ⟨hmode, htap⟩ := momentumStart_keeps cfg env fingers (liftReset env c)
  rcases tapOrRelease_touchmode cfg env fingers (resetHistory (momentumStart cfg (liftReset env c))) with
    h | ⟨hkeep, h⟩
  · exact .inl h
  · exact .inr ⟨htap.1 hkeep, h.trans hmode⟩

/-- Under `z_finger` no promotion applies. -/
theorem promote_of_not_touching (hz : ¬cfg.zFinger < z) : promote cfg env z fingers c = c := by
  have hf : cfg.isFingerTouch z = false := by simp [Config.isFingerTouch, hz]
  have fold (ts : List (Bool × List Int)) : ts.foldl (cscrollTrigger cfg z) c = c := by
    induction ts with
    | nil => rfl
    | cons t ts ih => simpa [cscrollTrigger, hz] using ih
  simp [promote, promoteDrag, promoteDragLock, promoteMultiTouch, promoteCScroll, promoteVScroll,
    promoteHScroll, promoteMove, hf, hz, fold]

/-- Under `z_finger`, with a finger count other than one, the stages after the lift
    keep the mode or end in NoTouch. -/
theorem afterLift_touchmode (hz : z < cfg.zFinger) (hf : fingers ≠ 1) :
    (afterLift cfg env z fingers c).st.touchmode = c.st.touchmode ∨
    (afterLift cfg env z fingers c).st.touchmode = .noTouch := by
  have hmode : (afterLift cfg env z fingers c).st.touchmode =
      (motion cfg env z fingers (cancelTap cfg z (cancelPreDrag cfg env c))).st.touchmode := by
    rw [afterLift, promote_of_not_touching cfg env z fingers _ (Int.not_lt.2 (Int.le_of_lt hz))]
    exact (report_steady cfg z fingers _).touchmode.trans
      (captureTap_steady cfg env z fingers _ fun _ => False).touchmode
  have htap := (cancelTap_steady cfg z (cancelPreDrag cfg env c) fun _ => False).touchmode
  rw [hmode]
  rcases motion_touchmode cfg env z fingers (cancelTap cfg z (cancelPreDrag cfg env c)) with h | h | ⟨-, h⟩
  · rw [h, htap]
    rcases cancelPreDrag_spec cfg env c with h' | ⟨-, h'⟩ <;> rw [h']
    · exact .inl rfl
    · exact .inr rfl
  · exact .inr h
  · exact absurd h hf

/-- A sample under `z_finger` with no finger, in a touch mode, with the trackstick
    not holding the pad: the call reaches the finger-lift step and ends in a mode
    between contacts, unless the tap resolution keeps the mode. -/
theorem lift_leaves_touch_mode_or_tap_keeps (s : TouchState) (xraw yraw : Int) (b : UInt32)
    (hz : z < cfg.zFinger) (htouch : s.touchmode.isTouchMode = true) (hign : s.ignoreall = false) :
    (dispatchEventsWithInfo cfg env s xraw yraw z 0 b).st.touchmode.isTouchMode = false ∨
    (TapKeepsMode cfg env s 0 ∧ (dispatchEventsWithInfo cfg env s xraw yraw z 0 b).st.touchmode = s.touchmode) := by
  obtain ⟨⟨lx, ly, idl, lb, hs⟩, -⟩ := beforeLift_spec cfg env 0 b s xraw yraw
  have hout : outsideZone cfg env z (beforeLift cfg env s xraw yraw 0 b) = false := by
    simp [outsideZone, Int.not_lt.2 (Int.le_of_lt hz)]
  have hlift : dispatchEventsWithInfo cfg env s xraw yraw z 0 b =
      afterLift cfg env z 0 (fingerLift cfg env 0 (beforeLift cfg env s xraw yraw 0 b)) := by
    simp [dispatchEventsWithInfo, fromLift, hout, hs, hign, hz, htouch]
  rw [hlift]
  rcases fingerLift_touchmode cfg env 0 (beforeLift cfg env s xraw yraw 0 b) with h | ⟨hkeep, h⟩ <;>
    rcases afterLift_touchmode cfg env z 0 _ hz (by decide) with h' | h'
  · exact .inl (by rw [h', h])
  · exact .inl (by rw [h']; rfl)
  · rw [hs] at hkeep h
    exact .inr ⟨hkeep, h'.trans h⟩
  · exact .inl (by rw [h']; rfl)

/-- Two fingers touching at (3000, 2000), one sample after the session start. -/
def twoFingerTouch : TouchState :=
  gestureStep tapConfig TouchState.initial (.sample (envAt 1000) 3000 2000 60 2 0)

theorem lift_leaves_touch_mode_or_tap_keeps_twoFinger :
    (0 : Int) < tapConfig.zFinger ∧ twoFingerTouch.touchmode.isTouchMode = true ∧
    twoFingerTouch.ignoreall = false ∧
    ((dispatchEventsWithInfo tapConfig (envAt 2000) twoFingerTouch 3000 2000 0 0 0).st.touchmode.isTouchMode = false ∨
      (TapKeepsMode tapConfig (envAt 2000) twoFingerTouch 0 ∧
        (dispatchEventsWithInfo tapConfig (envAt 2000) twoFingerTouch 3000 2000 0 0 0).st.touchmode =
          twoFingerTouch.touchmode)) :=
  ⟨by decide, by decide, by decide, lift_leaves_touch_mode_or_tap_keeps tapConfig (envAt 2000) 0 twoFingerTouch
    3000 2000 0 (by decide) (by decide) (by decide)⟩

/-- The two fingers lift within `maxtaptime`: the sample reaches the finger-lift
    step, and the tap, a double tap without `rtap`, keeps MultiTouch. -/
theorem lift_keeps_multitouch :
    Reachable tapConfig twoFingerTouch ∧ twoFingerTouch.touchmode = .mTouch ∧
    twoFingerTouch.ignoreall = false ∧ (0 : Int) < tapConfig.zFinger ∧
    (dispatchEventsWithInfo tapConfig (envAt 2000) twoFingerTouch 3000 2000 0 0 0).lifted = true ∧
    (dispatchEventsWithInfo tapConfig (envAt 2000) twoFingerTouch 3000 2000 0 0 0).st.touchmode = .mTouch :=
  ⟨.step _ .init, by decide, by decide, by decide, by decide, by decide⟩

end Lift

/-! ### Cancelling a tap -/

/-- The cancel test ignores the vertical movement: with nonnegative vertical
    thresholds, `touchtime` after it is what it would be with the touch point at
    `touchy`. -/
theorem cancelTap_touchtime_vertical (cfg : Config) (hty : 0 ≤ cfg.tapthreshy) (hdy : 0 ≤ cfg.dblthreshy) (z : Int)
    (c : CallState) :
    (cancelTap cfg z c).st.touchtime = (cancelTap cfg z { c with yraw := c.st.touchy }).st.touchtime := by
  have hneg : (if c.yraw > c.st.touchy then c.st.touchy - c.yraw else c.yraw - c.st.touchy) ≤ 0 := by split <;> omega
  unfold cancelTap; dsimp only
  generalize (if c.yraw > c.st.touchy then c.st.touchy - c.yraw else c.yraw - c.st.touchy) = dy at hneg ⊢
  simp only [Int.sub_self, ite_self, decide_eq_false (show ¬dy > cfg.tapthreshy by omega),
    decide_eq_false (show ¬dy > cfg.dblthreshy by omega), decide_eq_false (show ¬(0 : Int) > cfg.tapthreshy by omega),
    decide_eq_false (show ¬(0 : Int) > cfg.dblthreshy by omega), Bool.or_false]
  split_ifs <;> rfl

/-- One finger touching at (1000, 1000), one sample after the session start. -/
def tapDown : TouchState := gestureStep tapConfig TouchState.initial (.sample (envAt 1000000000) 1000 1000 60 1 0)

/-- The finger 300 further down, 50 ms later. -/
def tapMovedDown : TouchState := gestureStep tapConfig tapDown (.sample (envAt 1050000000) 1000 1300 60 1 0)

/-- The finger 300 further right, 50 ms later. -/
def tapMovedRight : TouchState := gestureStep tapConfig tapDown (.sample (envAt 1050000000) 1300 1000 60 1 0)

/-- Vertical movement does not cancel a tap: from the session start, a touch at
    (1000, 1000) that moves 300 down, six times `tapthreshy`, keeps its `touchtime`,
    and the lift 100 ms after the touch reports a click of the left button. The same
    movement to the right resets `touchtime`, and the lift reports no button. -/
theorem vertical_move_keeps_tap :
    tapDown.touchtime = 1000000000 ∧ tapDown.touchy = 1000 ∧ (1300 : Int) - tapDown.touchy > tapConfig.tapthreshy ∧
    tapMovedDown.touchtime = 1000000000 ∧
    (dispatchEventsWithInfo tapConfig (envAt 1100000000) tapMovedDown 1000 1300 0 0 0).lifted = true ∧
    (dispatchEventsWithInfo tapConfig (envAt 1100000000) tapMovedDown 1000 1300 0 0 0).out =
      [.dispatchRelativePointerEventX 0 0 1] ∧
    tapMovedRight.touchtime = 0 ∧
    (dispatchEventsWithInfo tapConfig (envAt 1100000000) tapMovedRight 1300 1000 0 0 0).out =
      [.dispatchRelativePointerEventX 0 0 0] := by
  decide

end AlpsGlidePoint
