import AlpsGlidePoint.ModeGraph

/-! # Timers

A call arms its two timers only in the finger-lift step. The scroll timer starts
momentum scrolling after a lift in MultiTouch with `momentumscroll` on. The drag
timer ends a drag that the lift leaves waiting in DragNoTouch when neither the drag
lock nor the temporary drag lock holds it. Every other stage emits pointer, scroll
and keyboard events, or cancels the drag timer, and arms nothing.

So every timer a sample arms comes from a lift, with the timeout the configuration
gives, and a sample that arms the drag timer ends in DragNoTouch: the pressure stays
under `z_finger` for the rest of the call, and no stage after the lift leaves that
mode then.
-/

namespace AlpsGlidePoint

/-- The timers some events arm, with their timeouts, in order. -/
def timerArms (out : List Event) : List (Timer × Int) :=
  out.filterMap fun
    | .setTimerTimeout t v => some (t, v)
    | _ => none

@[simp] theorem timerArms_nil : timerArms [] = [] := rfl

@[simp] theorem timerArms_append (out out' : List Event) :
    timerArms (out ++ out') = timerArms out ++ timerArms out' := by
  simp [timerArms, List.filterMap_append]

@[simp] theorem timerArms_pointer (dx dy : Int) (b : UInt32) (out : List Event) :
    timerArms (.dispatchRelativePointerEventX dx dy b :: out) = timerArms out := rfl

@[simp] theorem timerArms_scroll (a b c : Int) (out : List Event) :
    timerArms (.dispatchScrollWheelEventX a b c :: out) = timerArms out := rfl

@[simp] theorem timerArms_message (m : KeyboardMessage) (out : List Event) :
    timerArms (.dispatchKeyboardMessage m :: out) = timerArms out := rfl

@[simp] theorem timerArms_cancelTimer (t : Timer) (out : List Event) :
    timerArms (.cancelTimer t :: out) = timerArms out := rfl

@[simp] theorem timerArms_setTimer (t : Timer) (v : Int) (out : List Event) :
    timerArms (.setTimerTimeout t v :: out) = (t, v) :: timerArms out := rfl

theorem mem_timerArms {t : Timer} {v : Int} {out : List Event} :
    (t, v) ∈ timerArms out ↔ Event.setTimerTimeout t v ∈ out := by
  induction out with
  | nil => simp
  | cons e out ih => cases e <;> simp [ih]

theorem CallState.ite_timerArms (p : Prop) [Decidable p] (a b : CallState) :
    timerArms (if p then a else b).out = if p then timerArms a.out else timerArms b.out :=
  apply_ite (fun c : CallState => timerArms c.out) p a b

section Stages

variable (cfg : Config) (env : Env) (z fingers : Int) (c : CallState) {t : Timer} {v : Int}

/-! ### Stages that arm nothing -/

theorem cancelPreDrag_timerArms : timerArms (cancelPreDrag cfg env c).out = timerArms c.out := by
  simp only [cancelPreDrag, CallState.setMode, CallState.ite_timerArms, ite_self]

theorem cancelTap_timerArms : timerArms (cancelTap cfg z c).out = timerArms c.out := by
  simp only [cancelTap, CallState.ite_timerArms, ite_self]

theorem captureTap_timerArms : timerArms (captureTap cfg env z fingers c).out = timerArms c.out := by
  simp only [captureTap, CallState.ite_timerArms, ite_self]

theorem resolveTap_timerArms : timerArms (resolveTap cfg fingers c).out = timerArms c.out := by
  unfold resolveTap
  split <;> simp only [CallState.emit_out, CallState.setMode, CallState.ite_timerArms, timerArms_append,
    timerArms_pointer, timerArms_nil, List.append_nil, ite_self]

theorem motion_timerArms : timerArms (motion cfg env z fingers c).out = timerArms c.out := by
  have two (c : CallState) : timerArms (twoFingerScroll cfg env z fingers c).out = timerArms c.out := by
    simp only [twoFingerScroll, twoFingerDispatch, holdSmallDx, holdSmallDy, recordDy, twoFingerDeltas,
      CallState.emit_out, CallState.divideIf, CallState.ite_timerArms, timerArms_append, timerArms_scroll,
      timerArms_nil, List.append_nil, ite_self]
  have multi : timerArms (multiTouch cfg env z fingers c).out = timerArms c.out := by
    simp only [multiTouch, two, threeFingerSwipe, fourFingerSwipe, swipe3, swipe4, accumulateMoved,
      CallState.emit_out, CallState.setMode, CallState.ite_timerArms, timerArms_append, timerArms_message,
      timerArms_nil, List.append_nil, ite_self]
  have scroll : timerArms (vScrollMotion cfg env z fingers c).out = timerArms c.out ∧
      timerArms (hScrollMotion cfg env z fingers c).out = timerArms c.out ∧
      timerArms (cScrollMotion cfg env c).out = timerArms c.out := by
    simp only [vScrollMotion, hScrollMotion, cScrollMotion, CallState.emit_out, CallState.divide,
      CallState.setMode, CallState.ite_timerArms, timerArms_append, timerArms_scroll, timerArms_nil,
      List.append_nil, ite_self, and_self]
  cases hc : c.st.touchmode <;> simp only [motion, hc, moveDelta, multi, scroll, preDragButton, CallState.divide,
    CallState.ite_timerArms, ite_self]

/-- The promotions only cancel the drag timer, on entering DragLock. -/
theorem promote_timerArms : timerArms (promote cfg env z fingers c).out = timerArms c.out := by
  have triggers (ts : List (Bool × List Int)) (c : CallState) :
      timerArms (ts.foldl (cscrollTrigger cfg z) c).out = timerArms c.out := by
    induction ts generalizing c with
    | nil => rfl
    | cons t ts ih =>
        rw [List.foldl_cons, ih]
        simp only [cscrollTrigger, CallState.setMode, CallState.ite_timerArms, ite_self]
  have corner (c : CallState) : timerArms (promoteCScroll cfg z c).out = timerArms c.out := by
    unfold promoteCScroll; split
    · exact triggers _ c
    · rfl
  simp only [promote, promoteMove, promoteHScroll, promoteVScroll, corner, promoteMultiTouch, promoteDragLock,
    promoteDrag, CallState.emit_out, CallState.setMode, CallState.ite_timerArms, timerArms_append,
    timerArms_cancelTimer, timerArms_nil, List.append_nil, ite_self]

theorem report_timerArms : timerArms (report cfg z fingers c).out = timerArms c.out := by
  simp only [report, CallState.emit_out, CallState.divide, timerArms_append, timerArms_pointer, timerArms_nil,
    List.append_nil]

theorem afterLift_timerArms : timerArms (afterLift cfg env z fingers c).out = timerArms c.out := by
  rw [afterLift, report_timerArms, promote_timerArms, captureTap_timerArms, motion_timerArms, cancelTap_timerArms,
    cancelPreDrag_timerArms]

/-! ### The lift -/

/-- The momentum check arms the scroll timer, after MultiTouch with momentum
    scrolling on. -/
theorem momentumStart_arms (h : (t, v) ∈ timerArms (momentumStart cfg c).out) :
    (t, v) ∈ timerArms c.out ∨
      (t = .scrollTimer ∧ v = cfg.momentumscrolltimer ∧ c.st.touchmode = .mTouch ∧ cfg.momentumscroll = true) := by
  unfold momentumStart at h
  dsimp only at h
  split_ifs at h with hm
  · simp only [CallState.emit_out, timerArms_append, timerArms_setTimer, timerArms_nil, List.mem_append,
      List.mem_singleton, Prod.mk.injEq] at h
    exact h.imp_right fun ⟨ht, hv⟩ => ⟨ht, hv, hm.1, hm.2.1⟩
  all_goals exact .inl h

/-- The drag release arms the drag timer, after Drag or DragLock with neither drag
    lock on, and leaves DragNoTouch. -/
theorem releaseDrag_arms (h : (t, v) ∈ timerArms (releaseDrag cfg c).out) :
    (t, v) ∈ timerArms c.out ∨
      (t = .dragTimer ∧ v = cfg.dragexitdelay ∧ (c.st.touchmode = .drag ∨ c.st.touchmode = .dragLock) ∧
        cfg.draglock = false ∧ (releaseDrag cfg c).st.touchmode = .dragNoTouch) := by
  unfold releaseDrag at h ⊢
  dsimp only at h ⊢
  split_ifs at h ⊢ with hd hl
  · simp only [CallState.emit_out, CallState.setMode, timerArms_append, timerArms_cancelTimer, timerArms_setTimer,
      timerArms_nil, List.append_nil, List.mem_append, List.mem_singleton, Prod.mk.injEq] at h
    refine h.imp_right fun ⟨ht, hv⟩ => ⟨ht, hv, hd.1, ?_, rfl⟩
    simp only [Bool.and_eq_true, Bool.not_eq_true'] at hl
    exact hl.1
  all_goals exact .inl h

/-- The lift arms the scroll timer after MultiTouch with momentum scrolling on, and
    the drag timer when it leaves a drag waiting in DragNoTouch with the drag lock
    off. -/
theorem fingerLift_arms (h : (t, v) ∈ timerArms (fingerLift cfg env fingers c).out) :
    (t, v) ∈ timerArms c.out ∨
      (t = .scrollTimer ∧ v = cfg.momentumscrolltimer ∧ c.st.touchmode = .mTouch ∧ cfg.momentumscroll = true) ∨
      (t = .dragTimer ∧ v = cfg.dragexitdelay ∧ (c.st.touchmode = .drag ∨ c.st.touchmode = .dragLock) ∧
        cfg.draglock = false ∧ (fingerLift cfg env fingers c).st.touchmode = .dragNoTouch) := by
  have hmode : (resetHistory (momentumStart cfg (liftReset env c))).st.touchmode = c.st.touchmode :=
    (momentumStart_keeps cfg env fingers (liftReset env c)).1
  have hmomentum (h : (t, v) ∈ timerArms (resetHistory (momentumStart cfg (liftReset env c))).out) :=
    momentumStart_arms cfg (liftReset env c) h
  unfold fingerLift clearTaps tapOrRelease at h ⊢
  dsimp only at h ⊢
  split_ifs at h ⊢
  · rw [resolveTap_timerArms] at h
    exact (hmomentum h).imp_right .inl
  · rcases releaseDrag_arms cfg _ h with h | h
    · exact (hmomentum h).imp_right .inl
    · rw [hmode] at h
      exact .inr (.inr h)

/-- Under `z_finger`, the stages after the lift keep DragNoTouch. -/
theorem afterLift_dragNoTouch (hz : z < cfg.zFinger) (hc : c.st.touchmode = .dragNoTouch) :
    (afterLift cfg env z fingers c).st.touchmode = .dragNoTouch := by
  have hpre : (cancelTap cfg z (cancelPreDrag cfg env c)).st.touchmode = .dragNoTouch := by
    rw [(cancelTap_steady cfg z _ fun _ => False).touchmode]
    rcases cancelPreDrag_spec cfg env c with h | ⟨h, -⟩
    · rw [h, hc]
    · rw [hc] at h; cases h
  have hm := motion_mem cfg env z fingers (cancelTap cfg z (cancelPreDrag cfg env c))
  rw [hpre] at hm
  rw [afterLift, promote_of_not_touching cfg env z fingers _ (Int.not_lt.2 (Int.le_of_lt hz)),
    (report_steady cfg z fingers _).touchmode, (captureTap_steady cfg env z fingers _ fun _ => False).touchmode]
  exact List.mem_singleton.1 hm

end Stages

/-- Every timer a sample arms comes from a finger lift, with the timeout of the
    configuration: the scroll timer after MultiTouch with momentum scrolling on, the
    drag timer after Drag or DragLock with the drag lock off, and then the sample
    ends in DragNoTouch. -/
theorem timers_armed_only_on_lift (cfg : Config) (env : Env) (s : TouchState) (xraw yraw z fingers : Int)
    (b : UInt32) (t : Timer) (v : Int)
    (hmem : Event.setTimerTimeout t v ∈ (dispatchEventsWithInfo cfg env s xraw yraw z fingers b).out) :
    z < cfg.zFinger ∧
      ((t = .scrollTimer ∧ v = cfg.momentumscrolltimer ∧ s.touchmode = .mTouch ∧ cfg.momentumscroll = true) ∨
        (t = .dragTimer ∧ v = cfg.dragexitdelay ∧ (s.touchmode = .drag ∨ s.touchmode = .dragLock) ∧
          cfg.draglock = false ∧
          (dispatchEventsWithInfo cfg env s xraw yraw z fingers b).st.touchmode = .dragNoTouch)) := by
  obtain ⟨⟨lx, ly, idl, lb, hst⟩, hout, -⟩ := beforeLift_spec cfg env fingers b s xraw yraw
  have hmode : (beforeLift cfg env s xraw yraw fingers b).st.touchmode = s.touchmode := by rw [hst]
  have hnone : timerArms (beforeLift cfg env s xraw yraw fingers b).out = [] := by rw [hout]; rfl
  rw [← mem_timerArms] at hmem
  unfold dispatchEventsWithInfo fromLift at hmem ⊢
  dsimp only at hmem ⊢
  split_ifs at hmem ⊢ with hret hlift
  · rw [hnone] at hmem; cases hmem
  · rw [afterLift_timerArms] at hmem
    rcases fingerLift_arms cfg env fingers _ hmem with h | h | h
    · rw [hnone] at h; cases h
    · rw [hmode] at h
      exact ⟨hlift.1, .inl h⟩
    · obtain ⟨ht, hv, hd, hl, hn⟩ := h
      rw [hmode] at hd
      exact ⟨hlift.1, .inr ⟨ht, hv, hd, hl, afterLift_dragNoTouch cfg env z fingers _ hlift.1 hn⟩⟩
  · rw [afterLift_timerArms, hnone] at hmem; cases hmem

/-- Dragging with the drag timer and an exit delay of half a second, the rest as in
    `tapConfig`. -/
def dragTimerConfig : Config := { tapConfig with dragging := true, dragexitdelay := 500000000 }

/-- A drag under one finger at (1000, 1000), touched down at time 0. -/
def draggingTouch : TouchState :=
  { TouchState.initial with touchmode := .drag, lastx := 1000, lasty := 1000, lastFingers := 1 }

theorem timers_armed_only_on_lift_release :
    Event.setTimerTimeout .dragTimer 500000000 ∈
        (dispatchEventsWithInfo dragTimerConfig (envAt 1000000000) draggingTouch 1000 1000 0 0 0).out ∧
      (0 < dragTimerConfig.zFinger ∧
        ((Timer.dragTimer = .scrollTimer ∧ 500000000 = dragTimerConfig.momentumscrolltimer ∧
            draggingTouch.touchmode = .mTouch ∧ dragTimerConfig.momentumscroll = true) ∨
          (Timer.dragTimer = .dragTimer ∧ 500000000 = dragTimerConfig.dragexitdelay ∧
            (draggingTouch.touchmode = .drag ∨ draggingTouch.touchmode = .dragLock) ∧ dragTimerConfig.draglock = false ∧
            (dispatchEventsWithInfo dragTimerConfig (envAt 1000000000) draggingTouch 1000 1000 0 0 0).st.touchmode =
              .dragNoTouch))) :=
  have hmem : Event.setTimerTimeout .dragTimer 500000000 ∈
      (dispatchEventsWithInfo dragTimerConfig (envAt 1000000000) draggingTouch 1000 1000 0 0 0).out := by decide
  ⟨hmem, timers_armed_only_on_lift dragTimerConfig (envAt 1000000000) draggingTouch 1000 1000 0 0 0 .dragTimer
    500000000 hmem⟩

end AlpsGlidePoint
