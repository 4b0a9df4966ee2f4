import AlpsGlidePoint.Lift

/-! # Pointing and scrolling

A sample moves the pointer only through the pointer event of its report, which
carries `dx` and `dy`, and scrolls only in the scroll arms of the mode switch. Of the
arms, only Move, Drag and DragLock leave `dx` or `dy` non-zero: the scroll arms zero
what they dispatch. The stages before the mode switch enter no pointer mode and no
scroll mode: a lift sets NoTouch, PreDrag or DragNoTouch, or keeps the mode.

So the mode a sample starts in decides what it may do: from any mode but Move, Drag
and DragLock it never moves the pointer, from any mode but MultiTouch and the three
scroll modes it never scrolls, and no sample does both. Nor does a sample move the
pointer further than `bogusdxthresh` and `bogusdythresh`: the Move arm drops a larger
delta whole, and the report only divides the delta it is left with.
-/

namespace AlpsGlidePoint

/-- A pointer event with a non-zero movement. -/
def Event.movesPointer : Event → Bool
  | .dispatchRelativePointerEventX dx dy _ => dx != 0 || dy != 0
  | _ => false

/-- A scroll-wheel event. -/
def Event.scrolls : Event → Bool
  | .dispatchScrollWheelEventX _ _ _ => true
  | _ => false

/-- The modes whose arm of the mode switch moves the pointer. -/
def TouchMode.isPointerMode : TouchMode → Bool
  | .move | .drag | .dragLock => true
  | _ => false

/-- The modes whose arm of the mode switch scrolls. -/
def TouchMode.isScrollMode : TouchMode → Bool
  | .mTouch | .vScroll | .hScroll | .cScroll => true
  | _ => false

namespace CallState

theorem ite_dx (p : Prop) [Decidable p] (a b : CallState) :
    (if p then a else b).dx = if p then a.dx else b.dx := apply_ite dx p a b

theorem ite_dy (p : Prop) [Decidable p] (a b : CallState) :
    (if p then a else b).dy = if p then a.dy else b.dy := apply_ite dy p a b

theorem ite_any (f : Event → Bool) (p : Prop) [Decidable p] (a b : CallState) :
    (if p then a else b).out.any f = if p then a.out.any f else b.out.any f :=
  apply_ite (fun c : CallState => c.out.any f) p a b

end CallState

/-- A dispatch that zeroes the value it tests leaves it zero. -/
theorem ite_ne_zero_self (x : Int) : (if x ≠ 0 then (0 : Int) else x) = 0 := by
  by_cases h : x = 0 <;> simp [h]

/-- A stage that keeps `dx` and `dy` and emits neither pointer movement nor scrolling. -/
structure Calm (c c' : CallState) : Prop where
  dx : c'.dx = c.dx
  dy : c'.dy = c.dy
  moves : c'.out.any Event.movesPointer = c.out.any Event.movesPointer
  scrolls : c'.out.any Event.scrolls = c.out.any Event.scrolls

namespace Calm

variable {c c' c'' : CallState}

theorem refl (c : CallState) : Calm c c := ⟨rfl, rfl, rfl, rfl⟩

theorem trans (h : Calm c c') (h' : Calm c' c'') : Calm c c'' :=
  ⟨h'.dx.trans h.dx, h'.dy.trans h.dy, h'.moves.trans h.moves, h'.scrolls.trans h.scrolls⟩

/-- The four fields at once, in the form one `simp` proves. -/
theorem of_eq (h : (c'.dx, c'.dy, c'.out.any Event.movesPointer, c'.out.any Event.scrolls) =
    (c.dx, c.dy, c.out.any Event.movesPointer, c.out.any Event.scrolls)) : Calm c c' := by
  simp only [Prod.mk.injEq] at h
  exact ⟨h.1, h.2.1, h.2.2.1, h.2.2.2⟩

end Calm

section Stages

variable (cfg : Config) (env : Env) (z fingers : Int) (c : CallState)

/-! ### Stages that neither point nor scroll -/

theorem cancelPreDrag_calm : Calm c (cancelPreDrag cfg env c) :=
  .of_eq (by simp only [cancelPreDrag, CallState.setMode, CallState.ite_dx, CallState.ite_dy,
    CallState.ite_any, ite_self])

theorem cancelTap_calm : Calm c (cancelTap cfg z c) :=
  .of_eq (by simp only [cancelTap, CallState.ite_dx, CallState.ite_dy, CallState.ite_any, ite_self])

theorem captureTap_calm : Calm c (captureTap cfg env z fingers c) :=
  .of_eq (by simp only [captureTap, CallState.ite_dx, CallState.ite_dy, CallState.ite_any, ite_self])

/-- A tap's clicks are pointer events without movement. -/
theorem resolveTap_calm : Calm c (resolveTap cfg fingers c) := by
  unfold resolveTap
  split <;> exact .of_eq (by
    simp only [CallState.emit, CallState.setMode, CallState.ite_dx, CallState.ite_dy, CallState.ite_any,
      List.any_append, List.any_cons, List.any_nil, Event.movesPointer, Event.scrolls, bne_self_eq_false,
      Bool.or_false, ite_self])

theorem fingerLift_calm : Calm c (fingerLift cfg env fingers c) := by
  have release (c : CallState) : Calm c (releaseDrag cfg c) :=
    .of_eq (by simp only [releaseDrag, CallState.emit, CallState.setMode, CallState.ite_dx, CallState.ite_dy,
      CallState.ite_any, List.any_append, List.any_cons, List.any_nil, Event.movesPointer, Event.scrolls,
      Bool.or_false, ite_self])
  have tap (c : CallState) : Calm c (tapOrRelease cfg env fingers c) := by
    unfold tapOrRelease; split
    · exact resolveTap_calm cfg fingers c
    · exact release c
  have reset : Calm c (resetHistory (momentumStart cfg (liftReset env c))) :=
    .of_eq (by simp only [resetHistory, momentumStart, liftReset, CallState.emit, CallState.ite_dx,
      CallState.ite_dy, CallState.ite_any, List.any_append, List.any_cons, List.any_nil, Event.movesPointer,
      Event.scrolls, Bool.or_false, ite_self])
  exact (reset.trans (tap _)).trans (.of_eq rfl)

theorem promote_calm : Calm c (promote cfg env z fingers c) := by
  have triggers (ts : List (Bool × List Int)) (c : CallState) : Calm c (ts.foldl (cscrollTrigger cfg z) c) := by
    induction ts generalizing c with
    | nil => exact .refl c
    | cons t ts ih =>
        exact (Calm.of_eq (by simp only [cscrollTrigger, CallState.setMode, CallState.ite_dx, CallState.ite_dy,
          CallState.ite_any, ite_self])).trans (ih _)
  have drag (c : CallState) : Calm c (promoteDragLock cfg z (promoteDrag cfg env z c)) :=
    .of_eq (by simp only [promoteDragLock, promoteDrag, CallState.emit, CallState.setMode, CallState.ite_dx,
      CallState.ite_dy, CallState.ite_any, List.any_append, List.any_cons, List.any_nil, Event.movesPointer,
      Event.scrolls, Bool.or_false, ite_self])
  have multi (c : CallState) : Calm c (promoteMultiTouch cfg z fingers c) :=
    .of_eq (by simp only [promoteMultiTouch, CallState.ite_dx, CallState.ite_dy, CallState.ite_any, ite_self])
  have corner (c : CallState) : Calm c (promoteCScroll cfg z c) := by
    unfold promoteCScroll; split
    · exact triggers _ c
    · exact .refl c
  have edges (c : CallState) : Calm c (promoteMove cfg z (promoteHScroll cfg z (promoteVScroll cfg z c))) :=
    .of_eq (by simp only [promoteMove, promoteHScroll, promoteVScroll, CallState.setMode, CallState.ite_dx,
      CallState.ite_dy, CallState.ite_any, ite_self])
  exact (((drag c).trans (multi _)).trans (corner _)).trans (edges _)

/-! ### The modes a lift leaves -/

/-- A mode class that holds of no mode between contacts stays false through a lift,
    which ends between contacts or keeps the mode. -/
theorem fingerLift_keeps (P : TouchMode → Bool) (hP : ∀ m : TouchMode, m.isTouchMode = false → P m = false)
    (hm : P c.st.touchmode = false) : P (fingerLift cfg env fingers c).st.touchmode = false := by
  rcases fingerLift_touchmode cfg env fingers c with h | ⟨-, h⟩
  · exact hP _ h
  · rw [h]; exact hm

/-! ### The mode switch -/

/-- The mode switch emits no pointer event. -/
theorem motion_moves : (motion cfg env z fingers c).out.any Event.movesPointer = c.out.any Event.movesPointer := by
  have two (c : CallState) :
      (twoFingerScroll cfg env z fingers c).out.any Event.movesPointer = c.out.any Event.movesPointer := by
    simp only [twoFingerScroll, twoFingerDispatch, holdSmallDx, holdSmallDy, recordDy, twoFingerDeltas,
      CallState.emit, CallState.divideIf, CallState.ite_any, List.any_append, List.any_cons, List.any_nil,
      Event.movesPointer, Bool.or_false, ite_self]
  have multi : (multiTouch cfg env z fingers c).out.any Event.movesPointer = c.out.any Event.movesPointer := by
    simp only [multiTouch, two, threeFingerSwipe, fourFingerSwipe, swipe3, swipe4, accumulateMoved, CallState.emit,
      CallState.setMode, CallState.ite_any, List.any_append, List.any_cons, List.any_nil, Event.movesPointer,
      Bool.or_false, ite_self]
  have scroll : (vScrollMotion cfg env z fingers c).out.any Event.movesPointer = c.out.any Event.movesPointer ∧
      (hScrollMotion cfg env z fingers c).out.any Event.movesPointer = c.out.any Event.movesPointer ∧
      (cScrollMotion cfg env c).out.any Event.movesPointer = c.out.any Event.movesPointer := by
    simp only [vScrollMotion, hScrollMotion, cScrollMotion, CallState.emit, CallState.divide, CallState.setMode,
      CallState.ite_any, List.any_append, List.any_cons, List.any_nil, Event.movesPointer, Bool.or_false, ite_self,
      and_self]
  cases hc : c.st.touchmode <;> simp only [motion, hc, moveDelta, multi, scroll, preDragButton, CallState.divide,
    CallState.ite_any, ite_self]

/-- Outside the scroll modes the mode switch does not scroll. -/
theorem motion_scrolls (hm : c.st.touchmode.isScrollMode = false) :
    (motion cfg env z fingers c).out.any Event.scrolls = c.out.any Event.scrolls := by
  cases hc : c.st.touchmode <;> simp only [hc, TouchMode.isScrollMode, Bool.true_eq_false] at hm <;>
    simp only [motion, hc, moveDelta, preDragButton, CallState.divide, CallState.ite_any, ite_self]

/-- The two-finger dispatch zeroes the deltas it sends, and keeps deltas that are
    both zero. -/
theorem twoFingerDispatch_still : (twoFingerDispatch cfg c).dx = 0 ∧ (twoFingerDispatch cfg c).dy = 0 := by
  unfold twoFingerDispatch
  by_cases h : c.dy ≠ 0 ∨ c.dx ≠ 0
  · rw [if_pos h]
    exact ⟨rfl, rfl⟩
  · rw [if_neg h]
    push_neg at h
    exact ⟨h.2, h.1⟩

/-- Outside the pointer modes the mode switch leaves `dx` and `dy` zero. -/
theorem motion_still (hm : c.st.touchmode.isPointerMode = false) (hx : c.dx = 0) (hy : c.dy = 0) :
    (motion cfg env z fingers c).dx = 0 ∧ (motion cfg env z fingers c).dy = 0 := by
  have two (c : CallState) (hx : c.dx = 0) (hy : c.dy = 0) :
      (twoFingerScroll cfg env z fingers c).dx = 0 ∧ (twoFingerScroll cfg env z fingers c).dy = 0 := by
    unfold twoFingerScroll
    split_ifs
    · exact ⟨hx, hy⟩
    · exact ⟨hx, hy⟩
    · exact ⟨hx, hy⟩
    · exact twoFingerDispatch_still cfg _
  have multi : (multiTouch cfg env z fingers c).dx = 0 ∧ (multiTouch cfg env z fingers c).dy = 0 := by
    unfold multiTouch
    split_ifs
    · exact ⟨hx, hy⟩
    · exact two c hx hy
    · simp only [threeFingerSwipe, swipe3, accumulateMoved, CallState.emit, CallState.ite_dx, CallState.ite_dy,
        hx, hy, ite_self, and_self]
    · simp only [fourFingerSwipe, swipe4, accumulateMoved, CallState.emit, CallState.ite_dx, CallState.ite_dy,
        hx, hy, ite_self, and_self]
    · exact ⟨hx, hy⟩
  unfold motion
  split <;> rename_i hc <;> simp only [hc, TouchMode.isPointerMode, Bool.true_eq_false] at hm <;> first
    | exact multi
    | simp only [vScrollMotion, hScrollMotion, cScrollMotion, preDragButton, CallState.emit, CallState.divide,
        CallState.setMode, CallState.ite_dx, CallState.ite_dy, hx, hy, ite_ne_zero_self, ite_self, and_self]

/-- The report adds the pointer event of `dx` and `dy` and no scrolling. -/
theorem report_events : (report cfg z fingers c).out.any Event.scrolls = c.out.any Event.scrolls ∧
    (report cfg z fingers c).out.any Event.movesPointer =
      (c.out.any Event.movesPointer || (c.dx.tdiv cfg.divisorx != 0 || c.dy.tdiv cfg.divisory != 0)) := by
  simp only [report, CallState.emit, CallState.divide, List.any_append, List.any_cons, List.any_nil,
    Event.movesPointer, Event.scrolls, Bool.or_false, and_self]

/-! ### One sample -/

/-- After the finger-lift test, outside the pointer modes and with `dx` and `dy` zero,
    a call emits no pointer movement. -/
theorem afterLift_moves (hm : c.st.touchmode.isPointerMode = false) (hx : c.dx = 0) (hy : c.dy = 0) :
    (afterLift cfg env z fingers c).out.any Event.movesPointer = c.out.any Event.movesPointer := by
  have pre : Calm c (cancelTap cfg z (cancelPreDrag cfg env c)) :=
    (cancelPreDrag_calm cfg env c).trans (cancelTap_calm cfg z _)
  have hm' : (cancelTap cfg z (cancelPreDrag cfg env c)).st.touchmode.isPointerMode = false := by
    rw [(cancelTap_steady cfg z _ (fun _ => False)).touchmode]
    rcases cancelPreDrag_spec cfg env c with h | ⟨-, h⟩ <;> rw [h]
    exacts [hm, rfl]
  obtain ⟨hx', hy'⟩ := motion_still cfg env z fingers _ hm' (pre.dx.trans hx) (pre.dy.trans hy)
  have post := (captureTap_calm cfg env z fingers (motion cfg env z fingers (cancelTap cfg z (cancelPreDrag cfg env c)))).trans
    (promote_calm cfg env z fingers _)
  simp only [afterLift, (report_events cfg z fingers _).2, post.moves, post.dx, post.dy, hx', hy', motion_moves,
    pre.moves, Int.zero_tdiv, bne_self_eq_false, Bool.or_false]

/-- After the finger-lift test, outside the scroll modes a call does not scroll. -/
theorem afterLift_scrolls (hm : c.st.touchmode.isScrollMode = false) :
    (afterLift cfg env z fingers c).out.any Event.scrolls = c.out.any Event.scrolls := by
  have pre : Calm c (cancelTap cfg z (cancelPreDrag cfg env c)) :=
    (cancelPreDrag_calm cfg env c).trans (cancelTap_calm cfg z _)
  have hm' : (cancelTap cfg z (cancelPreDrag cfg env c)).st.touchmode.isScrollMode = false := by
    rw [(cancelTap_steady cfg z _ (fun _ => False)).touchmode]
    rcases cancelPreDrag_spec cfg env c with h | ⟨-, h⟩ <;> rw [h]
    exacts [hm, rfl]
  have post := (captureTap_calm cfg env z fingers (motion cfg env z fingers (cancelTap cfg z (cancelPreDrag cfg env c)))).trans
    (promote_calm cfg env z fingers _)
  simp only [afterLift, (report_events cfg z fingers _).1, post.scrolls, motion_scrolls cfg env z fingers _ hm',
    pre.scrolls]

theorem fromLift_moves (hm : c.st.touchmode.isPointerMode = false) (hx : c.dx = 0) (hy : c.dy = 0) :
    (fromLift cfg env z fingers c).out.any Event.movesPointer = c.out.any Event.movesPointer := by
  unfold fromLift
  split
  · have hl := fingerLift_calm cfg env fingers c
    rw [afterLift_moves cfg env z fingers _ (fingerLift_keeps cfg env fingers c _ (fun m h => by cases m <;> first | rfl | cases h) hm)
      (hl.dx.trans hx) (hl.dy.trans hy), hl.moves]
  · exact afterLift_moves cfg env z fingers c hm hx hy

theorem fromLift_scrolls (hm : c.st.touchmode.isScrollMode = false) :
    (fromLift cfg env z fingers c).out.any Event.scrolls = c.out.any Event.scrolls := by
  unfold fromLift
  split
  · rw [afterLift_scrolls cfg env z fingers _ (fingerLift_keeps cfg env fingers c _ (fun m h => by cases m <;> first | rfl | cases h) hm),
      (fingerLift_calm cfg env fingers c).scrolls]
  · exact afterLift_scrolls cfg env z fingers c hm

/-- Before the finger-lift test nothing touches `dx` or `dy`. -/
theorem beforeLift_still (s : TouchState) (xraw yraw : Int) (b : UInt32) :
    (beforeLift cfg env s xraw yraw fingers b).dx = 0 ∧ (beforeLift cfg env s xraw yraw fingers b).dy = 0 := by
  simp only [beforeLift, ignoreDeltas, smoothInput, fingerChange, middleButtons, scaleAxes, CallState.divide,
    CallState.ite_dx, CallState.ite_dy, ite_self, and_self]

end Stages

/-- The mode a sample starts in decides what it may do: from any mode but Move, Drag
    and DragLock it emits no pointer movement, from any mode but MultiTouch, VScroll,
    HScroll and CScroll it emits no scrolling, and no sample emits both. -/
theorem sample_mode_gates_motion (cfg : Config) (env : Env) (s : TouchState) (xraw yraw z fingers : Int)
    (b : UInt32) :
    (s.touchmode.isPointerMode = false →
      ∀ e ∈ (dispatchEventsWithInfo cfg env s xraw yraw z fingers b).out, e.movesPointer = false) ∧
    (s.touchmode.isScrollMode = false →
      ∀ e ∈ (dispatchEventsWithInfo cfg env s xraw yraw z fingers b).out, e.scrolls = false) ∧
    ¬ ((∃ e ∈ (dispatchEventsWithInfo cfg env s xraw yraw z fingers b).out, e.movesPointer = true) ∧
      ∃ e ∈ (dispatchEventsWithInfo cfg env s xraw yraw z fingers b).out, e.scrolls = true) := by
  obtain ⟨⟨lx, ly, idl, lb, hst⟩, hout, -, -⟩ := beforeLift_spec cfg env fingers b s xraw yraw
  obtain ⟨hx, hy⟩ := beforeLift_still cfg env fingers s xraw yraw b
  have hmode : (beforeLift cfg env s xraw yraw fingers b).st.touchmode = s.touchmode := by rw [hst]
  have gates : (s.touchmode.isPointerMode = false →
      (dispatchEventsWithInfo cfg env s xraw yraw z fingers b).out.any Event.movesPointer = false) ∧
      (s.touchmode.isScrollMode = false →
      (dispatchEventsWithInfo cfg env s xraw yraw z fingers b).out.any Event.scrolls = false) := by
    unfold dispatchEventsWithInfo
    dsimp only
    split
    · simp [hout]
    · refine ⟨fun hpm => ?_, fun hsm => ?_⟩
      · rw [fromLift_moves cfg env z fingers _ (hmode ▸ hpm) hx hy, hout, List.any_nil]
      · rw [fromLift_scrolls cfg env z fingers _ (hmode ▸ hsm), hout, List.any_nil]
  simp only [List.any_eq_false, Bool.not_eq_true] at gates
  refine ⟨gates.1, gates.2, fun ⟨⟨e, he, hme⟩, ⟨e', he', hse⟩⟩ => ?_⟩
  cases hpm : s.touchmode.isPointerMode
  · rw [gates.1 hpm e he] at hme; cases hme
  · have hsm : s.touchmode.isScrollMode = false := by
      revert hpm; cases s.touchmode <;> decide
    rw [gates.2 hsm e' he'] at hse; cases hse

theorem sample_mode_gates_motion_initial :
    TouchState.initial.touchmode.isPointerMode = false ∧ TouchState.initial.touchmode.isScrollMode = false ∧
      (∀ e ∈ (dispatchEventsWithInfo tapConfig (envAt 0) TouchState.initial 1000 1000 100 1 0).out,
        e.movesPointer = false) ∧
      ∀ e ∈ (dispatchEventsWithInfo tapConfig (envAt 0) TouchState.initial 1000 1000 100 1 0).out,
        e.scrolls = false :=
  have h := sample_mode_gates_motion tapConfig (envAt 0) TouchState.initial 1000 1000 100 1 0
  ⟨rfl, rfl, h.1 rfl, h.2.1 rfl⟩

/-! ### No pointer jumps

`moveDelta` drops a delta past `bogusdxthresh` or `bogusdythresh` whole, and the
report only divides what the mode switch leaves; every other pointer event of a
sample is a click without movement. So no sample moves the pointer further than
the thresholds on either axis. -/

section Jumps

variable (cfg : Config) (env : Env) (z fingers : Int) (c : CallState)

theorem cAbs_tdiv_le (a b : Int) : cAbs (a.tdiv b) ≤ cAbs a := by
  simp only [cAbs, Int.natAbs_tdiv]
  exact_mod_cast Nat.div_le_self _ _

/-- From zero deltas, the move arm leaves both within the bogus thresholds. -/
theorem moveDelta_within (hx : c.dx = 0) (hy : c.dy = 0) :
    cAbs (moveDelta cfg env fingers c).dx ≤ max 0 cfg.bogusdxthresh ∧
      cAbs (moveDelta cfg env fingers c).dy ≤ max 0 cfg.bogusdythresh := by
  unfold moveDelta
  dsimp only
  split_ifs with hmove hbogus
  · dsimp only; unfold cAbs; omega
  · dsimp only; omega
  · rw [hx, hy]; unfold cAbs; omega

/-- From zero deltas, the mode switch leaves both within the bogus thresholds. -/
theorem motion_within (hx : c.dx = 0) (hy : c.dy = 0) :
    cAbs (motion cfg env z fingers c).dx ≤ max 0 cfg.bogusdxthresh ∧
      cAbs (motion cfg env z fingers c).dy ≤ max 0 cfg.bogusdythresh := by
  cases hc : c.st.touchmode
  case move =>
    simp only [motion, hc]
    exact moveDelta_within cfg env fingers c hx hy
  case drag | dragLock =>
    simp only [motion, hc]
    exact moveDelta_within cfg env fingers _ (by split <;> exact hx) (by split <;> exact hy)
  all_goals
    obtain ⟨hx', hy'⟩ := motion_still cfg env z fingers c (by rw [hc]; rfl) hx hy
    rw [hx', hy']
    unfold cAbs; omega

/-- The report adds the one pointer event of a call that carries its deltas: from a
    call that has not moved the pointer, every pointer event is within the bounds of
    the deltas. -/
theorem report_within (X Y : Int) (bx : cAbs c.dx ≤ X) (by' : cAbs c.dy ≤ Y)
    (hq : c.out.any Event.movesPointer = false) (dx dy : Int) (btn : UInt32)
    (hmem : Event.dispatchRelativePointerEventX dx dy btn ∈ (report cfg z fingers c).out) :
    cAbs dx ≤ X ∧ cAbs dy ≤ Y := by
  have hout : (report cfg z fingers c).out = c.out ++
      [.dispatchRelativePointerEventX (c.dx.tdiv cfg.divisorx) (c.dy.tdiv cfg.divisory) c.buttons] := rfl
  rw [hout, List.mem_append, List.mem_singleton] at hmem
  rcases hmem with hmem | hmem
  case inl =>
    have h := List.any_eq_false.1 hq _ hmem
    simp only [Event.movesPointer, Bool.or_eq_true, bne_iff_ne, ne_eq, not_or, not_not] at h
    rw [h.1, h.2]
    unfold cAbs at *; omega
  case inr =>
    obtain ⟨rfl, rfl, -⟩ := Event.dispatchRelativePointerEventX.inj hmem
    exact ⟨Int.le_trans (cAbs_tdiv_le _ _) bx, Int.le_trans (cAbs_tdiv_le _ _) by'⟩

/-- After the finger-lift test, from zero deltas and no pointer movement yet, every
    pointer event of the call is within the bogus thresholds. -/
theorem afterLift_within (hx : c.dx = 0) (hy : c.dy = 0) (hq : c.out.any Event.movesPointer = false)
    (dx dy : Int) (btn : UInt32) (hmem : Event.dispatchRelativePointerEventX dx dy btn ∈ (afterLift cfg env z fingers c).out) :
    cAbs dx ≤ max 0 cfg.bogusdxthresh ∧ cAbs dy ≤ max 0 cfg.bogusdythresh := by
  have pre : Calm c (cancelTap cfg z (cancelPreDrag cfg env c)) :=
    (cancelPreDrag_calm cfg env c).trans (cancelTap_calm cfg z _)
  have post := (captureTap_calm cfg env z fingers (motion cfg env z fingers (cancelTap cfg z (cancelPreDrag cfg env c)))).trans
    (promote_calm cfg env z fingers _)
  obtain ⟨bx, by'⟩ := motion_within cfg env z fingers _ (pre.dx.trans hx) (pre.dy.trans hy)
  rw [← post.dx] at bx
  rw [← post.dy] at by'
  exact report_within cfg z fingers _ _ _ bx by'
    (by rw [post.moves, motion_moves, pre.moves, hq]) dx dy btn hmem

end Jumps

/-- No sample moves the pointer further than the bogus thresholds: every pointer event
    of `dispatchEventsWithInfo` has `|dx| ≤ bogusdxthresh` and `|dy| ≤ bogusdythresh`
    (or zero movement when a threshold is negative), from every state and for every
    sample. -/
theorem pointer_moves_within_bogus (cfg : Config) (env : Env) (s : TouchState) (xraw yraw z fingers : Int)
    (b : UInt32) (dx dy : Int) (btn : UInt32)
    (hmem : Event.dispatchRelativePointerEventX dx dy btn ∈ (dispatchEventsWithInfo cfg env s xraw yraw z fingers b).out) :
    cAbs dx ≤ max 0 cfg.bogusdxthresh ∧ cAbs dy ≤ max 0 cfg.bogusdythresh := by
  obtain ⟨-, hout, -, -⟩ := beforeLift_spec cfg env fingers b s xraw yraw
  obtain ⟨hx, hy⟩ := beforeLift_still cfg env fingers s xraw yraw b
  unfold dispatchEventsWithInfo fromLift at hmem
  dsimp only at hmem
  split at hmem
  · rw [hout] at hmem; cases hmem
  · split at hmem
    · have hl := fingerLift_calm cfg env fingers (beforeLift cfg env s xraw yraw fingers b)
      exact afterLift_within cfg env z fingers _ (hl.dx.trans hx) (hl.dy.trans hy)
        (by rw [hl.moves, hout]; rfl) dx dy btn hmem
    · exact afterLift_within cfg env z fingers _ hx hy (by rw [hout]; rfl) dx dy btn hmem

/-- Move mode, with one finger last seen at (1000, 1000). -/
def movingTouch : TouchState := { TouchState.initial with touchmode := .move, lastx := 1000, lasty := 1000, lastFingers := 1 }

theorem pointer_moves_within_bogus_move :
    Event.dispatchRelativePointerEventX 30 0 0 ∈
        (dispatchEventsWithInfo tapConfig (envAt 200000000) movingTouch 1030 1000 100 1 0).out ∧
      cAbs 30 ≤ max 0 tapConfig.bogusdxthresh ∧ cAbs 0 ≤ max 0 tapConfig.bogusdythresh :=
  have hmem : Event.dispatchRelativePointerEventX 30 0 0 ∈
      (dispatchEventsWithInfo tapConfig (envAt 200000000) movingTouch 1030 1000 100 1 0).out := by decide
  ⟨hmem, pointer_moves_within_bogus tapConfig (envAt 200000000) movingTouch 1030 1000 100 1 0 30 0 0 hmem⟩

end AlpsGlidePoint
