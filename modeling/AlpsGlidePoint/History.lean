import AlpsGlidePoint.Gesture

/-! # The velocity history

Two-finger scrolling records each sample's vertical delta and time in `dy_history`
and `time_history`; a MultiTouch lift reads them to start momentum scrolling, summing
the deltas and taking the time from the oldest sample to the newest. The two histories
are filled, cleared and reset together, so in every reachable state they have the same
length, at most their capacity. The delta history is cleared whenever the scroll stops
or turns, so it never mixes directions: every delta the momentum sum adds up has the
sign of the sum.
-/

namespace AlpsGlidePoint

/-- No two entries on different sides of zero. -/
def OneSigned (l : List Int) : Prop := (∀ d ∈ l, d < 0) ∨ (∀ d ∈ l, 0 ≤ d)

theorem oneSigned_singleton (d : Int) : OneSigned [d] := by
  by_cases h : d < 0
  · exact .inl (by simpa using h)
  · exact .inr (by simp only [List.mem_singleton, forall_eq]; omega)

theorem OneSigned.take {l : List Int} (h : OneSigned l) (n : Nat) : OneSigned (l.take n) :=
  h.imp (fun h d hd => h d (List.mem_of_mem_take hd)) (fun h d hd => h d (List.mem_of_mem_take hd))

/-- A delta on the side of the newest entry keeps the history one-signed. -/
theorem OneSigned.cons {l : List Int} (h : OneSigned l) {d : Int}
    (hside : decide (d < 0) = decide (l.headD 0 < 0)) : OneSigned (d :: l) := by
  cases l with
  | nil => exact oneSigned_singleton d
  | cons e l =>
      simp only [List.headD_cons, decide_eq_decide] at hside
      rcases h with h | h
      · exact .inl (List.forall_mem_cons.2 ⟨hside.2 (h e (.head _)), h⟩)
      · exact .inr (List.forall_mem_cons.2 ⟨by have := h e (.head _); omega, h⟩)

/-- The two histories have one length, within the capacity, and the deltas one sign. -/
structure TouchState.HistoryInv (cfg : Config) (s : TouchState) : Prop where
  aligned : s.dyHistory.length = s.timeHistory.length
  bounded : s.dyHistory.length ≤ cfg.historySize
  oneSigned : OneSigned s.dyHistory

theorem TouchState.HistoryInv.of_nil (cfg : Config) {s : TouchState} (hd : s.dyHistory = [])
    (ht : s.timeHistory = []) : s.HistoryInv cfg :=
  ⟨by rw [hd, ht]; rfl, by simp [hd], .inr (by simp [hd])⟩

/-- A stage that leaves both histories as they are. -/
def KeepsHistory (c c' : CallState) : Prop :=
  c'.st.dyHistory = c.st.dyHistory ∧ c'.st.timeHistory = c.st.timeHistory

theorem KeepsHistory.trans {c c' c'' : CallState} (h : KeepsHistory c c') (h' : KeepsHistory c' c'') :
    KeepsHistory c c'' :=
  ⟨h'.1.trans h.1, h'.2.trans h.2⟩

theorem KeepsHistory.inv {cfg : Config} {c c' : CallState} (h : KeepsHistory c c') (hi : c.st.HistoryInv cfg) :
    c'.st.HistoryInv cfg :=
  ⟨by rw [h.1, h.2]; exact hi.aligned, by rw [h.1]; exact hi.bounded, by rw [h.1]; exact hi.oneSigned⟩

namespace CallState

theorem ite_dyHistory (p : Prop) [Decidable p] (a b : CallState) :
    (if p then a else b).st.dyHistory = if p then a.st.dyHistory else b.st.dyHistory :=
  apply_ite (fun c : CallState => c.st.dyHistory) p a b

theorem ite_timeHistory (p : Prop) [Decidable p] (a b : CallState) :
    (if p then a else b).st.timeHistory = if p then a.st.timeHistory else b.st.timeHistory :=
  apply_ite (fun c : CallState => c.st.timeHistory) p a b

end CallState

section Stages

variable (cfg : Config) (env : Env) (z fingers : Int) (c : CallState)

/-! ### The stages that leave the histories -/

theorem cancelPreDrag_keepsHistory : KeepsHistory c (cancelPreDrag cfg env c) := by
  simp only [KeepsHistory, cancelPreDrag, CallState.setMode, CallState.ite_dyHistory, CallState.ite_timeHistory,
    ite_self, and_self]

theorem cancelTap_keepsHistory : KeepsHistory c (cancelTap cfg z c) := by
  simp only [KeepsHistory, cancelTap, CallState.ite_dyHistory, CallState.ite_timeHistory, ite_self, and_self]

theorem captureTap_keepsHistory : KeepsHistory c (captureTap cfg env z fingers c) := by
  simp only [KeepsHistory, captureTap, CallState.ite_dyHistory, CallState.ite_timeHistory, ite_self, and_self]

theorem promote_keepsHistory : KeepsHistory c (promote cfg env z fingers c) := by
  have triggers (ts : List (Bool × List Int)) (c : CallState) :
      KeepsHistory c (ts.foldl (cscrollTrigger cfg z) c) := by
    induction ts generalizing c with
    | nil => exact ⟨rfl, rfl⟩
    | cons t ts ih =>
        refine KeepsHistory.trans ?_ (ih _)
        simp only [KeepsHistory, cscrollTrigger, CallState.setMode, CallState.ite_dyHistory,
          CallState.ite_timeHistory, ite_self, and_self]
  have corner (c : CallState) : KeepsHistory c (promoteCScroll cfg z c) := by
    unfold promoteCScroll; split
    · exact triggers _ c
    · exact ⟨rfl, rfl⟩
  have others (c : CallState) : KeepsHistory c (promoteMultiTouch cfg z fingers
      (promoteDragLock cfg z (promoteDrag cfg env z c))) ∧
      KeepsHistory c (promoteMove cfg z (promoteHScroll cfg z (promoteVScroll cfg z c))) := by
    simp only [KeepsHistory, promoteMultiTouch, promoteDragLock, promoteDrag, promoteMove, promoteHScroll,
      promoteVScroll, CallState.emit_st, CallState.setMode, CallState.ite_dyHistory, CallState.ite_timeHistory,
      ite_self, and_self]
  exact (((others c).1.trans (corner _)).trans (others _).2)

theorem report_keepsHistory : KeepsHistory c (report cfg z fingers c) := ⟨rfl, rfl⟩

/-- A lift empties both histories. -/
theorem fingerLift_history :
    (fingerLift cfg env fingers c).st.dyHistory = [] ∧ (fingerLift cfg env fingers c).st.timeHistory = [] := by
  have tap (c : CallState) : KeepsHistory c (tapOrRelease cfg env fingers c) := by
    unfold tapOrRelease resolveTap
    split
    · split <;> simp only [KeepsHistory, releaseDrag, CallState.emit_st, CallState.setMode,
        CallState.ite_dyHistory, CallState.ite_timeHistory, ite_self, and_self]
    · simp only [KeepsHistory, releaseDrag, CallState.emit_st, CallState.setMode, CallState.ite_dyHistory,
        CallState.ite_timeHistory, ite_self, and_self]
  exact tap (resetHistory (momentumStart cfg (liftReset env c)))

/-! ### The mode switch -/

/-- Recording a two-finger sample keeps the invariant: both histories restart or both
    grow by one, and a delta that does not restart them is on the side of the newest. -/
theorem recordDy_inv (h : c.st.HistoryInv cfg) : (recordDy cfg env c).st.HistoryInv cfg := by
  simp only [recordDy, historyFilter]
  by_cases hr : (decide (c.dy < 0) != decide (c.st.dyHistory.headD 0 < 0) || c.dy == 0) = true
  · rw [if_pos hr, if_pos hr]
    exact ⟨by simp, List.length_take_le _ _, (oneSigned_singleton c.dy).take _⟩
  · rw [if_neg hr, if_neg hr]
    simp only [Bool.or_eq_true, bne_iff_ne, ne_eq, beq_iff_eq, not_or, not_not] at hr
    exact ⟨by simp [h.aligned], List.length_take_le _ _, (h.oneSigned.cons hr.1).take _⟩

theorem motion_inv (h : c.st.HistoryInv cfg) : (motion cfg env z fingers c).st.HistoryInv cfg := by
  have keep (c : CallState) : KeepsHistory c (moveDelta cfg env fingers c) ∧
      KeepsHistory c (vScrollMotion cfg env z fingers c) ∧ KeepsHistory c (hScrollMotion cfg env z fingers c) ∧
      KeepsHistory c (cScrollMotion cfg env c) ∧ KeepsHistory c (preDragButton cfg env c) ∧
      KeepsHistory c (threeFingerSwipe cfg c) ∧ KeepsHistory c (fourFingerSwipe cfg c) := by
    have reset (s : TouchState) (d : Dir) : (s.resetMoved d).dyHistory = s.dyHistory ∧
        (s.resetMoved d).timeHistory = s.timeHistory := by cases d <;> exact ⟨rfl, rfl⟩
    simp only [KeepsHistory, moveDelta, vScrollMotion, hScrollMotion, cScrollMotion, preDragButton, threeFingerSwipe,
      fourFingerSwipe, swipe3, swipe4, accumulateMoved, CallState.emit_st, CallState.divide_st, CallState.setMode,
      reset, CallState.ite_dyHistory, CallState.ite_timeHistory, ite_self, and_self]
  have two (c : CallState) (h : c.st.HistoryInv cfg) : (twoFingerScroll cfg env z fingers c).st.HistoryInv cfg := by
    have after (c : CallState) :
        KeepsHistory c (twoFingerDispatch cfg (holdSmallDy cfg (holdSmallDx cfg c))) := by
      simp only [KeepsHistory, twoFingerDispatch, holdSmallDy, holdSmallDx, CallState.divideIf, CallState.emit_st,
        CallState.ite_dyHistory, CallState.ite_timeHistory, ite_self, and_self]
    unfold twoFingerScroll
    split_ifs
    · exact h
    · exact h
    · exact h
    · exact (after _).inv (recordDy_inv cfg env _ ((show KeepsHistory c (twoFingerDeltas cfg c) from ⟨rfl, rfl⟩).inv h))
  have multi : (multiTouch cfg env z fingers c).st.HistoryInv cfg := by
    unfold multiTouch
    split_ifs
    · exact .of_nil cfg rfl rfl
    · exact two c h
    · exact (keep c).2.2.2.2.2.1.inv h
    · exact (keep c).2.2.2.2.2.2.inv h
    · exact h
  unfold motion
  split
  case h_1 | h_2 => exact (keep _).1.inv (by split <;> exact h)
  case h_3 => exact (keep c).1.inv h
  case h_4 => exact multi
  case h_5 => exact (keep c).2.1.inv h
  case h_6 => exact (keep c).2.2.1.inv h
  case h_7 => exact (keep c).2.2.2.1.inv h
  case h_8 | h_9 => exact (keep _).2.2.2.2.1.inv h
  case h_10 => exact h

theorem afterLift_inv (h : c.st.HistoryInv cfg) : (afterLift cfg env z fingers c).st.HistoryInv cfg :=
  (((captureTap_keepsHistory cfg env z fingers _).trans (promote_keepsHistory cfg env z fingers _)).trans
    (report_keepsHistory cfg z fingers _)).inv
    (motion_inv cfg env z fingers _
      (((cancelPreDrag_keepsHistory cfg env c).trans (cancelTap_keepsHistory cfg z _)).inv h))

end Stages

/-- One sample keeps the invariant. -/
theorem dispatchEventsWithInfo_inv (cfg : Config) (env : Env) {s : TouchState} (h : s.HistoryInv cfg)
    (xraw yraw z fingers : Int) (b : UInt32) :
    (dispatchEventsWithInfo cfg env s xraw yraw z fingers b).st.HistoryInv cfg := by
  obtain ⟨⟨lx, ly, idl, lb, hst⟩, -⟩ := beforeLift_spec cfg env fingers b s xraw yraw
  have hb : (beforeLift cfg env s xraw yraw fingers b).st.HistoryInv cfg := by
    rw [hst]; exact ⟨h.aligned, h.bounded, h.oneSigned⟩
  unfold dispatchEventsWithInfo fromLift
  dsimp only
  split
  · exact hb
  · apply afterLift_inv
    split
    · exact .of_nil cfg (fingerLift_history cfg env fingers _).1 (fingerLift_history cfg env fingers _).2
    · exact hb

/-- In every reachable state the velocity histories have one length, at most their
    capacity, and the deltas never lie on both sides of zero. -/
theorem reachable_history_aligned {cfg : Config} {s : TouchState} (hs : Reachable cfg s) : s.HistoryInv cfg := by
  induction hs with
  | init => exact .of_nil cfg rfl rfl
  | step i _ ih =>
      cases i with
      | sample env xraw yraw z fingers b => exact dispatchEventsWithInfo_inv cfg env ih xraw yraw z fingers b
      | trackstick => exact ⟨ih.aligned, ih.bounded, ih.oneSigned⟩
      | forceDrag => exact ⟨ih.aligned, ih.bounded, ih.oneSigned⟩

theorem reachable_history_aligned_twoFinger :
    Reachable tapConfig (gestureStep tapConfig TouchState.initial (.sample (envAt 0) 1000 1000 100 2 0)) ∧
      (gestureStep tapConfig TouchState.initial (.sample (envAt 0) 1000 1000 100 2 0)).HistoryInv tapConfig :=
  have h : Reachable tapConfig (gestureStep tapConfig TouchState.initial (.sample (envAt 0) 1000 1000 100 2 0)) :=
    .step _ .init
  ⟨h, reachable_history_aligned h⟩

end AlpsGlidePoint
