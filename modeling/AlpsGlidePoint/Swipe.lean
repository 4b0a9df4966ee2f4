import AlpsGlidePoint.Gesture
import AlpsGlidePoint.Latches

/-! # Swipes over runs

The gesture machine drives the latch machine. A call shows the lift first, when it
reaches the finger-lift step, then at most one swipe: one its latches allow, which
it latches as the latch machine does. So what a run of inputs shows, from any state,
is a trace the latch machine accepts, and the separation of swipes holds of it.
-/

namespace AlpsGlidePoint

/-- The latches of a touch state. -/
def latchesOf (s : TouchState) : Latches := ⟨s.inSwipe, s.inSwipe4⟩

/-- What one call shows: the lift first, when it reaches the finger-lift step, then
    its keyboard messages. -/
def callObs (c : CallState) : List Obs :=
  (if c.lifted then [.lift] else []) ++ (keyboardMessages c.out).map .msg

/-- What one input shows; a trackstick packet and a forced drag show nothing. -/
def gestureObs (cfg : Config) (s : TouchState) : GestureInput → List Obs
  | .sample env xraw yraw z fingers buttonsraw =>
      callObs (dispatchEventsWithInfo cfg env s xraw yraw z fingers buttonsraw)
  | .trackstick .. | .forceDrag => []

/-- What a run of inputs from `s` shows. -/
def trace (cfg : Config) : TouchState → List GestureInput → List Obs
  | _, [] => []
  | s, i :: is => gestureObs cfg s i ++ trace cfg (gestureStep cfg s i) is

/-- A stage that keeps the lift flag and either keeps the latches and the keyboard
    messages, or dispatches one swipe its latches allow and latches it. -/
def SwipeStep (c c' : CallState) : Prop :=
  c'.lifted = c.lifted ∧
  ((latchesOf c'.st = latchesOf c.st ∧ keyboardMessages c'.out = keyboardMessages c.out) ∨
   ∃ m, (latchesOf c.st).allows m = true ∧ latchesOf c'.st = (latchesOf c.st).fire m ∧
     keyboardMessages c'.out = keyboardMessages c.out ++ [m])

theorem Framed.latchesOf_eq {ok : Int → Prop} {c c' : CallState} (h : Framed ok c c') :
    latchesOf c'.st = latchesOf c.st := by
  simp only [latchesOf, h.inSwipe, h.inSwipe4]

namespace SwipeStep

variable {ok : Int → Prop} {c c' c'' : CallState}

theorem refl (c : CallState) : SwipeStep c c := ⟨rfl, .inl ⟨rfl, rfl⟩⟩

theorem of_framed (h : Framed ok c c') : SwipeStep c c' := ⟨h.lifted, .inl ⟨h.latchesOf_eq, h.messages⟩⟩

/-- A change of `st` fields other than the latches, and of locals. -/
theorem of_st (hs : c'.st.inSwipe = c.st.inSwipe ∧ c'.st.inSwipe4 = c.st.inSwipe4)
    (hl : c'.lifted = c.lifted) (ho : c'.out = c.out) : SwipeStep c c' :=
  ⟨hl, .inl ⟨by simp only [latchesOf, hs.1, hs.2], by rw [ho]⟩⟩

theorem framed_left (h : Framed ok c c') (h' : SwipeStep c' c'') : SwipeStep c c'' := by
  obtain ⟨hl, h' | ⟨m, ha, hf, hm⟩⟩ := h'
  · exact ⟨hl.trans h.lifted, .inl ⟨h'.1.trans h.latchesOf_eq, h'.2.trans h.messages⟩⟩
  · rw [h.latchesOf_eq] at ha hf
    exact ⟨hl.trans h.lifted, .inr ⟨m, ha, hf, by rw [hm, h.messages]⟩⟩

theorem framed_right (h : SwipeStep c c') (h' : Framed ok c' c'') : SwipeStep c c'' := by
  obtain ⟨hl, h | ⟨m, ha, hf, hm⟩⟩ := h
  · exact ⟨h'.lifted.trans hl, .inl ⟨h'.latchesOf_eq.trans h.1, h'.messages.trans h.2⟩⟩
  · exact ⟨h'.lifted.trans hl, .inr ⟨m, ha, h'.latchesOf_eq.trans hf, h'.messages.trans hm⟩⟩

/-- From a stage with no keyboard message yet, the messages of the rest of the call
    run the latch machine, and there is at most one. -/
theorem run (h : SwipeStep c c') (hm : keyboardMessages c.out = []) :
    Latches.Run (latchesOf c.st) ((keyboardMessages c'.out).map .msg) (latchesOf c'.st) ∧
    (keyboardMessages c'.out).length ≤ 1 := by
  obtain ⟨-, ⟨hl, ho⟩ | ⟨m, ha, hf, ho⟩⟩ := h
  · rw [ho, hm, hl]; exact ⟨.nil _, by simp⟩
  · rw [ho, hm, hf]; exact ⟨.msg ha (.nil _), by simp⟩

end SwipeStep

@[simp] theorem resetMoved_inSwipe (s : TouchState) (d : Dir) : (s.resetMoved d).inSwipe = s.inSwipe := by
  cases d <;> rfl

@[simp] theorem resetMoved_inSwipe4 (s : TouchState) (d : Dir) : (s.resetMoved d).inSwipe4 = s.inSwipe4 := by
  cases d <;> rfl

section Stages

variable (cfg : Config) (env : Env) (z fingers : Int) (c : CallState)

/-- A three-finger swipe that fires is one the latches allow, latched as the latch
    machine latches it. -/
theorem swipe3_swipeStep (d : Dir) (h : fires3 cfg c d = true) : SwipeStep c (swipe3 c d) := by
  simp only [fires3, Bool.and_eq_true] at h
  exact ⟨rfl, .inr ⟨.swipe d, by simp [Latches.allows, latchesOf, h.1.2, h.2],
    by simp [swipe3, latchesOf, Latches.fire], by simp [swipe3]⟩⟩

theorem swipe4_swipeStep (d : Dir) (h : fires4 cfg c d = true) : SwipeStep c (swipe4 c d) := by
  simp only [fires4, Bool.and_eq_true] at h
  exact ⟨rfl, .inr ⟨.swipe4 d, by simp [Latches.allows, latchesOf, h.2],
    by simp [swipe4, latchesOf, Latches.fire], by simp [swipe4]⟩⟩

/-- The three-finger arm fires at most one swipe. -/
theorem threeFingerSwipe_swipeStep : SwipeStep c (threeFingerSwipe cfg c) := by
  unfold threeFingerSwipe; dsimp only
  have hacc : Framed (fun _ => False) c (accumulateMoved c) := .of_st ⟨rfl, rfl⟩ rfl rfl rfl
  refine SwipeStep.framed_left hacc ?_
  split_ifs with h1 h2 h3 h4
  · exact swipe3_swipeStep cfg _ .up h1
  · exact swipe3_swipeStep cfg _ .down h2
  · exact swipe3_swipeStep cfg _ .right h3
  · exact swipe3_swipeStep cfg _ .left h4
  · exact .refl _

/-- The four-finger arm fires at most one swipe. -/
theorem fourFingerSwipe_swipeStep : SwipeStep c (fourFingerSwipe cfg c) := by
  unfold fourFingerSwipe; dsimp only
  have hacc : Framed (fun _ => False) c (accumulateMoved c) := .of_st ⟨rfl, rfl⟩ rfl rfl rfl
  refine SwipeStep.framed_left hacc ?_
  split_ifs with h1 h2 h3 h4
  · exact swipe4_swipeStep cfg _ .up h1
  · exact swipe4_swipeStep cfg _ .down h2
  · exact swipe4_swipeStep cfg _ .right h3
  · exact swipe4_swipeStep cfg _ .left h4
  · exact .refl _

theorem multiTouch_swipeStep : SwipeStep c (multiTouch cfg env z fingers c) := by
  unfold multiTouch; split_ifs
  · exact .of_st ⟨rfl, rfl⟩ rfl rfl
  · exact .of_framed (twoFingerScroll_steady cfg env z fingers c).toFramed
  · exact threeFingerSwipe_swipeStep cfg c
  · exact fourFingerSwipe_swipeStep cfg c
  · exact .refl c

/-- Only MultiTouch swipes; every other arm of the mode switch keeps the latches and
    emits no keyboard message. -/
theorem motion_swipeStep : SwipeStep c (motion cfg env z fingers c) := by
  unfold motion; split
  · dsimp only
    refine SwipeStep.framed_right ?_ (moveDelta_steady cfg env fingers _).toFramed
    split <;> exact .of_st ⟨rfl, rfl⟩ rfl rfl
  · dsimp only
    refine SwipeStep.framed_right ?_ (moveDelta_steady cfg env fingers _).toFramed
    split <;> exact .of_st ⟨rfl, rfl⟩ rfl rfl
  · exact .of_framed (moveDelta_steady cfg env fingers c).toFramed
  · exact multiTouch_swipeStep cfg env z fingers c
  · rcases vScrollMotion_cases cfg env z fingers c with h | h
    · rw [h]; exact .of_st ⟨rfl, rfl⟩ rfl rfl
    · exact .of_framed h.toFramed
  · rcases hScrollMotion_cases cfg env z fingers c with h | h
    · rw [h]; exact .of_st ⟨rfl, rfl⟩ rfl rfl
    · exact .of_framed h.toFramed
  · exact .of_framed (cScrollMotion_steady cfg env c).toFramed
  · have h : SwipeStep c { c with buttons := c.buttons ||| 1 } := .of_st ⟨rfl, rfl⟩ rfl rfl
    exact h.framed_right (preDragButton_steady cfg env _ fun _ => False).toFramed
  · exact .of_framed (preDragButton_steady cfg env c fun _ => False).toFramed
  · exact .refl c

/-- The stages after the finger-lift test fire at most one swipe. -/
theorem afterLift_swipeStep : SwipeStep c (afterLift cfg env z fingers c) :=
  SwipeStep.framed_left (cancelPreDrag_framed cfg env c fun _ => False) <|
  SwipeStep.framed_left (cancelTap_steady cfg z _ fun _ => False).toFramed <|
  ((((motion_swipeStep cfg env z fingers _).framed_right
    (captureTap_steady cfg env z fingers _ fun _ => False).toFramed).framed_right
    (promote_promotes cfg env z fingers _).toFramed).framed_right (report_steady cfg z fingers _).toFramed)

/-- One call runs the latch machine through what it shows, from the latches of the
    state it starts in to those of the state it leaves, and dispatches at most one
    keyboard message. -/
theorem dispatch_run (s : TouchState) (xraw yraw : Int) (b : UInt32) :
    Latches.Run (latchesOf s) (callObs (dispatchEventsWithInfo cfg env s xraw yraw z fingers b))
      (latchesOf (dispatchEventsWithInfo cfg env s xraw yraw z fingers b).st) ∧
    (keyboardMessages (dispatchEventsWithInfo cfg env s xraw yraw z fingers b).out).length ≤ 1 := by
  obtain ⟨⟨lx, ly, idl, lb, hst⟩, hout, hlift, -⟩ := beforeLift_spec cfg env fingers b s xraw yraw
  have hl : latchesOf (beforeLift cfg env s xraw yraw fingers b).st = latchesOf s := by rw [hst]; rfl
  unfold dispatchEventsWithInfo fromLift; dsimp only; split
  · simp only [callObs, hout, hlift, hl, keyboardMessages_nil]
    exact ⟨.nil _, by simp⟩
  · split
    · obtain ⟨hi, hi4, hlifted, hmsg, -⟩ := fingerLift_spec cfg env fingers (beforeLift cfg env s xraw yraw fingers b)
      have hs := afterLift_swipeStep cfg env z fingers (fingerLift cfg env fingers (beforeLift cfg env s xraw yraw fingers b))
      obtain ⟨hrun, hlen⟩ := hs.run (by rw [hmsg, hout]; rfl)
      have hc : latchesOf (fingerLift cfg env fingers (beforeLift cfg env s xraw yraw fingers b)).st =
          Latches.cleared := by simp only [latchesOf, hi, hi4]; rfl
      rw [hc] at hrun
      simp only [callObs, hs.1.trans hlifted, if_true]
      exact ⟨.lift hrun, hlen⟩
    · have hs := afterLift_swipeStep cfg env z fingers (beforeLift cfg env s xraw yraw fingers b)
      obtain ⟨hrun, hlen⟩ := hs.run (by rw [hout]; rfl)
      rw [hl] at hrun
      simp only [callObs, hs.1.trans hlift, Bool.false_eq_true, if_false, List.nil_append]
      exact ⟨hrun, hlen⟩

end Stages

/-- Every run of inputs, from any state, shows a trace the latch machine accepts
    from that state's latches. -/
theorem trace_run (cfg : Config) (s : TouchState) (is : List GestureInput) :
    Latches.Run (latchesOf s) (trace cfg s is) (latchesOf (is.foldl (gestureStep cfg) s)) := by
  induction is generalizing s with
  | nil => exact .nil _
  | cons i is ih =>
    refine Latches.Run.append ?_ (ih _)
    cases i with
    | sample env xraw yraw z fingers b => exact (dispatch_run cfg env z fingers s xraw yraw b).1
    | trackstick => exact .nil _
    | forceDrag => exact .nil _

/-- Swipes fire once per latch: in what every run of inputs shows, from any state, two
    swipes toward `d` have a lift or a swipe of either kind the other way between
    them; two four-finger swipes toward `d` have a lift or a four-finger swipe the
    other way between them, and so does a four-finger swipe and a later
    three-finger swipe toward `d`; and no sample dispatches more than one swipe. -/
theorem swipes_fire_once_per_latch (cfg : Config) (s : TouchState) (is : List GestureInput) (d : Dir) :
    SeparatedBy (.msg (.swipe d)) (.msg (.swipe d)) (releases3 d) (trace cfg s is) ∧
    SeparatedBy (.msg (.swipe4 d)) (.msg (.swipe4 d)) (releases4 d) (trace cfg s is) ∧
    SeparatedBy (.msg (.swipe4 d)) (.msg (.swipe d)) (releases4 d) (trace cfg s is) ∧
    ∀ (s' : TouchState) (env : Env) (xraw yraw z fingers : Int) (b : UInt32),
      (keyboardMessages (dispatchEventsWithInfo cfg env s' xraw yraw z fingers b).out).length ≤ 1 :=
  ⟨((trace_run cfg s is).swipes_separated d).1, ((trace_run cfg s is).swipes_separated d).2.1,
    ((trace_run cfg s is).swipes_separated d).2.2,
    fun s' env xraw yraw z fingers b => (dispatch_run cfg env z fingers s' xraw yraw b).2⟩

end AlpsGlidePoint
