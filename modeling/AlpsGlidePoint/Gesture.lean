import AlpsGlidePoint.Dispatch
import Mathlib.Tactic.LiftLets
import Mathlib.Tactic.SplitIfs
import Mathlib.Tactic.Tauto

/-! # The gesture machine over runs

Three kinds of input change the touch state: a sample through
`dispatchEventsWithInfo`; a trackstick packet, which sets `ignoreall` and may set
`lastbuttons`; and the tap-and-drag test of a v1/v2 packet, which forces Drag. A
state is reachable when some run of them leads to it from the session start.

The properties of the next modules read a call through a few of its fields: the
mode, the swipe latches, whether it reached the finger-lift step, its keyboard
messages and its divisors. Most stages change none of them but for divisors of a
known kind; `Steady` says so once for each stage, and `PreLift` gives the frame of
the stages before the finger-lift test.
-/

namespace AlpsGlidePoint

/-- An input of the gesture machine. -/
inductive GestureInput where
  | sample (env : Env) (xraw yraw z fingers : Int) (buttonsraw : UInt32)
  | trackstick (ignoreall : Bool) (lastbuttons : UInt32)
  | forceDrag

/-- The touch state after one input. -/
def gestureStep (cfg : Config) (s : TouchState) : GestureInput → TouchState
  | .sample env xraw yraw z fingers buttonsraw => (dispatchEventsWithInfo cfg env s xraw yraw z fingers buttonsraw).st
  | .trackstick ignoreall lastbuttons => { s with ignoreall := ignoreall, lastbuttons := lastbuttons }
  | .forceDrag => { s with touchmode := .drag }

/-- The touch states some run reaches from the session start, the configuration
    fixed. -/
inductive Reachable (cfg : Config) : TouchState → Prop
  | init : Reachable cfg TouchState.initial
  | step {s : TouchState} (i : GestureInput) : Reachable cfg s → Reachable cfg (gestureStep cfg s i)

/-- A configuration with tapping on, scroll modes off, unit pointer divisors and
    two-finger scrolling by 30: the setting of the sample runs below. -/
def tapConfig : Config :=
  { xupmm := 50, yupmm := 50, clickpadtype := false, unsmoothinput := false, smoothinput := false,
    ignoredeltasstart := 0, outzoneWt := false, zFinger := 45, zlimit := 255, maxaftertyping := 500000000,
    zonel := 0, zoner := 0, zoneb := 0, zonet := 0, momentumscroll := false, momentumscrolltimer := 0,
    momentumscrollsamplesmin := 3, maxtaptime := 200000000, clicking := true, immediateclick := false,
    rtap := false, swapdoubletriple := false, dragging := false, draglock := false, dragTimer := true,
    dragexitdelay := 0, maxdragtime := 300000000, tapthreshx := 50, tapthreshy := 50, dblthreshx := 100,
    dblthreshy := 100, maxdbltaptime := 200000000, divisorx := 1, divisory := 1, bogusdxthresh := 400,
    bogusdythresh := 350, wsticky := false, palm := false, palmWt := false, wvdivisor := 30, whdivisor := 30,
    hscroll := false, scrolldxthresh := 5, scrolldythresh := 5, swipedx := 800, swipedy := 800,
    vsticky := false, hsticky := false, redge := 6000, ledge := 0, tedge := 6000, bedge := 0,
    vscrolldivisor := 30, hscrolldivisor := 30, cscrolldivisor := 0, centerx := 3000, centery := 2000,
    scroll := false, ctrigger := 0, draglocktempmask := 0, historySize := 32 }

/-- A sample at time `t`, with no keystroke, no modifier and the base-class filters
    and middle-button emulation passing values through. -/
def envAt (t : UInt64) : Env := ⟨t, 0, 0, 0, fun b _ => b, id, id, id, id⟩

/-- The keyboard messages among some events, in order. -/
def keyboardMessages (out : List Event) : List KeyboardMessage :=
  out.filterMap fun
    | .dispatchKeyboardMessage m => some m
    | _ => none

@[simp] theorem keyboardMessages_nil : keyboardMessages [] = [] := rfl

@[simp] theorem keyboardMessages_append (out out' : List Event) :
    keyboardMessages (out ++ out') = keyboardMessages out ++ keyboardMessages out' := by
  simp [keyboardMessages, List.filterMap_append]

@[simp] theorem keyboardMessages_pointer (dx dy : Int) (b : UInt32) (out : List Event) :
    keyboardMessages (.dispatchRelativePointerEventX dx dy b :: out) = keyboardMessages out := rfl

@[simp] theorem keyboardMessages_scroll (a b c : Int) (out : List Event) :
    keyboardMessages (.dispatchScrollWheelEventX a b c :: out) = keyboardMessages out := rfl

@[simp] theorem keyboardMessages_setTimer (t : Timer) (v : Int) (out : List Event) :
    keyboardMessages (.setTimerTimeout t v :: out) = keyboardMessages out := rfl

@[simp] theorem keyboardMessages_cancelTimer (t : Timer) (out : List Event) :
    keyboardMessages (.cancelTimer t :: out) = keyboardMessages out := rfl

@[simp] theorem keyboardMessages_message (m : KeyboardMessage) (out : List Event) :
    keyboardMessages (.dispatchKeyboardMessage m :: out) = m :: keyboardMessages out := rfl

/-- A stage that keeps what the properties of the next modules read, the mode
    aside: the swipe latches, the lift flag and the keyboard messages, every divisor
    it adds satisfying `ok`. -/
structure Framed (ok : Int → Prop) (c c' : CallState) : Prop where
  inSwipe : c'.st.inSwipe = c.st.inSwipe
  inSwipe4 : c'.st.inSwipe4 = c.st.inSwipe4
  lifted : c'.lifted = c.lifted
  messages : keyboardMessages c'.out = keyboardMessages c.out
  divisors : ∀ d ∈ c'.divisors, d ∈ c.divisors ∨ ok d

namespace Framed

variable {ok ok' : Int → Prop} {c c' c'' : CallState}

theorem refl (c : CallState) : Framed ok c c := ⟨rfl, rfl, rfl, rfl, fun _ h => .inl h⟩

theorem trans (h : Framed ok c c') (h' : Framed ok c' c'') : Framed ok c c'' where
  inSwipe := h'.inSwipe.trans h.inSwipe
  inSwipe4 := h'.inSwipe4.trans h.inSwipe4
  lifted := h'.lifted.trans h.lifted
  messages := h'.messages.trans h.messages
  divisors d hd := (h'.divisors d hd).elim (h.divisors d) .inr

theorem mono (h : Framed ok c c') (hok : ∀ d, ok d → ok' d) : Framed ok' c c' :=
  { h with divisors := fun d hd => (h.divisors d hd).imp_right (hok d) }

/-- A change of `st` fields other than the latches, and of locals. -/
theorem of_st (hs : c'.st.inSwipe = c.st.inSwipe ∧ c'.st.inSwipe4 = c.st.inSwipe4)
    (hl : c'.lifted = c.lifted) (ho : c'.out = c.out) (hd : c'.divisors = c.divisors) : Framed ok c c' :=
  ⟨hs.1, hs.2, hl, by rw [ho], fun d h => .inl (hd ▸ h)⟩

/-- Emitting an event other than a keyboard message. -/
theorem emit (c : CallState) {e : Event} (he : keyboardMessages [e] = []) : Framed ok c (c.emit e) :=
  ⟨rfl, rfl, rfl, by simp [he], fun _ h => .inl h⟩

theorem divide (c : CallState) (d : Int) (h : ok d) : Framed ok c (c.divide d) :=
  ⟨rfl, rfl, rfl, rfl, fun e he => by
    rcases List.mem_append.1 he with he | he
    · exact .inl he
    · exact .inr (List.mem_singleton.1 he ▸ h)⟩

theorem divideIf (c : CallState) (b : Bool) (d : Int) (h : b = true → ok d) :
    Framed ok c (c.divideIf b d) :=
  ⟨rfl, rfl, rfl, rfl, fun e he => by
    rcases List.mem_append.1 he with he | he
    · exact .inl he
    · split at he
      · exact .inr (List.mem_singleton.1 he ▸ h ‹_›)
      · cases he⟩

end Framed

/-- A framed stage that keeps the mode too. -/
structure Steady (ok : Int → Prop) (c c' : CallState) extends Framed ok c c' : Prop where
  touchmode : c'.st.touchmode = c.st.touchmode

namespace Steady

variable {ok ok' : Int → Prop} {c c' c'' : CallState}

theorem refl (c : CallState) : Steady ok c c := ⟨.refl c, rfl⟩

theorem trans (h : Steady ok c c') (h' : Steady ok c' c'') : Steady ok c c'' :=
  ⟨h.toFramed.trans h'.toFramed, h'.touchmode.trans h.touchmode⟩

/-- A change of `st` fields other than the mode and the latches, and of locals. -/
theorem of_st (hs : c'.st.touchmode = c.st.touchmode ∧ c'.st.inSwipe = c.st.inSwipe ∧
    c'.st.inSwipe4 = c.st.inSwipe4) (hl : c'.lifted = c.lifted) (ho : c'.out = c.out)
    (hd : c'.divisors = c.divisors) : Steady ok c c' :=
  ⟨.of_st hs.2 hl ho hd, hs.1⟩

theorem emit (c : CallState) {e : Event} (he : keyboardMessages [e] = []) : Steady ok c (c.emit e) :=
  ⟨.emit c he, rfl⟩

theorem divide (c : CallState) (d : Int) (h : ok d) : Steady ok c (c.divide d) := ⟨.divide c d h, rfl⟩

theorem divideIf (c : CallState) (b : Bool) (d : Int) (h : b = true → ok d) :
    Steady ok c (c.divideIf b d) :=
  ⟨.divideIf c b d h, rfl⟩

end Steady

/-- The scroll mode's divisor is set: VScroll, HScroll and CScroll divide by
    `vscrolldivisor`, `hscrolldivisor` and `cscrolldivisor`. -/
def Config.scrollDivisorSet (cfg : Config) : TouchMode → Bool
  | .vScroll => cfg.vscrolldivisor != 0
  | .hScroll => cfg.hscrolldivisor != 0
  | .cScroll => cfg.cscrolldivisor != 0
  | _ => true

/-- A promotion: it may change the mode, keeping the scroll mode's divisor set, and
    keeps the rest of the frame, dividing by nothing. -/
structure Promotes (cfg : Config) (c c' : CallState) extends Framed (fun _ => False) c c' : Prop where
  scroll : cfg.scrollDivisorSet c.st.touchmode = true → cfg.scrollDivisorSet c'.st.touchmode = true

namespace Promotes

variable {cfg : Config} {c c' c'' : CallState}

theorem refl (c : CallState) : Promotes cfg c c := ⟨.refl c, id⟩

theorem trans (h : Promotes cfg c c') (h' : Promotes cfg c' c'') : Promotes cfg c c'' :=
  ⟨h.toFramed.trans h'.toFramed, h'.scroll ∘ h.scroll⟩

end Promotes

/-- Before the finger-lift test the touch state changes only in `lastx`, `lasty`,
    `ignoredeltas` and `lastbuttons`; the call's events, lift flag and divisors
    stay. -/
def PreLift (c c' : CallState) : Prop :=
  (∃ lx ly idl lb, c'.st = { c.st with lastx := lx, lasty := ly, ignoredeltas := idl, lastbuttons := lb }) ∧
  c'.out = c.out ∧ c'.lifted = c.lifted ∧ c'.divisors = c.divisors

theorem PreLift.trans {c c' c'' : CallState} (h : PreLift c c') (h' : PreLift c' c'') : PreLift c c'' := by
  obtain ⟨⟨lx, ly, idl, lb, hs⟩, ho, hl, hd⟩ := h
  obtain ⟨⟨lx', ly', idl', lb', hs'⟩, ho', hl', hd'⟩ := h'
  exact ⟨⟨lx', ly', idl', lb', by rw [hs', hs]⟩, ho'.trans ho, hl'.trans hl, hd'.trans hd⟩

section Stages

variable (cfg : Config) (env : Env) (z fingers : Int) (b : UInt32) (c : CallState)

theorem middleButtons_preLift : PreLift c (middleButtons cfg env fingers b c) := by
  unfold middleButtons; dsimp only; split_ifs <;> exact ⟨⟨_, _, _, _, rfl⟩, rfl, rfl, rfl⟩

theorem fingerChange_preLift : PreLift c (fingerChange cfg fingers c) := by
  unfold fingerChange; split_ifs <;> exact ⟨⟨_, _, _, _, rfl⟩, rfl, rfl, rfl⟩

theorem smoothInput_preLift : PreLift c (smoothInput cfg env c) := by
  unfold smoothInput; dsimp only; split_ifs <;> exact ⟨⟨_, _, _, _, rfl⟩, rfl, rfl, rfl⟩

theorem ignoreDeltas_preLift : PreLift c (ignoreDeltas c) := by
  unfold ignoreDeltas; split_ifs <;> exact ⟨⟨_, _, _, _, rfl⟩, rfl, rfl, rfl⟩

/-- Axis scaling touches only the coordinates, dividing by `xupmm` or `yupmm`. -/
theorem scaleAxes_spec : (scaleAxes cfg c).st = c.st ∧ (scaleAxes cfg c).out = c.out ∧
    (scaleAxes cfg c).lifted = c.lifted ∧ (scaleAxes cfg c).divisors = c.divisors ++
      (if cfg.xupmm < cfg.yupmm then [cfg.xupmm] else if cfg.xupmm > cfg.yupmm then [cfg.yupmm] else []) := by
  unfold scaleAxes; split_ifs <;> simp [CallState.divide]

/-- The stages before the early returns: from the sample's state, only `lastx`,
    `lasty`, `ignoredeltas` and `lastbuttons` change; nothing is emitted; the only
    divisor is an axis resolution. -/
theorem beforeLift_spec (s : TouchState) (xraw yraw : Int) :
    let c := beforeLift cfg env s xraw yraw fingers b
    (∃ lx ly idl lb, c.st = { s with lastx := lx, lasty := ly, ignoredeltas := idl, lastbuttons := lb }) ∧
    c.out = [] ∧ c.lifted = false ∧
    c.divisors = (if cfg.xupmm < cfg.yupmm then [cfg.xupmm] else if cfg.xupmm > cfg.yupmm then [cfg.yupmm] else []) := by
  obtain ⟨hs, ho, hl, hd⟩ := scaleAxes_spec cfg ⟨s, xraw, yraw, 0, 0, 0, 0, 0, [], [], false⟩
  have h : PreLift (scaleAxes cfg ⟨s, xraw, yraw, 0, 0, 0, 0, 0, [], [], false⟩)
      (beforeLift cfg env s xraw yraw fingers b) :=
    ((middleButtons_preLift cfg env fingers b _).trans (fingerChange_preLift cfg fingers _)).trans
      ((smoothInput_preLift cfg env _).trans (ignoreDeltas_preLift _))
  obtain ⟨⟨lx, ly, idl, lb, hs'⟩, ho', hl', hd'⟩ := h
  exact ⟨⟨lx, ly, idl, lb, by rw [hs', hs]⟩, ho'.trans ho, hl'.trans hl, by rw [hd', hd]; rfl⟩

theorem cancelTap_steady (ok : Int → Prop) : Steady ok c (cancelTap cfg z c) := by
  unfold cancelTap; split
  · lift_lets; intros; split_ifs <;> first | exact .refl c | exact .of_st ⟨rfl, rfl, rfl⟩ rfl rfl rfl
  · exact .refl c

theorem captureTap_steady (ok : Int → Prop) : Steady ok c (captureTap cfg env z fingers c) := by
  have st (c : CallState) (s : TouchState) (h : s.touchmode = c.st.touchmode ∧ s.inSwipe = c.st.inSwipe ∧
      s.inSwipe4 = c.st.inSwipe4) : Steady ok c { c with st := s } := .of_st h rfl rfl rfl
  unfold captureTap; split
  · refine Steady.trans ?_ (st _ _ ⟨rfl, rfl, rfl⟩)
    split
    · lift_lets; intro _ c1
      have h1 : Steady ok c c1 := by simp only [c1]; split <;> first | exact .refl c | exact st _ _ ⟨rfl, rfl, rfl⟩
      refine h1.trans ?_
      split_ifs <;> first | exact .refl c1 | exact st _ _ ⟨rfl, rfl, rfl⟩
    · exact .refl c
  · exact .refl c

theorem preDragButton_steady (ok : Int → Prop) : Steady ok c (preDragButton cfg env c) := by
  unfold preDragButton; split_ifs
  · exact .of_st ⟨rfl, rfl, rfl⟩ rfl rfl rfl
  · exact .refl c

/-- The report emits the pointer event, dividing by `divisorx` and `divisory`. -/
theorem report_steady : Steady (fun d => d = cfg.divisorx ∨ d = cfg.divisory) c (report cfg z fingers c) where
  touchmode := rfl
  inSwipe := rfl
  inSwipe4 := rfl
  lifted := rfl
  messages := by simp [report]
  divisors d hd := by
    simp only [report, CallState.emit, CallState.divide, List.append_assoc, List.singleton_append,
      List.mem_append, List.mem_cons, List.mem_singleton, List.not_mem_nil, or_false] at hd
    exact hd

/-- Cancelling pre-drag is the one change this stage makes. -/
theorem cancelPreDrag_spec : (cancelPreDrag cfg env c = c) ∨
    (c.st.touchmode = .preDrag ∧ cancelPreDrag cfg env c = c.setMode .noTouch) := by
  unfold cancelPreDrag; split_ifs with h
  · exact .inr ⟨h.1, rfl⟩
  · exact .inl rfl

/-- The move arm divides by `divisorx` and `divisory`. -/
theorem moveDelta_steady : Steady (fun d => d = cfg.divisorx ∨ d = cfg.divisory) c (moveDelta cfg env fingers c) := by
  unfold moveDelta; dsimp only; split_ifs
  · refine (((Steady.divide c _ (.inl rfl)).trans (Steady.divide _ _ (.inr rfl))).trans ?_)
    exact .of_st ⟨rfl, rfl, rfl⟩ rfl rfl rfl
  · refine (((Steady.divide c _ (.inl rfl)).trans (Steady.divide _ _ (.inr rfl))).trans ?_)
    exact .of_st ⟨rfl, rfl, rfl⟩ rfl rfl rfl
  · exact .refl c

/-- Two-finger scrolling divides only by a wheel divisor that is set. -/
theorem twoFingerScroll_steady : Steady (· ≠ 0) c (twoFingerScroll cfg env z fingers c) := by
  have vert : cfg.wheelVertical = true → cfg.wvdivisor ≠ 0 := by simp [Config.wheelVertical]
  have horiz : cfg.wheelHorizontal = true → cfg.whdivisor ≠ 0 := by
    simp only [Config.wheelHorizontal, Bool.and_eq_true, decide_eq_true_eq]; exact And.left
  have wheels (c : CallState) : Steady (· ≠ 0) c
      ((c.divideIf cfg.wheelVertical cfg.wvdivisor).divideIf cfg.wheelHorizontal cfg.whdivisor) :=
    (@Steady.divideIf (· ≠ 0) c _ _ vert).trans (@Steady.divideIf (· ≠ 0) _ _ _ horiz)
  have deltas (c : CallState) : Steady (· ≠ 0) c (twoFingerDeltas cfg c) :=
    { wheels c with touchmode := rfl, inSwipe := rfl, inSwipe4 := rfl }
  have record (c : CallState) : Steady (· ≠ 0) c (recordDy cfg env c) := .of_st ⟨rfl, rfl, rfl⟩ rfl rfl rfl
  have holdX (c : CallState) : Steady (· ≠ 0) c (holdSmallDx cfg c) := by
    unfold holdSmallDx; split_ifs
    · exact .of_st ⟨rfl, rfl, rfl⟩ rfl rfl rfl
    · exact .refl c
  have holdY (c : CallState) : Steady (· ≠ 0) c (holdSmallDy cfg c) := by
    unfold holdSmallDy; split_ifs
    · exact .of_st ⟨rfl, rfl, rfl⟩ rfl rfl rfl
    · exact .refl c
  have send (c : CallState) : Steady (· ≠ 0) c (twoFingerDispatch cfg c) := by
    unfold twoFingerDispatch
    by_cases h : c.dy ≠ 0 ∨ c.dx ≠ 0
    · rw [if_pos h]
      exact (wheels c).trans ⟨⟨rfl, rfl, rfl, by simp [CallState.emit], fun d hd => .inl hd⟩, rfl⟩
    · rw [if_neg h]; exact .refl c
  unfold twoFingerScroll; split_ifs
  · exact .refl c
  · exact .refl c
  · exact .refl c
  · exact ((((deltas c).trans (record _)).trans (holdX _)).trans (holdY _)).trans (send _)

/-- The vertical-scroll arm either leaves for NoTouch or scrolls, dividing by
    `vscrolldivisor`. -/
theorem vScrollMotion_cases :
    vScrollMotion cfg env z fingers c = c.setMode .noTouch ∨
      Steady (· = cfg.vscrolldivisor) c (vScrollMotion cfg env z fingers c) := by
  unfold vScrollMotion
  split
  · exact .inl rfl
  refine .inr ?_
  split
  · exact .refl c
  lift_lets; intro _ _ _ c1 _ c2 _
  have divide (c : CallState) : Steady (· = cfg.vscrolldivisor) c (c.divide cfg.vscrolldivisor) := .divide c _ rfl
  have wheel (c : CallState) (a b : Int) :
      Steady (· = cfg.vscrolldivisor) c (c.emit (.dispatchScrollWheelEventX a b 0)) := .emit c rfl
  have h1 : Steady (· = cfg.vscrolldivisor) c c1 := (divide c).trans (.of_st ⟨rfl, rfl, rfl⟩ rfl rfl rfl)
  have h2 : Steady (· = cfg.vscrolldivisor) c1 c2 := by
    simp only [c2]; split <;> exact .of_st ⟨rfl, rfl, rfl⟩ rfl rfl rfl
  refine (h1.trans h2).trans ?_
  split
  · exact ((divide c2).trans (wheel _ _ _)).trans (.of_st ⟨rfl, rfl, rfl⟩ rfl rfl rfl)
  · exact .refl c2

/-- The horizontal-scroll arm either leaves for NoTouch or scrolls, dividing by
    `hscrolldivisor`. -/
theorem hScrollMotion_cases :
    hScrollMotion cfg env z fingers c = c.setMode .noTouch ∨
      Steady (· = cfg.hscrolldivisor) c (hScrollMotion cfg env z fingers c) := by
  unfold hScrollMotion
  split
  · exact .inl rfl
  refine .inr ?_
  split
  · exact .refl c
  lift_lets; intro _ _ _ c1 _ c2 _
  have divide (c : CallState) : Steady (· = cfg.hscrolldivisor) c (c.divide cfg.hscrolldivisor) := .divide c _ rfl
  have wheel (c : CallState) (a b : Int) :
      Steady (· = cfg.hscrolldivisor) c (c.emit (.dispatchScrollWheelEventX a b 0)) := .emit c rfl
  have h1 : Steady (· = cfg.hscrolldivisor) c c1 := (divide c).trans (.of_st ⟨rfl, rfl, rfl⟩ rfl rfl rfl)
  have h2 : Steady (· = cfg.hscrolldivisor) c1 c2 := by
    simp only [c2]; split <;> exact .of_st ⟨rfl, rfl, rfl⟩ rfl rfl rfl
  refine (h1.trans h2).trans ?_
  split
  · exact ((divide c2).trans (wheel _ _ _)).trans (.of_st ⟨rfl, rfl, rfl⟩ rfl rfl rfl)
  · exact .refl c2

/-- The corner-scroll arm divides by `cscrolldivisor`. -/
theorem cScrollMotion_steady : Steady (· = cfg.cscrolldivisor) c (cScrollMotion cfg env c) := by
  have divide (c : CallState) : Steady (· = cfg.cscrolldivisor) c (c.divide cfg.cscrolldivisor) := .divide c _ rfl
  have wheel (c : CallState) (a : Int) : Steady (· = cfg.cscrolldivisor) c (c.emit (.dispatchScrollWheelEventX a 0 0)) :=
    .emit c rfl
  unfold cScrollMotion
  split
  · exact .refl c
  lift_lets; intro _ _ _ _ c1 _ c2 _
  have h1 : Steady (· = cfg.cscrolldivisor) c c1 := by
    simp only [c1]; split
    · exact .of_st ⟨rfl, rfl, rfl⟩ rfl rfl rfl
    · exact (divide c).trans (.of_st ⟨rfl, rfl, rfl⟩ rfl rfl rfl)
  have h2 : Steady (· = cfg.cscrolldivisor) c1 c2 := by
    simp only [c2]; split
    · exact .of_st ⟨rfl, rfl, rfl⟩ rfl rfl rfl
    · exact .refl c1
  refine (h1.trans h2).trans ?_
  split
  · exact ((divide c2).trans (wheel _ _)).trans (.of_st ⟨rfl, rfl, rfl⟩ rfl rfl rfl)
  · exact .refl c2

@[simp] theorem resetMoved_touchmode (s : TouchState) (d : Dir) : (s.resetMoved d).touchmode = s.touchmode := by
  cases d <;> rfl

@[simp] theorem threeFingerSwipe_touchmode : (threeFingerSwipe cfg c).st.touchmode = c.st.touchmode := by
  unfold threeFingerSwipe; dsimp only; split_ifs <;> simp [swipe3, accumulateMoved]

@[simp] theorem fourFingerSwipe_touchmode : (fourFingerSwipe cfg c).st.touchmode = c.st.touchmode := by
  unfold fourFingerSwipe; dsimp only; split_ifs <;> simp [swipe4, accumulateMoved]

@[simp] theorem threeFingerSwipe_divisors : (threeFingerSwipe cfg c).divisors = c.divisors := by
  unfold threeFingerSwipe; dsimp only; split_ifs <;> simp [swipe3, accumulateMoved]

@[simp] theorem fourFingerSwipe_divisors : (fourFingerSwipe cfg c).divisors = c.divisors := by
  unfold fourFingerSwipe; dsimp only; split_ifs <;> simp [swipe4, accumulateMoved]

/-- MultiTouch keeps its mode but for one finger held, which goes back to Move; it
    divides only by a wheel divisor that is set. -/
theorem multiTouch_spec :
    ((multiTouch cfg env z fingers c).st.touchmode = c.st.touchmode ∨
      ((multiTouch cfg env z fingers c).st.touchmode = .move ∧ fingers = 1)) ∧
    ∀ d ∈ (multiTouch cfg env z fingers c).divisors, d ∈ c.divisors ∨ d ≠ 0 := by
  unfold multiTouch; split_ifs with h1 h2 h3 h4
  · exact ⟨.inr ⟨rfl, h1.1⟩, fun d hd => .inl hd⟩
  · exact ⟨.inl (twoFingerScroll_steady cfg env z fingers c).touchmode, (twoFingerScroll_steady cfg env z fingers c).divisors⟩
  · exact ⟨.inl (by simp), fun d hd => .inl (by simpa using hd)⟩
  · exact ⟨.inl (by simp), fun d hd => .inl (by simpa using hd)⟩
  · exact ⟨.inl rfl, fun d hd => .inl hd⟩

/-- The mode switch keeps the mode, or leaves a scroll mode for NoTouch, or takes a
    finger held in MultiTouch back to Move. -/
theorem motion_touchmode : (motion cfg env z fingers c).st.touchmode = c.st.touchmode ∨
    (motion cfg env z fingers c).st.touchmode = .noTouch ∨
    ((motion cfg env z fingers c).st.touchmode = .move ∧ fingers = 1) := by
  unfold motion
  split
  · exact .inl ((moveDelta_steady cfg env fingers _).touchmode.trans (by split <;> rfl))
  · exact .inl ((moveDelta_steady cfg env fingers _).touchmode.trans (by split <;> rfl))
  · exact .inl (moveDelta_steady cfg env fingers _).touchmode
  · exact (multiTouch_spec cfg env z fingers c).1.imp_right .inr
  · rcases vScrollMotion_cases cfg env z fingers c with h | h
    · exact .inr (.inl (by rw [h]; rfl))
    · exact .inl h.touchmode
  · rcases hScrollMotion_cases cfg env z fingers c with h | h
    · exact .inr (.inl (by rw [h]; rfl))
    · exact .inl h.touchmode
  · exact .inl (cScrollMotion_steady cfg env c).touchmode
  · exact .inl (preDragButton_steady cfg env _ (fun _ => False)).touchmode
  · exact .inl (preDragButton_steady cfg env _ (fun _ => False)).touchmode
  · exact .inl rfl

/-- The momentum check emits at most a timer. -/
theorem momentumStart_framed (ok : Int → Prop) : Framed ok c (momentumStart cfg c) := by
  unfold momentumStart; dsimp only
  split_ifs <;> exact ⟨rfl, rfl, rfl, by simp, fun _ h => .inl h⟩

/-- A tap's resolution emits pointer events only. -/
theorem resolveTap_framed (ok : Int → Prop) : Framed ok c (resolveTap cfg fingers c) := by
  unfold resolveTap
  split
  · lift_lets; intro _ c1 _
    have h1 : Framed ok c c1 := by
      simp only [c1]; split
      · exact ⟨rfl, rfl, rfl, by simp, fun _ h => .inl h⟩
      · exact .refl c
    exact h1.trans (.of_st ⟨rfl, rfl⟩ rfl rfl rfl)
  · exact .of_st ⟨rfl, rfl⟩ rfl rfl rfl
  · split_ifs <;> first | exact .refl c | exact .of_st ⟨rfl, rfl⟩ rfl rfl rfl

/-- A drag's release emits timers only. -/
theorem releaseDrag_framed (ok : Int → Prop) : Framed ok c (releaseDrag cfg c) := by
  unfold releaseDrag
  split
  · dsimp only; split
    · exact ⟨rfl, rfl, rfl, by simp, fun _ h => .inl h⟩
    · exact .of_st ⟨rfl, rfl⟩ rfl rfl rfl
  · exact .of_st ⟨rfl, rfl⟩ rfl rfl rfl

/-- A lift's tap resolution and drag release emit pointer events and timers only. -/
theorem tapOrRelease_framed (ok : Int → Prop) : Framed ok c (tapOrRelease cfg env fingers c) := by
  unfold tapOrRelease; split
  · exact resolveTap_framed cfg fingers c ok
  · exact releaseDrag_framed cfg c ok

/-- The finger-lift step clears the swipe latches and sets the lift flag; it emits no
    keyboard message and divides by nothing. -/
theorem fingerLift_spec : (fingerLift cfg env fingers c).st.inSwipe = (fun _ => false) ∧
    (fingerLift cfg env fingers c).st.inSwipe4 = (fun _ => false) ∧ (fingerLift cfg env fingers c).lifted = true ∧
    keyboardMessages (fingerLift cfg env fingers c).out = keyboardMessages c.out ∧
    ∀ d ∈ (fingerLift cfg env fingers c).divisors, d ∈ c.divisors := by
  have resetHistory_framed (c : CallState) : Framed (fun _ => False) c (resetHistory c) := .of_st ⟨rfl, rfl⟩ rfl rfl rfl
  have clearTaps_framed (c : CallState) : Framed (fun _ => False) c (clearTaps c) := .of_st ⟨rfl, rfl⟩ rfl rfl rfl
  have h : Framed (fun _ => False) (liftReset env c) (fingerLift cfg env fingers c) :=
    (((momentumStart_framed cfg _ _).trans (resetHistory_framed _)).trans (tapOrRelease_framed cfg env fingers _ _)).trans
      (clearTaps_framed _)
  exact ⟨h.inSwipe, h.inSwipe4, h.lifted, h.messages, fun d hd => (h.divisors d hd).resolve_right id⟩

/-- Cancelling pre-drag changes the mode only. -/
theorem cancelPreDrag_framed (ok : Int → Prop) : Framed ok c (cancelPreDrag cfg env c) := by
  rcases cancelPreDrag_spec cfg env c with h | ⟨-, h⟩ <;> rw [h]
  · exact .refl c
  · exact .of_st ⟨rfl, rfl⟩ rfl rfl rfl

theorem promoteDrag_promotes : Promotes cfg c (promoteDrag cfg env z c) := by
  unfold promoteDrag; split_ifs
  · exact ⟨.of_st ⟨rfl, rfl⟩ rfl rfl rfl, fun _ => rfl⟩
  · exact .refl c

theorem promoteDragLock_promotes : Promotes cfg c (promoteDragLock cfg z c) := by
  unfold promoteDragLock; split_ifs
  · exact ⟨⟨rfl, rfl, rfl, by simp, fun _ h => .inl h⟩, fun _ => rfl⟩
  · exact ⟨.of_st ⟨rfl, rfl⟩ rfl rfl rfl, fun _ => rfl⟩
  · exact .refl c

theorem promoteMultiTouch_promotes : Promotes cfg c (promoteMultiTouch cfg z fingers c) := by
  unfold promoteMultiTouch; split_ifs
  · exact ⟨.of_st ⟨rfl, rfl⟩ rfl rfl rfl, fun _ => rfl⟩
  · exact .refl c

/-- The corner-scroll triggers enter CScroll only when `cscrolldivisor` is set. -/
theorem cscrollTriggers_promotes (h : cfg.cscrolldivisor ≠ 0) (ts : List (Bool × List Int)) :
    Promotes cfg c (ts.foldl (cscrollTrigger cfg z) c) := by
  induction ts generalizing c with
  | nil => exact .refl c
  | cons t ts ih =>
    refine Promotes.trans ?_ (ih _)
    unfold cscrollTrigger; split_ifs
    · exact ⟨.of_st ⟨rfl, rfl⟩ rfl rfl rfl, fun _ => by simp [Config.scrollDivisorSet, CallState.setMode, h]⟩
    · exact .refl c

theorem promoteCScroll_promotes : Promotes cfg c (promoteCScroll cfg z c) := by
  unfold promoteCScroll; split_ifs with h
  · exact cscrollTriggers_promotes cfg z c h.2 _
  · exact .refl c

theorem promoteVScroll_promotes : Promotes cfg c (promoteVScroll cfg z c) := by
  unfold promoteVScroll; split_ifs with h
  · exact ⟨.of_st ⟨rfl, rfl⟩ rfl rfl rfl, fun _ => by simp [Config.scrollDivisorSet, h.2.2.2.1]⟩
  · exact .refl c

theorem promoteHScroll_promotes : Promotes cfg c (promoteHScroll cfg z c) := by
  unfold promoteHScroll; split_ifs with h
  · exact ⟨.of_st ⟨rfl, rfl⟩ rfl rfl rfl, fun _ => by simp [Config.scrollDivisorSet, h.2.2.2.1]⟩
  · exact .refl c

theorem promoteMove_promotes : Promotes cfg c (promoteMove cfg z c) := by
  unfold promoteMove; split_ifs
  · exact ⟨.of_st ⟨rfl, rfl⟩ rfl rfl rfl, fun _ => rfl⟩
  · exact .refl c

/-- The mode promotions, in source order. -/
theorem promote_promotes : Promotes cfg c (promote cfg env z fingers c) :=
  ((((((promoteDrag_promotes cfg env z c).trans (promoteDragLock_promotes cfg z _)).trans
    (promoteMultiTouch_promotes cfg z fingers _)).trans (promoteCScroll_promotes cfg z _)).trans
    (promoteVScroll_promotes cfg z _)).trans (promoteHScroll_promotes cfg z _)).trans (promoteMove_promotes cfg z _)

end Stages

end AlpsGlidePoint
