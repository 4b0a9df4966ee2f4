import AlpsGlidePoint.Touch

/-! # `dispatchEventsWithInfo`

The gesture machine, one sample at a time. The body of the source function is cut
at its blank-line paragraphs into stages over a `CallState`, in source order; the
two `return`s before the finger-lift test end the call with what the earlier stages
did. The mode switch's fall-through arms (`Drag`/`DragLock` into `Move`,
`DragNoTouch` into `PreDrag`, one finger into two in MultiTouch) call the shared arm
as a function. C `/` and `%` on `int` are `Int.tdiv` and `Int.tmod`; each one is
preceded by `divide`, which records its divisor.
-/

namespace AlpsGlidePoint

section Stages

variable (cfg : Config) (env : Env) (z fingers : Int) (buttonsraw : UInt32)

/-- Scale x and y to the axis with the most resolution; `x = xraw; y = yraw`. -/
def scaleAxes (c : CallState) : CallState :=
  let c :=
    if cfg.xupmm < cfg.yupmm then
      { c.divide cfg.xupmm with xraw := Int.tdiv (c.xraw * cfg.yupmm) cfg.xupmm }
    else if cfg.xupmm > cfg.yupmm then
      { c.divide cfg.yupmm with yraw := Int.tdiv (c.yraw * cfg.xupmm) cfg.yupmm }
    else c
  { c with x := c.xraw, y := c.yraw }

/-- `lastbuttons = buttons`, and the middle-button emulation: asked when the pad is
    no clickpad or three fingers are down, and again when a finger goes down. -/
def middleButtons (c : CallState) : CallState :=
  let c := { c with buttons := buttonsraw, st := { c.st with lastbuttons := buttonsraw } }
  let c :=
    if !cfg.clickpadtype || fingers == 3 then
      { c with buttons := env.middleButton c.buttons (if fingers = 3 then .fromPassthru else .fromTrackpad) }
    else c
  if c.st.lastFingers = 0 ∧ fingers > 0 then
    { c with buttons := env.middleButton (buttonsraw ||| env.passbuttons) .fromCancel }
  else c

/-- A change between two non-zero finger counts starts ignoring deltas. -/
def fingerChange (c : CallState) : CallState :=
  if c.st.lastFingers > 0 ∧ fingers > 0 ∧ c.st.lastFingers ≠ fingers then
    { c with st := { c.st with ignoredeltas := cfg.ignoredeltasstart } }
  else c

/-- `unsmoothinput` and `smoothinput`. -/
def smoothInput (c : CallState) : CallState :=
  let c := if cfg.unsmoothinput then { c with x := env.xUndo c.x, y := env.yUndo c.y } else c
  if cfg.smoothinput then { c with x := env.xAvg c.x, y := env.yAvg c.y } else c

/-- While deltas are ignored, the last position follows the contact. -/
def ignoreDeltas (c : CallState) : CallState :=
  if c.st.ignoredeltas ≠ 0 then
    { c with st := { c.st with lastx := c.x, lasty := c.y, ignoredeltas := c.st.ignoredeltas - 1 } }
  else c

/-- "OutsidezoneNoAction When Typing": the call returns here. -/
def outsideZone (c : CallState) : Bool :=
  cfg.outzoneWt && cfg.zFinger < z && env.nowNs - env.keytime < cfg.maxaftertyping &&
    (c.x < cfg.zonel || c.x > cfg.zoner || c.y < cfg.zoneb || c.y > cfg.zonet)

/-- The momentum-scroll check of a lift in MultiTouch. -/
def momentumStart (c : CallState) : CallState :=
  if c.st.touchmode = .mTouch ∧ cfg.momentumscroll ∧ cfg.momentumscrolltimer ≠ 0 then
    if (c.st.dyHistory.length : Int) > cfg.momentumscrollsamplesmin then
      let interval := c.st.timeHistory.headD 0 - c.st.timeHistory.getLastD 0
      let c := { c with st := { c.st with momentumscrollinterval := interval } }
      if interval ≠ 0 then
        let sum := c.st.dyHistory.sum
        ({ c with st := { c.st with
            momentumscrollsum := sum, momentumscrollcurrent := cfg.momentumscrolltimer * -sum,
            momentumscrollrest1 := 0, momentumscrollrest2 := 0 } }).emit
          (.setTimerTimeout .scrollTimer cfg.momentumscrolltimer)
      else c
    else c
  else c

/-- The button of a double tap (right unless `swapdoubletriple`). -/
def doubleTapButton : UInt32 := if !cfg.swapdoubletriple then 0x2 else 0x04

/-- The button of a triple tap (middle unless `swapdoubletriple`). -/
def tripleTapButton : UInt32 := if !cfg.swapdoubletriple then 0x4 else 0x02

/-- A lift within `maxtaptime` with `clicking` on: the `switch (touchmode)` of taps. -/
def resolveTap (c : CallState) : CallState :=
  match c.st.touchmode with
  | .drag =>
      let c :=
        if !cfg.immediateclick then
          let b := c.buttons &&& ~~~0x7
          ({ c with buttons := b }.emit (.dispatchRelativePointerEventX 0 0 (b ||| 0x1))).emit
            (.dispatchRelativePointerEventX 0 0 b)
        else c
      let b :=
        if c.st.wastriple && cfg.rtap then c.buttons ||| tripleTapButton cfg
        else if c.st.wasdouble && cfg.rtap then c.buttons ||| doubleTapButton cfg
        else c.buttons ||| 0x1
      { c with buttons := b }.setMode .noTouch
  | .dragLock => c.setMode .noTouch
  | _ =>
      if c.st.wastriple && cfg.rtap then
        { c with buttons := c.buttons ||| tripleTapButton cfg }.setMode .noTouch
      else if c.st.wasdouble && cfg.rtap then
        if c.st.lastz = 126 ∧ c.st.lastFingers = 2 ∧ fingers = 0 then
          { c with buttons := c.buttons ||| doubleTapButton cfg }.setMode .noTouch
        else c
      else if c.st.lastFingers = 1 ∧ fingers = 0 then
        { c with buttons := c.buttons ||| 0x1 }.setMode (if cfg.dragging then .preDrag else .noTouch)
      else c

/-- A lift that is no tap: a drag either waits in DragNoTouch or ends. -/
def releaseDrag (c : CallState) : CallState :=
  if (c.st.touchmode = .drag ∨ c.st.touchmode = .dragLock) ∧
      (cfg.draglock ∨ c.st.draglocktemp ≠ 0 ∨ (cfg.dragTimer ∧ cfg.dragexitdelay ≠ 0)) then
    let c := c.setMode .dragNoTouch
    if !cfg.draglock && c.st.draglocktemp == 0 then
      (c.emit (.cancelTimer .dragTimer)).emit (.setTimerTimeout .dragTimer cfg.dragexitdelay)
    else c
  else { c with st := { c.st with touchmode := .noTouch, draglocktemp := 0 } }

/-- A lift within `maxtaptime` with `clicking` on resolves a tap; any other lift
    releases a drag. -/
def tapOrRelease (c : CallState) : CallState :=
  if env.nowNs - c.st.touchtime < cfg.maxtaptime ∧ cfg.clicking then resolveTap cfg fingers c else releaseDrag cfg c

/-- The lift clears the remainders, the swipe latches and the movement, and notes the
    time; the ghost flag records that the call reached this step. -/
def liftReset (c : CallState) : CallState :=
  { c with lifted := true, st := { c.st with
    xrest := 0, yrest := 0, scrollrest := 0, inSwipe := fun _ => false, inSwipe4 := fun _ => false,
    xmoved := 0, ymoved := 0, untouchtime := env.nowNs, tracksecondary := false } }

/-- `dy_history.reset(); time_history.reset();` -/
def resetHistory (c : CallState) : CallState := { c with st := { c.st with timeHistory := [], dyHistory := [] } }

/-- `wasdouble = false; wastriple = false;` -/
def clearTaps (c : CallState) : CallState := { c with st := { c.st with wasdouble := false, wastriple := false } }

/-- The finger-lift step, run when `z < z_finger` in a touch mode. -/
def fingerLift (c : CallState) : CallState :=
  clearTaps (tapOrRelease cfg env fingers (resetHistory (momentumStart cfg (liftReset env c))))

/-- Cancel pre-drag mode if the second tap takes too long. -/
def cancelPreDrag (c : CallState) : CallState :=
  if c.st.touchmode = .preDrag ∧ env.nowNs - c.st.untouchtime ≥ cfg.maxdragtime then c.setMode .noTouch
  else c

/-- Cancel the tap if the touch point moves too far. As in the source, the `dy` of
    this test is never positive. -/
def cancelTap (c : CallState) : CallState :=
  if c.st.touchmode.isTouchMode ∧ cfg.isFingerTouch z then
    let dx := if c.xraw > c.st.touchx then c.xraw - c.st.touchx else c.st.touchx - c.xraw
    let dy := if c.yraw > c.st.touchy then c.st.touchy - c.yraw else c.yraw - c.st.touchy
    if !c.st.wasdouble && !c.st.wastriple && (dx > cfg.tapthreshx || dy > cfg.tapthreshy) then
      { c with st := { c.st with touchtime := 0 } }
    else if dx > cfg.dblthreshx || dy > cfg.dblthreshy then
      { c with st := { c.st with touchtime := 0 } }
    else c
  else c

/-- The `MODE_MOVE` arm: the delta since the last sample, its remainder carried
    through `divisorx`/`divisory`, dropped whole when it is bogus. -/
def moveDelta (c : CallState) : CallState :=
  if c.st.lastFingers = fingers ∧ env.nowNs - c.st.touchtime > 100000000 then
    let dx := c.x - c.st.lastx + c.st.xrest
    let dy := c.y - c.st.lasty + c.st.yrest
    let c := (c.divide cfg.divisorx).divide cfg.divisory
    let c := { c with
      dx := dx, dy := dy,
      st := { c.st with xrest := Int.tmod dx cfg.divisorx, yrest := Int.tmod dy cfg.divisory } }
    if cAbs dx > cfg.bogusdxthresh ∨ cAbs dy > cfg.bogusdythresh then
      { c with dx := 0, dy := 0, st := { c.st with xrest := 0, yrest := 0 } }
    else c
  else c

/-- Two-finger scrolling is vertical when `wvdivisor` is set. -/
def Config.wheelVertical : Bool := cfg.wvdivisor ≠ 0

/-- Two-finger scrolling is horizontal when `whdivisor` is set and `hscroll` is on. -/
def Config.wheelHorizontal : Bool := cfg.whdivisor ≠ 0 && cfg.hscroll

/-- Record a divisor when its division is evaluated. -/
def CallState.divideIf (c : CallState) (b : Bool) (d : Int) : CallState :=
  { c with divisors := c.divisors ++ if b then [d] else [] }

/-- The deltas of two-finger scrolling and their remainders. -/
def twoFingerDeltas (c : CallState) : CallState :=
  let dy := if cfg.wheelVertical then c.y - c.st.lasty + c.st.yrest else 0
  let dx := if cfg.wheelHorizontal then c.x - c.st.lastx + c.st.xrest else 0
  { (c.divideIf cfg.wheelVertical cfg.wvdivisor).divideIf cfg.wheelHorizontal cfg.whdivisor with
    dx := dx, dy := dy,
    st := { c.st with
      yrest := if cfg.wheelVertical then Int.tmod dy cfg.wvdivisor else 0,
      xrest := if cfg.wheelHorizontal then Int.tmod dx cfg.whdivisor else 0 } }

/-- The velocity history: cleared when the scroll stops or turns, then extended. -/
def recordDy (c : CallState) : CallState :=
  let restart := decide (c.dy < 0) != decide (c.st.dyHistory.headD 0 < 0) || c.dy == 0
  { c with st := { c.st with
    dyHistory := historyFilter cfg.historySize c.dy (if restart then [] else c.st.dyHistory),
    timeHistory := historyFilter cfg.historySize env.nowNs (if restart then [] else c.st.timeHistory) } }

/-- A horizontal movement under `scrolldxthresh` is kept as the remainder. -/
def holdSmallDx (c : CallState) : CallState :=
  if cAbs c.dx < cfg.scrolldxthresh then { c with dx := 0, st := { c.st with xrest := c.dx } } else c

/-- A vertical movement under `scrolldythresh` is kept as the remainder. -/
def holdSmallDy (c : CallState) : CallState :=
  if cAbs c.dy < cfg.scrolldythresh then { c with dy := 0, st := { c.st with yrest := c.dy } } else c

/-- Dispatch a two-finger scroll that moved. -/
def twoFingerDispatch (c : CallState) : CallState :=
  if c.dy ≠ 0 ∨ c.dx ≠ 0 then
    { ((c.divideIf cfg.wheelVertical cfg.wvdivisor).divideIf cfg.wheelHorizontal cfg.whdivisor).emit
        (.dispatchScrollWheelEventX (if cfg.wheelVertical then Int.tdiv (-c.dy) cfg.wvdivisor else 0)
          (if cfg.wheelHorizontal then Int.tdiv (-c.dx) cfg.whdivisor else 0) 0) with dx := 0, dy := 0 }
  else c

/-- The two-finger arm of MultiTouch: scrolling on both axes, with the vertical
    history kept for momentum. -/
def twoFingerScroll (c : CallState) : CallState :=
  if c.st.lastFingers ≠ fingers then c
  else if cfg.palm ∧ z > cfg.zlimit then c
  else if cfg.palmWt ∧ env.nowNs - env.keytime < cfg.maxaftertyping then c
  else twoFingerDispatch cfg (holdSmallDy cfg (holdSmallDx cfg (recordDy cfg env (twoFingerDeltas cfg c))))

/-- The movement test of a swipe direction. -/
def Dir.passed (d : Dir) (xmoved ymoved : Int) : Bool :=
  match d with
  | .up => ymoved < -cfg.swipedy
  | .down => ymoved > cfg.swipedy
  | .right => xmoved > cfg.swipedx
  | .left => xmoved < -cfg.swipedx

/-- `ymoved = 0` after a vertical swipe, `xmoved = 0` after a horizontal one. -/
def TouchState.resetMoved (s : TouchState) : Dir → TouchState
  | .up | .down => { s with ymoved := 0 }
  | .left | .right => { s with xmoved := 0 }

/-- `xmoved += x - lastx; ymoved += y - lasty`. -/
def accumulateMoved (c : CallState) : CallState :=
  { c with st := { c.st with
    xmoved := c.st.xmoved + (c.x - c.st.lastx), ymoved := c.st.ymoved + (c.y - c.st.lasty) } }

/-- A three-finger swipe in direction `d` fires: past the threshold, with neither
    latch of the direction set. -/
def fires3 (c : CallState) (d : Dir) : Bool :=
  Dir.passed cfg d c.st.xmoved c.st.ymoved && !c.st.inSwipe d && !c.st.inSwipe4 d

/-- `inSwipeUp = 1; inSwipeDown = 0; ymoved = 0;` and the swipe-up message, for
    direction `d`. -/
def swipe3 (c : CallState) (d : Dir) : CallState :=
  { c with st := { c.st.resetMoved d with
      inSwipe := Function.update (Function.update c.st.inSwipe d true) d.opposite false } }.emit
    (.dispatchKeyboardMessage (.swipe d))

/-- A four-finger swipe in direction `d` fires: past the threshold with its latch
    clear. -/
def fires4 (c : CallState) (d : Dir) : Bool :=
  Dir.passed cfg d c.st.xmoved c.st.ymoved && !c.st.inSwipe4 d

/-- `inSwipe4Up = 1; inSwipeUp = 0; inSwipe4Down = 0; ymoved = 0;` and the
    swipe-4-up message, for direction `d`. -/
def swipe4 (c : CallState) (d : Dir) : CallState :=
  { c with st := { c.st.resetMoved d with
      inSwipe4 := Function.update (Function.update c.st.inSwipe4 d true) d.opposite false,
      inSwipe := Function.update c.st.inSwipe d false } }.emit
    (.dispatchKeyboardMessage (.swipe4 d))

/-- The three-finger arm: up, down, right, left, the first that fires. -/
def threeFingerSwipe (c : CallState) : CallState :=
  let c := accumulateMoved c
  if fires3 cfg c .up then swipe3 c .up
  else if fires3 cfg c .down then swipe3 c .down
  else if fires3 cfg c .right then swipe3 c .right
  else if fires3 cfg c .left then swipe3 c .left
  else c

/-- The four-finger arm: up, down, right, left, the first that fires. -/
def fourFingerSwipe (c : CallState) : CallState :=
  let c := accumulateMoved c
  if fires4 cfg c .up then swipe4 c .up
  else if fires4 cfg c .down then swipe4 c .down
  else if fires4 cfg c .right then swipe4 c .right
  else if fires4 cfg c .left then swipe4 c .left
  else c

/-- The `MODE_MTOUCH` arm, by finger count. One finger held since the last sample
    goes back to Move (unless `wsticky`); otherwise it falls through to two. -/
def multiTouch (c : CallState) : CallState :=
  if fingers = 1 ∧ c.st.lastFingers = fingers ∧ !cfg.wsticky then
    { c with st := { c.st with dyHistory := [], timeHistory := [] } }.setMode .move
  else if fingers = 1 ∨ fingers = 2 then twoFingerScroll cfg env z fingers c
  else if fingers = 3 then threeFingerSwipe cfg c
  else if fingers = 4 then fourFingerSwipe cfg c
  else c

/-- The `MODE_VSCROLL` arm. -/
def vScrollMotion (c : CallState) : CallState :=
  if !cfg.vsticky ∧ (c.x < cfg.redge ∨ fingers > 1 ∨ z > cfg.zlimit) then c.setMode .noTouch
  else if cfg.palmWt ∧ env.nowNs - env.keytime < cfg.maxaftertyping then c
  else
    let dy := c.y - c.st.lasty + c.st.scrollrest
    let c := { c.divide cfg.vscrolldivisor with st := { c.st with scrollrest := Int.tmod dy cfg.vscrolldivisor } }
    let c : CallState := if cAbs dy < cfg.scrolldythresh then { c with dy := 0, st := { c.st with scrollrest := dy } }
      else { c with dy := dy }
    if c.dy ≠ 0 then
      { (c.divide cfg.vscrolldivisor).emit
          (.dispatchScrollWheelEventX (Int.tdiv (-c.dy) cfg.vscrolldivisor) 0 0) with dy := 0 }
    else c

/-- The `MODE_HSCROLL` arm. -/
def hScrollMotion (c : CallState) : CallState :=
  if !cfg.hsticky ∧ (c.y < cfg.bedge ∨ fingers > 1 ∨ z > cfg.zlimit) then c.setMode .noTouch
  else if cfg.palmWt ∧ env.nowNs - env.keytime < cfg.maxaftertyping then c
  else
    let dx := c.x - c.st.lastx + c.st.scrollrest
    let c := { c.divide cfg.hscrolldivisor with st := { c.st with scrollrest := Int.tmod dx cfg.hscrolldivisor } }
    let c : CallState := if cAbs dx < cfg.scrolldxthresh then { c with dx := 0, st := { c.st with scrollrest := dx } }
      else { c with dx := dx }
    if c.dx ≠ 0 then
      { (c.divide cfg.hscrolldivisor).emit
          (.dispatchScrollWheelEventX 0 (Int.tdiv c.dx cfg.hscrolldivisor) 0) with dx := 0 }
    else c

/-- The `MODE_CSCROLL` arm: circular scrolling around the pad's centre. -/
def cScrollMotion (c : CallState) : CallState :=
  if cfg.palmWt ∧ env.nowNs - env.keytime < cfg.maxaftertyping then c
  else
    let dx := if c.y < cfg.centery then c.x - c.st.lastx else c.st.lastx - c.x
    let c : CallState :=
      if c.x < cfg.centerx then { c with dx := dx + (c.st.lasty - c.y) }
      else
        let dx := dx + (c.y - c.st.lasty) + c.st.scrollrest
        { c.divide cfg.cscrolldivisor with
          dx := dx, st := { c.st with scrollrest := Int.tmod dx cfg.cscrolldivisor } }
    let c : CallState := if cAbs c.dx < cfg.scrolldxthresh then { c with dx := 0, st := { c.st with scrollrest := c.dx } }
      else c
    if c.dx ≠ 0 then
      { (c.divide cfg.cscrolldivisor).emit
          (.dispatchScrollWheelEventX (Int.tdiv c.dx cfg.cscrolldivisor) 0 0) with dx := 0 }
    else c

/-- The `MODE_PREDRAG` arm: the button is held unless `immediateclick`. -/
def preDragButton (c : CallState) : CallState :=
  if !cfg.immediateclick ∧ (!cfg.palmWt ∨ env.nowNs - env.keytime ≥ cfg.maxaftertyping) then
    { c with buttons := c.buttons ||| 0x1 }
  else c

/-- The mode switch. -/
def motion (c : CallState) : CallState :=
  match c.st.touchmode with
  | .drag | .dragLock =>
      let c :=
        if c.st.touchmode = .dragLock ∨ (!cfg.immediateclick ∨ env.nowNs - c.st.touchtime > cfg.maxdbltaptime) then
          { c with buttons := c.buttons ||| 0x1 }
        else c
      moveDelta cfg env fingers c
  | .move => moveDelta cfg env fingers c
  | .mTouch => multiTouch cfg env z fingers c
  | .vScroll => vScrollMotion cfg env z fingers c
  | .hScroll => hScrollMotion cfg env z fingers c
  | .cScroll => cScrollMotion cfg env c
  | .dragNoTouch => preDragButton cfg env { c with buttons := c.buttons ||| 0x1 }
  | .preDrag => preDragButton cfg env c
  | .noTouch => c

/-- Capture the time of a tap and watch for double and triple taps; any touch
    cancels momentum scrolling. -/
def captureTap (c : CallState) : CallState :=
  if cfg.isFingerTouch z then
    let c :=
      if (!cfg.palmWt ∨ env.nowNs - env.keytime ≥ cfg.maxaftertyping) ∧ c.st.momentumscrollcurrent = 0 then
        let c := if !c.st.touchmode.isTouchMode then
            { c with st := { c.st with touchtime := env.nowNs, touchx := c.x, touchy := c.y } }
          else c
        if fingers = 2 then { c with st := { c.st with wasdouble := true } }
        else if fingers = 3 then { c with st := { c.st with wastriple := true } }
        else c
      else c
    { c with st := { c.st with momentumscrollcurrent := 0 } }
  else c

/-- The eight corner-scroll triggers in source order: the zone each tests and the
    `ctrigger` values that enable it. -/
def cscrollTriggers (x y : Int) : List (Bool × List Int) :=
  [(y > cfg.tedge, [1, 9]), (y > cfg.tedge && x > cfg.redge, [2]), (x > cfg.redge, [3, 9]),
   (x > cfg.redge && y < cfg.bedge, [4]), (y < cfg.bedge, [5, 9]), (y < cfg.bedge && x < cfg.ledge, [6]),
   (x < cfg.ledge, [7, 9]), (x < cfg.ledge && y > cfg.tedge, [8])]

/-- One corner-scroll trigger. -/
def cscrollTrigger (c : CallState) (t : Bool × List Int) : CallState :=
  if c.st.touchmode = .noTouch ∧ z > cfg.zFinger ∧ t.1 ∧ cfg.ctrigger ∈ t.2 then c.setMode .cScroll
  else c

/-- PreDrag becomes Drag on a renewed touch; the temporary drag lock follows the
    modifier keys. -/
def promoteDrag (c : CallState) : CallState :=
  if c.st.touchmode = .preDrag ∧ cfg.isFingerTouch z then
    { c with st := { c.st with
      touchmode := .drag, draglocktemp := env.modifierdown &&& cfg.draglocktempmask } }
  else c

/-- DragNoTouch becomes DragLock on a renewed touch, cancelling the drag timer. -/
def promoteDragLock (c : CallState) : CallState :=
  if c.st.touchmode = .dragNoTouch ∧ cfg.isFingerTouch z then
    (if cfg.dragTimer then c.emit (.cancelTimer .dragTimer) else c).setMode .dragLock
  else c

/-- More than one finger touching switches to MultiTouch. -/
def promoteMultiTouch (c : CallState) : CallState :=
  if c.st.touchmode ≠ .mTouch ∧ fingers > 1 ∧ cfg.isFingerTouch z then
    { c with st := { c.st with touchmode := .mTouch, tracksecondary := false } }
  else c

/-- The corner-scroll triggers, when scrolling and corner scrolling are on. -/
def promoteCScroll (c : CallState) : CallState :=
  if cfg.scroll ∧ cfg.cscrolldivisor ≠ 0 then (cscrollTriggers cfg c.x c.y).foldl (cscrollTrigger cfg z) c
  else c

/-- A touch past the right edge scrolls vertically. -/
def promoteVScroll (c : CallState) : CallState :=
  if (c.st.touchmode = .noTouch ∨ (c.st.touchmode = .hScroll ∧ c.y ≥ cfg.bedge)) ∧ z > cfg.zFinger ∧
      c.x > cfg.redge ∧ cfg.vscrolldivisor ≠ 0 ∧ cfg.scroll then
    { c with st := { c.st with touchmode := .vScroll, scrollrest := 0 } }
  else c

/-- A touch past the bottom edge scrolls horizontally. -/
def promoteHScroll (c : CallState) : CallState :=
  if (c.st.touchmode = .noTouch ∨ (c.st.touchmode = .vScroll ∧ c.x ≤ cfg.redge)) ∧ z > cfg.zFinger ∧
      c.y > cfg.bedge ∧ cfg.hscrolldivisor ≠ 0 ∧ cfg.hscroll ∧ cfg.scroll then
    { c with st := { c.st with touchmode := .hScroll, scrollrest := 0 } }
  else c

/-- Any other touch moves the pointer. -/
def promoteMove (c : CallState) : CallState :=
  if c.st.touchmode = .noTouch ∧ z > cfg.zFinger then c.setMode .move else c

/-- Switch modes, depending on input, in source order. -/
def promote (c : CallState) : CallState :=
  promoteMove cfg z (promoteHScroll cfg z (promoteVScroll cfg z (promoteCScroll cfg z
    (promoteMultiTouch cfg z fingers (promoteDragLock cfg z (promoteDrag cfg env z c))))))

/-- Dispatch dx/dy and the buttons; save the sample for the next one. -/
def report (c : CallState) : CallState :=
  let c := ((c.divide cfg.divisorx).divide cfg.divisory).emit
    (.dispatchRelativePointerEventX (Int.tdiv c.dx cfg.divisorx) (Int.tdiv c.dy cfg.divisory) c.buttons)
  { c with st := { c.st with lastx := c.x, lasty := c.y, lastz := z, lastFingers := fingers } }

end Stages

/-- The stages before the two early returns. -/
def beforeLift (cfg : Config) (env : Env) (s : TouchState) (xraw yraw fingers : Int)
    (buttonsraw : UInt32) : CallState :=
  ignoreDeltas (smoothInput cfg env (fingerChange cfg fingers (middleButtons cfg env fingers buttonsraw
    (scaleAxes cfg ⟨s, xraw, yraw, 0, 0, 0, 0, 0, [], [], false⟩))))

/-- The stages after the finger-lift test. -/
def afterLift (cfg : Config) (env : Env) (z fingers : Int) (c : CallState) : CallState :=
  report cfg z fingers (promote cfg env z fingers (captureTap cfg env z fingers
    (motion cfg env z fingers (cancelTap cfg z (cancelPreDrag cfg env c)))))

/-- The finger-lift test and every stage after it. -/
def fromLift (cfg : Config) (env : Env) (z fingers : Int) (c : CallState) : CallState :=
  afterLift cfg env z fingers
    (if z < cfg.zFinger ∧ c.st.touchmode.isTouchMode then fingerLift cfg env fingers c else c)

/-- `dispatchEventsWithInfo(xraw, yraw, z, fingers, buttonsraw)`: the final call
    state; its `st` is the touch state after the call. -/
def dispatchEventsWithInfo (cfg : Config) (env : Env) (s : TouchState) (xraw yraw z fingers : Int)
    (buttonsraw : UInt32) : CallState :=
  let c := beforeLift cfg env s xraw yraw fingers buttonsraw
  if outsideZone cfg env z c || c.st.ignoreall then c else fromLift cfg env z fingers c

end AlpsGlidePoint
