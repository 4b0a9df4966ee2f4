import Mathlib.Logic.Function.Basic
import Mathlib.Algebra.Group.Nat.Basic
import Mathlib.Algebra.Group.Int
import Mathlib.Algebra.Ring.Int.Defs
import Mathlib.Data.Int.Bitwise

/-! # The gesture machine's state

The data `dispatchEventsWithInfo` reads and writes: the configuration, fixed for a
run; the touch state it keeps between samples; what the rest of the driver supplies
at each sample (the clock, the last keystroke, the middle-button emulation and the
smoothing filters of the touchpad base class, whose code is not in the source); and
the events it emits. One call works on a `CallState`: the touch state with the
call's locals, the events emitted so far and, as ghost data, the divisors of the
divisions and remainders it evaluated and whether it reached the finger-lift step.
-/

namespace AlpsGlidePoint

/-- `MODE_NOTOUCH` … `MODE_CSCROLL`. -/
inductive TouchMode where
  | noTouch | move | vScroll | hScroll | cScroll | mTouch | drag | dragLock | dragNoTouch | preDrag
  deriving DecidableEq, Repr

/-- Modelled from the spec: `isTouchMode` (declared in the touchpad base class, not in
    the source). A contact is in progress in Move, the three scroll modes,
    MultiTouch, Drag and DragLock; NoTouch, PreDrag and DragNoTouch are the modes
    between contacts. -/
def TouchMode.isTouchMode : TouchMode → Bool
  | .move | .vScroll | .hScroll | .cScroll | .mTouch | .drag | .dragLock => true
  | .noTouch | .dragNoTouch | .preDrag => false

/-- A swipe direction: the four `inSwipe` latches of each finger count. -/
inductive Dir where
  | up | down | left | right
  deriving DecidableEq, Repr

def Dir.opposite : Dir → Dir
  | .up => .down
  | .down => .up
  | .left => .right
  | .right => .left

/-- The swipe messages: `swipe .up` is `kPS2M_swipeUp`, `swipe4 .up` is
    `kPS2M_swipe4Up`, and so on. -/
inductive KeyboardMessage where
  | swipe (d : Dir)
  | swipe4 (d : Dir)
  deriving DecidableEq, Repr

inductive Timer where
  | scrollTimer | dragTimer
  deriving DecidableEq, Repr

/-- What a call emits, in order. -/
inductive Event where
  | dispatchRelativePointerEventX (dx dy : Int) (buttons : UInt32)
  | dispatchScrollWheelEventX (deltaAxis1 deltaAxis2 deltaAxis3 : Int)
  | dispatchKeyboardMessage (message : KeyboardMessage)
  | setTimerTimeout (timer : Timer) (timeout : Int)
  | cancelTimer (timer : Timer)
  deriving DecidableEq, Repr

/-- `MBComingFrom`: who asks `middleButton`. -/
inductive MBComingFrom where
  | fromTrackpad | fromPassthru | fromCancel
  deriving DecidableEq, Repr

/-- The configuration `dispatchEventsWithInfo` reads (set from the driver's
    properties, unchanged during a run). Flags the source tests as `int`s are
    `Bool`s; `dragTimer` says whether the drag timer exists; `historySize` is the
    capacity of `dy_history` and `time_history`. -/
structure Config where
  xupmm : Int
  yupmm : Int
  clickpadtype : Bool
  unsmoothinput : Bool
  smoothinput : Bool
  ignoredeltasstart : Int
  outzoneWt : Bool
  zFinger : Int
  zlimit : Int
  maxaftertyping : UInt64
  zonel : Int
  zoner : Int
  zoneb : Int
  zonet : Int
  momentumscroll : Bool
  momentumscrolltimer : Int
  momentumscrollsamplesmin : Int
  maxtaptime : UInt64
  clicking : Bool
  immediateclick : Bool
  rtap : Bool
  swapdoubletriple : Bool
  dragging : Bool
  draglock : Bool
  dragTimer : Bool
  dragexitdelay : Int
  maxdragtime : UInt64
  tapthreshx : Int
  tapthreshy : Int
  dblthreshx : Int
  dblthreshy : Int
  maxdbltaptime : UInt64
  divisorx : Int
  divisory : Int
  bogusdxthresh : Int
  bogusdythresh : Int
  wsticky : Bool
  palm : Bool
  palmWt : Bool
  wvdivisor : Int
  whdivisor : Int
  hscroll : Bool
  scrolldxthresh : Int
  scrolldythresh : Int
  swipedx : Int
  swipedy : Int
  vsticky : Bool
  hsticky : Bool
  redge : Int
  ledge : Int
  tedge : Int
  bedge : Int
  vscrolldivisor : Int
  hscrolldivisor : Int
  cscrolldivisor : Int
  centerx : Int
  centery : Int
  scroll : Bool
  ctrigger : Int
  draglocktempmask : UInt32
  historySize : Nat

/-- Modelled from the spec: `isFingerTouch(z)` (declared in the touchpad base class,
    not in the source): a pressure above the touch threshold `z_finger` and below
    the palm threshold `zlimit`. -/
def Config.isFingerTouch (cfg : Config) (z : Int) : Bool := cfg.zFinger < z && z < cfg.zlimit

/-- What the rest of the driver supplies to one call: the time, the last keystroke,
    the modifier keys and pass-through buttons, and the answers of `middleButton`
    and of the `x_undo`/`y_undo`/`x_avg`/`y_avg` filters (base-class code that is not
    in the source). -/
structure Env where
  nowNs : UInt64
  keytime : UInt64
  modifierdown : UInt32
  passbuttons : UInt32
  middleButton : UInt32 → MBComingFrom → UInt32
  xUndo : Int → Int
  yUndo : Int → Int
  xAvg : Int → Int
  yAvg : Int → Int

/-- The touch state kept between samples. `inSwipe d` and `inSwipe4 d` are the
    latches `inSwipeUp` … `inSwipe4Left`; `dyHistory` and `timeHistory` hold the
    most recent values first; `lastz` is `modelData.lastz`. -/
structure TouchState where
  touchmode : TouchMode
  lastx : Int
  lasty : Int
  lastz : Int
  lastFingers : Int
  lastbuttons : UInt32
  ignoredeltas : Int
  ignoreall : Bool
  xrest : Int
  yrest : Int
  scrollrest : Int
  inSwipe : Dir → Bool
  inSwipe4 : Dir → Bool
  xmoved : Int
  ymoved : Int
  touchtime : UInt64
  untouchtime : UInt64
  touchx : Int
  touchy : Int
  wasdouble : Bool
  wastriple : Bool
  tracksecondary : Bool
  draglocktemp : UInt32
  dyHistory : List Int
  timeHistory : List UInt64
  momentumscrollinterval : UInt64
  momentumscrollsum : Int
  momentumscrollcurrent : Int
  momentumscrollrest1 : Int
  momentumscrollrest2 : Int

/-- Modelled from the spec: the session start, in NoTouch with every counter, latch
    and history empty. -/
def TouchState.initial : TouchState :=
  ⟨.noTouch, 0, 0, 0, 0, 0, 0, false, 0, 0, 0, fun _ => false, fun _ => false, 0, 0, 0, 0, 0, 0,
    false, false, false, 0, [], [], 0, 0, 0, 0, 0⟩

/-- One call of `dispatchEventsWithInfo`: the touch state, the locals (`xraw`, `yraw`
    after axis scaling, `x`, `y` after smoothing, `buttons`, `dx`, `dy`), the events
    emitted, and the ghost record of the divisors used and of the finger-lift step.
    The parameters `z`, `fingers` and `buttonsraw`, which the call never assigns, are
    passed to the stages that read them. -/
structure CallState where
  st : TouchState
  xraw : Int
  yraw : Int
  x : Int
  y : Int
  buttons : UInt32
  dx : Int
  dy : Int
  out : List Event
  divisors : List Int
  lifted : Bool

namespace CallState

/-- Emit an event. -/
def emit (c : CallState) (e : Event) : CallState := { c with out := c.out ++ [e] }

/-- Record the divisor of a `/` or `%` about to be evaluated. -/
def divide (c : CallState) (d : Int) : CallState := { c with divisors := c.divisors ++ [d] }

/-- Set `touchmode`. -/
def setMode (c : CallState) (m : TouchMode) : CallState := { c with st := { c.st with touchmode := m } }

@[simp] theorem emit_st (c : CallState) (e : Event) : (c.emit e).st = c.st := rfl
@[simp] theorem emit_divisors (c : CallState) (e : Event) : (c.emit e).divisors = c.divisors := rfl
@[simp] theorem emit_out (c : CallState) (e : Event) : (c.emit e).out = c.out ++ [e] := rfl
@[simp] theorem emit_lifted (c : CallState) (e : Event) : (c.emit e).lifted = c.lifted := rfl
@[simp] theorem divide_st (c : CallState) (d : Int) : (c.divide d).st = c.st := rfl
@[simp] theorem divide_divisors (c : CallState) (d : Int) : (c.divide d).divisors = c.divisors ++ [d] := rfl
@[simp] theorem divide_out (c : CallState) (d : Int) : (c.divide d).out = c.out := rfl
@[simp] theorem divide_lifted (c : CallState) (d : Int) : (c.divide d).lifted = c.lifted := rfl
@[simp] theorem setMode_touchmode (c : CallState) (m : TouchMode) : (c.setMode m).st.touchmode = m := rfl
@[simp] theorem setMode_divisors (c : CallState) (m : TouchMode) : (c.setMode m).divisors = c.divisors := rfl
@[simp] theorem setMode_out (c : CallState) (m : TouchMode) : (c.setMode m).out = c.out := rfl
@[simp] theorem setMode_lifted (c : CallState) (m : TouchMode) : (c.setMode m).lifted = c.lifted := rfl

end CallState

/-- `SimpleAverage::filter` of a history, newest first, keeping `size` values. -/
def historyFilter {α : Type} (size : Nat) (v : α) (h : List α) : List α := (v :: h).take size

/-- `abs` on `int`. -/
def cAbs (v : Int) : Int := v.natAbs

end AlpsGlidePoint
