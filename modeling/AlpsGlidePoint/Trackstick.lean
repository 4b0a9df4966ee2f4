import AlpsGlidePoint.System

/-! # Trackstick packets

A v3 trackstick packet, one whose last byte is `0x3f`, reports its motion and buttons
to the system directly and writes the driver's `ignoreall` and `lastbuttons`. A packet
without bit 6 of byte 0, or the end-of-stream packet with bytes 1 to 3 at `0x7f`,
returns before either write and leaves the gesture machine as it was. A trackstick
packet starts with `0xcf`, which has bit 6 set and the sync signature of every v3 or
v5 profile `identify` selects, so the framer hands it whole to the driver. Two
consequences follow. A packet with no buttons reports `lastbuttons`, which the last
packet with a button set wrote: after a press and a release on the trackstick alone,
the release still reports the button down. And the end-of-stream packet leaves
`ignoreall` as the last moving packet set it, so every touchpad sample after it is
discarded until the trackstick reports again.
-/

namespace AlpsGlidePoint

/-- A trackstick packet with the left button down and no motion. -/
def trackstickLeft : List UInt8 := [0xcf, 0x00, 0x00, 0x01, 0x00, 0x3f]

/-- A trackstick packet with no button and no motion. -/
def trackstickIdle : List UInt8 := [0xcf, 0x00, 0x00, 0x00, 0x00, 0x3f]

/-- A trackstick packet moving 5 to the right. -/
def trackstickMove : List UInt8 := [0xcf, 0x05, 0x00, 0x00, 0x00, 0x3f]

/-- The end-of-stream trackstick packet. -/
def trackstickEnd : List UInt8 := [0xcf, 0x7f, 0x7f, 0x7f, 0x00, 0x3f]

section Packets

variable (cfg : Config) (pr : Profile) (hv : pr.processPacket = some .processPacketV3)
include hv

/-- A v3 or v5 pad hands a packet ending in `0x3f` to `processTrackstickPacketV3`. -/
theorem processPacket_trackstick (md : ModelData) (lb : UInt32) (f₀ : AlpsFields) {packet : List UInt8}
    (h5 : pb packet 5 = 0x3f) :
    processPacket cfg pr md lb f₀ packet = processTrackstickPacketV3 md lb packet := by
  unfold processPacket; rw [hv, processPacketV3, if_pos h5]

/-- The end-of-stream packet leaves the gesture machine, `ignoreall` included, and
    emits nothing. -/
theorem Driver.step_trackstickEnd (d : Driver) (env : Env) (f₀ : AlpsFields) :
    (d.step cfg pr ⟨env, f₀, trackstickEnd⟩).1.touch = d.touch ∧ (d.step cfg pr ⟨env, f₀, trackstickEnd⟩).2 = [] := by
  have hend : processTrackstickPacketV3 d.model d.touch.lastbuttons trackstickEnd = .done d.model := rfl
  unfold Driver.step
  rw [processPacket_trackstick cfg pr hv _ _ _ (show pb trackstickEnd 5 = 0x3f from rfl), hend]
  exact ⟨rfl, rfl⟩

end Packets

/-- A sample with `ignoreall` set returns at its test: the stages after the finger
    count and input smoothing never run, and nothing is emitted. -/
theorem dispatch_ignored (cfg : Config) (env : Env) {s : TouchState} (h : s.ignoreall = true)
    (xraw yraw z fingers : Int) (b : UInt32) :
    dispatchEventsWithInfo cfg env s xraw yraw z fingers b = beforeLift cfg env s xraw yraw fingers b ∧
    (dispatchEventsWithInfo cfg env s xraw yraw z fingers b).out = [] := by
  obtain ⟨⟨lx, ly, idl, lb, hst⟩, hout, -⟩ := beforeLift_spec cfg env fingers b s xraw yraw
  have hign : (beforeLift cfg env s xraw yraw fingers b).st.ignoreall = true := by rw [hst]; exact h
  have heq : dispatchEventsWithInfo cfg env s xraw yraw z fingers b = beforeLift cfg env s xraw yraw fingers b := by
    unfold dispatchEventsWithInfo; dsimp only; rw [hign, Bool.or_true, if_pos rfl]
  exact ⟨heq, heq ▸ hout⟩

/-! ### Through the framer -/

/-- Under a profile that syncs on `0xcf` with six-byte packets, the trackstick packets
    arrive whole. -/
theorem trackstick_wholeFrame {pr : Profile} (hs : pr.isSync 0xcf = true) (hpk : pr.pktsize = 6) :
    pr.WholeFrame trackstickLeft = true ∧ pr.WholeFrame trackstickIdle = true ∧
    pr.WholeFrame trackstickMove = true ∧ pr.WholeFrame trackstickEnd = true := by
  have hb : isBareStart 0xcf = false := by decide
  refine ⟨?_, ?_, ?_, ?_⟩ <;> exact Profile.wholeFrame_cons.2 ⟨hs, hb, by rw [hpk]; rfl, by decide⟩

/-- Every v3 or v5 pad `identify` selects syncs on `0xcf` and, with the packet size
    `deviceSpecificInit` gives it, reads six-byte packets. -/
theorem identify_v3_frames {p q : Profile} {b : Bus} (hid : (identify p b).1 = (.success, q))
    (hv : q.processPacket = some .processPacketV3) :
    (withPacketSize q).isSync 0xcf = true ∧ (withPacketSize q).pktsize = 6 := by
  have hq := identify_v3_sync p b
  rw [hid] at hq
  obtain ⟨hsync, hv4⟩ := hq rfl hv
  exact ⟨hsync, if_neg hv4⟩

/-- On any pad `identify` selects as a v3 or v5 pad, from an idle framer and any
    driver state, a trackstick press of the left button and the release that follows,
    each drained by a `packetReady` run of its own, reach the driver whole, and both
    are reported with the button down: the release reports `lastbuttons`, which the
    press wrote, and no touchpad sample came between them. -/
theorem trackstick_release_reports_button (cfg : Config) {p q : Profile} {b : Bus}
    (hid : (identify p b).1 = (.success, q)) (hv : q.processPacket = some .processPacketV3) (sys : System)
    (h0 : sys.framer.packetByteCount = 0) (he : sys.framer.ringBuffer.headIdx = sys.framer.ringBuffer.tailIdx)
    (s₁ s₂ : Nat → Env × AlpsFields) :
    (System.inputs (withPacketSize q) sys.framer
      (SystemEvent.ofPackets [(trackstickLeft, s₁), (trackstickIdle, s₂)])).map PacketInput.packet =
      [trackstickLeft, trackstickIdle] ∧
    (sys.run cfg (withPacketSize q) (SystemEvent.ofPackets [(trackstickLeft, s₁), (trackstickIdle, s₂)])).2 =
      [.dispatchRelativePointerEventX 0 0 1, .dispatchRelativePointerEventX 0 0 1] := by
  obtain ⟨hs, hpk⟩ := identify_v3_frames hid hv
  obtain ⟨hL, hI, -, -⟩ := trackstick_wholeFrame hs hpk
  rw [System.run_eq, System.inputs_ofPackets (by omega) _
    (List.forall_mem_cons.2 ⟨hL, List.forall_mem_cons.2 ⟨hI, fun _ h => absurd h (List.not_mem_nil _)⟩⟩) h0 he]
  refine ⟨rfl, ?_⟩
  simp only [List.map_cons, List.map_nil, Driver.run, Driver.step,
    processPacket_trackstick cfg (withPacketSize q) hv _ _ _ (rfl : pb trackstickLeft 5 = 0x3f),
    processPacket_trackstick cfg (withPacketSize q) hv _ _ _ (rfl : pb trackstickIdle 5 = 0x3f)]
  rfl

theorem trackstick_release_reports_button_pinnacle :
    (identify initialModelData ⟨pinnacleReports, 0, []⟩).1 = (.success, pinnacleIdentified) ∧
    pinnacleIdentified.processPacket = some .processPacketV3 ∧ pinnacleSystem.framer.packetByteCount = 0 ∧
    pinnacleSystem.framer.ringBuffer.headIdx = pinnacleSystem.framer.ringBuffer.tailIdx ∧
    ((System.inputs (withPacketSize pinnacleIdentified) pinnacleSystem.framer
      (SystemEvent.ofPackets [(trackstickLeft, tapSupply), (trackstickIdle, tapSupply)])).map PacketInput.packet =
      [trackstickLeft, trackstickIdle] ∧
    (pinnacleSystem.run tapConfig (withPacketSize pinnacleIdentified)
      (SystemEvent.ofPackets [(trackstickLeft, tapSupply), (trackstickIdle, tapSupply)])).2 =
      [.dispatchRelativePointerEventX 0 0 1, .dispatchRelativePointerEventX 0 0 1]) :=
  have hid : (identify initialModelData ⟨pinnacleReports, 0, []⟩).1 = (.success, pinnacleIdentified) := by decide
  have hv : pinnacleIdentified.processPacket = some .processPacketV3 := by decide
  ⟨hid, hv, rfl, rfl, trackstick_release_reports_button tapConfig hid hv pinnacleSystem rfl rfl tapSupply tapSupply⟩

/-- On any pad `identify` selects as a v3 or v5 pad, from an idle framer and any
    driver state, after a trackstick packet that moves and the end-of-stream packet,
    each drained by a `packetReady` run of its own, both reach the driver whole and
    `ignoreall` is still set: every touchpad sample returns at the `ignoreall` test
    and emits nothing. -/
theorem end_of_stream_keeps_touchpad_ignored (cfg : Config) {p q : Profile} {b : Bus}
    (hid : (identify p b).1 = (.success, q)) (hv : q.processPacket = some .processPacketV3) (sys : System)
    (h0 : sys.framer.packetByteCount = 0) (he : sys.framer.ringBuffer.headIdx = sys.framer.ringBuffer.tailIdx)
    (s₁ s₂ : Nat → Env × AlpsFields) :
    (System.inputs (withPacketSize q) sys.framer
      (SystemEvent.ofPackets [(trackstickMove, s₁), (trackstickEnd, s₂)])).map PacketInput.packet =
      [trackstickMove, trackstickEnd] ∧
    (sys.run cfg (withPacketSize q)
      (SystemEvent.ofPackets [(trackstickMove, s₁), (trackstickEnd, s₂)])).1.driver.touch.ignoreall = true ∧
    ∀ env xraw yraw z fingers b, (dispatchEventsWithInfo cfg env (sys.run cfg (withPacketSize q)
      (SystemEvent.ofPackets [(trackstickMove, s₁), (trackstickEnd, s₂)])).1.driver.touch
        xraw yraw z fingers b).out = [] := by
  obtain ⟨hs, hpk⟩ := identify_v3_frames hid hv
  obtain ⟨-, -, hM, hE⟩ := trackstick_wholeFrame hs hpk
  rw [System.run_eq, System.inputs_ofPackets (by omega) _
    (List.forall_mem_cons.2 ⟨hM, List.forall_mem_cons.2 ⟨hE, fun _ h => absurd h (List.not_mem_nil _)⟩⟩) h0 he]
  have hmove : (sys.driver.step cfg (withPacketSize q) ⟨(s₁ 0).1, (s₁ 0).2, trackstickMove⟩).1.touch.ignoreall =
      true := by
    simp only [Driver.step, processPacket_trackstick cfg (withPacketSize q) hv _ _ _ (rfl : pb trackstickMove 5 = 0x3f)]
    rfl
  have hign : (sys.driver.run cfg (withPacketSize q) [⟨(s₁ 0).1, (s₁ 0).2, trackstickMove⟩,
      ⟨(s₂ 0).1, (s₂ 0).2, trackstickEnd⟩]).1.touch.ignoreall = true := by
    rw [← hmove]
    exact congrArg TouchState.ignoreall (Driver.step_trackstickEnd cfg (withPacketSize q) hv _ _ _).1
  exact ⟨rfl, hign, fun env xraw yraw z fingers b => (dispatch_ignored cfg env hign xraw yraw z fingers b).2⟩

theorem end_of_stream_keeps_touchpad_ignored_pinnacle :
    (identify initialModelData ⟨pinnacleReports, 0, []⟩).1 = (.success, pinnacleIdentified) ∧
    pinnacleIdentified.processPacket = some .processPacketV3 ∧ pinnacleSystem.framer.packetByteCount = 0 ∧
    pinnacleSystem.framer.ringBuffer.headIdx = pinnacleSystem.framer.ringBuffer.tailIdx ∧
    ((System.inputs (withPacketSize pinnacleIdentified) pinnacleSystem.framer
      (SystemEvent.ofPackets [(trackstickMove, tapSupply), (trackstickEnd, tapSupply)])).map PacketInput.packet =
      [trackstickMove, trackstickEnd] ∧
    (pinnacleSystem.run tapConfig (withPacketSize pinnacleIdentified)
      (SystemEvent.ofPackets [(trackstickMove, tapSupply), (trackstickEnd, tapSupply)])).1.driver.touch.ignoreall =
      true ∧
    ∀ env xraw yraw z fingers b, (dispatchEventsWithInfo tapConfig env (pinnacleSystem.run tapConfig
      (withPacketSize pinnacleIdentified)
      (SystemEvent.ofPackets [(trackstickMove, tapSupply), (trackstickEnd, tapSupply)])).1.driver.touch
        xraw yraw z fingers b).out = []) :=
  have hid : (identify initialModelData ⟨pinnacleReports, 0, []⟩).1 = (.success, pinnacleIdentified) := by decide
  have hv : pinnacleIdentified.processPacket = some .processPacketV3 := by decide
  ⟨hid, hv, rfl, rfl, end_of_stream_keeps_touchpad_ignored tapConfig hid hv pinnacleSystem rfl rfl tapSupply tapSupply⟩

/-! ### Only the trackstick writes `ignoreall`

No stage of `dispatchEventsWithInfo` writes `ignoreall`: the touchpad reads it and
leaves it as the last trackstick packet that reached its write set it. Over a run
of packets the touchpad is ignored exactly when that packet moved. -/

/-- `apply_ite` for the field, in the form `simp` rewrites with. -/
theorem ite_st_ignoreall (p : Prop) [Decidable p] (a b : CallState) :
    (if p then a else b).st.ignoreall = if p then a.st.ignoreall else b.st.ignoreall :=
  apply_ite (fun c : CallState => c.st.ignoreall) p a b

section Ignore

variable (cfg : Config) (env : Env) (z fingers : Int) (c : CallState)

theorem resolveTap_ignoreall : (resolveTap cfg fingers c).st.ignoreall = c.st.ignoreall := by
  unfold resolveTap; split <;> simp only [ite_st_ignoreall, CallState.emit_st, CallState.setMode, ite_self]

theorem twoFingerScroll_ignoreall : (twoFingerScroll cfg env z fingers c).st.ignoreall = c.st.ignoreall := by
  have send (c : CallState) : (twoFingerDispatch cfg c).st.ignoreall = c.st.ignoreall := by
    simp only [twoFingerDispatch, CallState.emit_st, CallState.divideIf, ite_st_ignoreall, ite_self]
  have holdX (c : CallState) : (holdSmallDx cfg c).st.ignoreall = c.st.ignoreall := by
    simp only [holdSmallDx, ite_st_ignoreall, ite_self]
  have holdY (c : CallState) : (holdSmallDy cfg c).st.ignoreall = c.st.ignoreall := by
    simp only [holdSmallDy, ite_st_ignoreall, ite_self]
  have record : (recordDy cfg env (twoFingerDeltas cfg c)).st.ignoreall = c.st.ignoreall := rfl
  simp only [twoFingerScroll, send, holdX, holdY, record, ite_st_ignoreall, ite_self]

theorem motion_ignoreall : (motion cfg env z fingers c).st.ignoreall = c.st.ignoreall := by
  have move (c : CallState) : (moveDelta cfg env fingers c).st.ignoreall = c.st.ignoreall := by
    simp only [moveDelta, CallState.divide_st, ite_st_ignoreall, ite_self]
  have multi (c : CallState) : (multiTouch cfg env z fingers c).st.ignoreall = c.st.ignoreall := by
    have reset (s : TouchState) (d : Dir) : (s.resetMoved d).ignoreall = s.ignoreall := by cases d <;> rfl
    have swipe3 (c : CallState) (d : Dir) : (swipe3 c d).st.ignoreall = c.st.ignoreall := reset c.st d
    have swipe4 (c : CallState) (d : Dir) : (swipe4 c d).st.ignoreall = c.st.ignoreall := reset c.st d
    simp only [multiTouch, twoFingerScroll_ignoreall, threeFingerSwipe, fourFingerSwipe, accumulateMoved,
      CallState.setMode, swipe3, swipe4, ite_st_ignoreall, ite_self]
  have scroll (c : CallState) : (vScrollMotion cfg env z fingers c).st.ignoreall = c.st.ignoreall ∧
      (hScrollMotion cfg env z fingers c).st.ignoreall = c.st.ignoreall ∧
      (cScrollMotion cfg env c).st.ignoreall = c.st.ignoreall := by
    simp only [vScrollMotion, hScrollMotion, cScrollMotion, CallState.setMode, CallState.divide_st, CallState.emit_st,
      ite_st_ignoreall, ite_self, and_self]
  have predrag (c : CallState) : (preDragButton cfg env c).st.ignoreall = c.st.ignoreall := by
    simp only [preDragButton, ite_st_ignoreall, ite_self]
  unfold motion; split <;> simp only [move, multi, (scroll _).1, (scroll _).2.1, (scroll _).2.2, predrag,
    ite_st_ignoreall, ite_self]

theorem promote_ignoreall : (promote cfg env z fingers c).st.ignoreall = c.st.ignoreall := by
  have triggers (ts : List (Bool × List Int)) (c : CallState) :
      (ts.foldl (cscrollTrigger cfg z) c).st.ignoreall = c.st.ignoreall := by
    induction ts generalizing c with
    | nil => rfl
    | cons t ts ih => rw [List.foldl_cons, ih]; unfold cscrollTrigger; split_ifs <;> rfl
  have drag (c : CallState) : (promoteDragLock cfg z (promoteDrag cfg env z c)).st.ignoreall = c.st.ignoreall := by
    simp only [promoteDragLock, promoteDrag, CallState.emit_st, CallState.setMode, ite_st_ignoreall, ite_self]
  have multi (c : CallState) : (promoteCScroll cfg z (promoteMultiTouch cfg z fingers c)).st.ignoreall =
      c.st.ignoreall := by
    simp only [promoteCScroll, promoteMultiTouch, triggers, ite_st_ignoreall, ite_self]
  have edges (c : CallState) : (promoteMove cfg z (promoteHScroll cfg z (promoteVScroll cfg z c))).st.ignoreall =
      c.st.ignoreall := by
    simp only [promoteMove, promoteHScroll, promoteVScroll, CallState.setMode, ite_st_ignoreall, ite_self]
  rw [promote, edges, multi, drag]

theorem fingerLift_ignoreall : (fingerLift cfg env fingers c).st.ignoreall = c.st.ignoreall := by
  simp only [fingerLift, clearTaps, tapOrRelease, releaseDrag, resetHistory, momentumStart, liftReset,
    resolveTap_ignoreall, CallState.emit_st, CallState.setMode, ite_st_ignoreall, ite_self]

theorem afterLift_ignoreall : (afterLift cfg env z fingers c).st.ignoreall = c.st.ignoreall := by
  simp only [afterLift, report, captureTap, cancelTap, cancelPreDrag, promote_ignoreall, motion_ignoreall,
    CallState.divide_st, CallState.emit_st, CallState.setMode, ite_st_ignoreall, ite_self]

/-- A touchpad sample leaves `ignoreall` as it found it. -/
theorem dispatchEventsWithInfo_ignoreall (s : TouchState) (xraw yraw : Int) (b : UInt32) :
    (dispatchEventsWithInfo cfg env s xraw yraw z fingers b).st.ignoreall = s.ignoreall := by
  obtain ⟨⟨lx, ly, idl, lb, hst⟩, -⟩ := beforeLift_spec cfg env fingers b s xraw yraw
  have h : (beforeLift cfg env s xraw yraw fingers b).st.ignoreall = s.ignoreall := by rw [hst]
  dsimp only [dispatchEventsWithInfo, fromLift]
  split_ifs <;> simp only [afterLift_ignoreall, fingerLift_ignoreall, h]

end Ignore

/-- The calls of a packet with no trackstick write leave `ignoreall` alone. -/
theorem foldl_run_ignoreall (cfg : Config) (env : Env) (calls : List PacketCall)
    (h : ∀ ign lb, PacketCall.trackstick ign lb ∉ calls) (acc : TouchState × List Event) :
    (calls.foldl (PacketCall.run cfg env) acc).1.ignoreall = acc.1.ignoreall := by
  induction calls generalizing acc with
  | nil => rfl
  | cons call calls ih =>
    rw [List.foldl_cons, ih (fun ign lb hm => h ign lb (List.mem_cons_of_mem _ hm))]
    cases call with
    | dispatchEventsWithInfo => exact dispatchEventsWithInfo_ignoreall cfg env _ _ _ _ _ _
    | trackstick ign lb => exact absurd (List.mem_cons_self _ _) (h ign lb)
    | forceDrag | event => rfl

/-- The motion of a packet that reaches the trackstick's `ignoreall` write, as the
    source computes it: x and y, both cleared when both are at least `0x7f` in
    size. A touchpad packet, a trackstick packet without bit 6 of byte 0 and the
    end-of-stream packet return before the write: `none`. -/
def trackstickMotion (packet : List UInt8) : Option Bool :=
  if pb packet 5 = 0x3f ∧ pb packet 0 &&& 0x40 ≠ 0 ∧ ¬(pb packet 1 = 0x7f ∧ pb packet 2 = 0x7f ∧ pb packet 3 = 0x7f) then
    let x := sInt8 (((pb packet 0 &&& 0x20) <<< 2) ||| (pb packet 1 &&& 0x7f))
    let y := sInt8 (((pb packet 0 &&& 0x10) <<< 3) ||| (pb packet 2 &&& 0x7f))
    some (decide ((x ≠ 0 ∨ y ≠ 0) ∧ ¬(cAbs x ≥ 0x7f ∧ cAbs y ≥ 0x7f)))
  else none

/-- On a v3 or v5 pad, a packet sets `ignoreall` to its trackstick motion, or leaves
    it when it has none. -/
theorem Driver.step_ignoreall (cfg : Config) (pr : Profile) (hv : pr.processPacket = some .processPacketV3)
    (d : Driver) (i : PacketInput) :
    (d.step cfg pr i).1.touch.ignoreall = (trackstickMotion i.packet).getD d.touch.ignoreall := by
  by_cases h5 : pb i.packet 5 = 0x3f
  · have hp := processPacket_trackstick cfg pr hv d.model d.touch.lastbuttons i.fInit h5
    by_cases hf : pb i.packet 0 &&& 0x40 ≠ 0 ∧ ¬(pb i.packet 1 = 0x7f ∧ pb i.packet 2 = 0x7f ∧ pb i.packet 3 = 0x7f)
    case pos =>
      simp only [Driver.step, hp, processTrackstickPacketV3, if_neg hf.1, if_neg hf.2, trackstickMotion,
        if_pos (⟨h5, hf⟩ : pb i.packet 5 = 0x3f ∧ _), Option.getD_some]
      generalize sInt8 (((pb i.packet 0 &&& 0x20) <<< 2) ||| (pb i.packet 1 &&& 0x7f)) = x
      generalize sInt8 (((pb i.packet 0 &&& 0x10) <<< 3) ||| (pb i.packet 2 &&& 0x7f)) = y
      have hneg : cAbs (-y) = cAbs y := by simp [cAbs]
      simp only [List.foldl, PacketCall.run, gestureStep, hneg]
      split_ifs with h
      · simp [h]
      · rw [Bool.eq_iff_iff]; simp [h]
    case neg =>
      have hdone : processTrackstickPacketV3 d.model d.touch.lastbuttons i.packet = .done d.model := by
        unfold processTrackstickPacketV3
        by_cases h0 : pb i.packet 0 &&& 0x40 = 0
        · rw [if_pos h0]
        · rw [if_neg h0, if_pos (not_not.1 fun he => hf ⟨h0, he⟩)]
      have hm : trackstickMotion i.packet = none := if_neg fun h => hf h.2
      simp only [Driver.step, hp, hdone, hm, PacketResult.done, List.foldl, Option.getD_none]
  · have hm : trackstickMotion i.packet = none := if_neg fun h => h5 h.1
    have hp : processPacket cfg pr d.model d.touch.lastbuttons i.fInit i.packet =
        processTouchpadPacketV3 pr d.model i.fInit i.packet := by
      unfold processPacket; rw [hv, processPacketV3, if_neg h5]
    have hcalls : ∀ ign lb, PacketCall.trackstick ign lb ∉ (processTouchpadPacketV3 pr d.model i.fInit i.packet).calls := by
      rcases processTouchpadPacketV3_cases pr d.model i.fInit i.packet with ⟨-, h⟩ | ⟨-, t, -, h | ⟨-, -, h⟩ | ⟨t', -, h⟩⟩ <;>
        simp [h, PacketResult.done]
    simp only [Driver.step, hp, hm, Option.getD_none]
    exact foldl_run_ignoreall cfg i.env _ hcalls _

/-- On a v3 or v5 pad, over any run of packets, the touchpad is ignored exactly when
    the last packet that reached the trackstick's `ignoreall` write moved; with no
    such packet, `ignoreall` is what it was before the run. -/
theorem ignoreall_follows_trackstick (cfg : Config) (pr : Profile) (hv : pr.processPacket = some .processPacketV3)
    (d : Driver) (is : List PacketInput) :
    (is.foldl (fun d i => (d.step cfg pr i).1) d).touch.ignoreall =
      ((is.filterMap fun i => trackstickMotion i.packet).getLast?).getD d.touch.ignoreall := by
  induction is generalizing d with
  | nil => rfl
  | cons i is ih =>
    rw [List.foldl_cons, ih, Driver.step_ignoreall cfg pr hv, List.filterMap_cons]
    cases trackstickMotion i.packet <;> cases h : (is.filterMap fun i => trackstickMotion i.packet).getLast? <;>
      simp [h, List.getLast?_cons]

/-- A moving trackstick packet, then the end-of-stream packet. -/
def moveThenEnd : List PacketInput := [⟨envAt 0, default, trackstickMove⟩, ⟨envAt 0, default, trackstickEnd⟩]

theorem ignoreall_follows_trackstick_end :
    pinnacleProfile.processPacket = some .processPacketV3 ∧
    (moveThenEnd.foldl (fun d i => (d.step tapConfig pinnacleProfile i).1) pinnacleStart).touch.ignoreall =
      ((moveThenEnd.filterMap fun i => trackstickMotion i.packet).getLast?).getD TouchState.initial.ignoreall :=
  ⟨rfl, ignoreall_follows_trackstick tapConfig pinnacleProfile rfl _ _⟩

end AlpsGlidePoint
