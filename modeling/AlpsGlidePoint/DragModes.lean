import AlpsGlidePoint.MultiPacket

/-! # The drag modes

PreDrag, Drag, DragLock and DragNoTouch are the modes of a drag. A sample enters
them only through PreDrag, which the tap resolution sets for a single tap when
`dragging` is on: every other stage keeps a drag mode, moves between drag modes, or
leaves for a mode outside them. So with `dragging` off no sample enters a drag mode,
and a v3, v4 or v5 pad, whose packets never force a drag, never reaches one. The
tap-and-drag test of a v1/v2 packet forces Drag whatever the setting.
-/

namespace AlpsGlidePoint

/-- The modes of a drag. -/
def TouchMode.isDragMode : TouchMode → Bool
  | .preDrag | .drag | .dragLock | .dragNoTouch => true
  | .noTouch | .move | .vScroll | .hScroll | .cScroll | .mTouch => false

/-- A stage enters a drag mode only from one, or with `dragging` on. -/
def DragEntry (cfg : Config) (c c' : CallState) : Prop :=
  c'.st.touchmode.isDragMode = true → c.st.touchmode.isDragMode = true ∨ cfg.dragging = true

namespace DragEntry

variable {cfg : Config} {c c' c'' : CallState}

theorem of_touchmode (h : c'.st.touchmode = c.st.touchmode) : DragEntry cfg c c' := fun hd => .inl (h ▸ hd)

theorem of_not_drag (h : c'.st.touchmode.isDragMode = false) : DragEntry cfg c c' := fun hd =>
  absurd (h.symm.trans hd) Bool.false_ne_true

theorem of_steady {ok : Int → Prop} (h : Steady ok c c') : DragEntry cfg c c' := of_touchmode h.touchmode

theorem trans (h : DragEntry cfg c c') (h' : DragEntry cfg c' c'') : DragEntry cfg c c'' := fun hd =>
  (h' hd).elim h .inr

end DragEntry

section Stages

variable (cfg : Config) (env : Env) (z fingers : Int) (c : CallState)

theorem cancelPreDrag_dragEntry : DragEntry cfg c (cancelPreDrag cfg env c) := by
  rcases cancelPreDrag_spec cfg env c with h | ⟨-, h⟩ <;> rw [h]
  · exact .of_touchmode rfl
  · exact .of_not_drag rfl

theorem motion_dragEntry : DragEntry cfg c (motion cfg env z fingers c) := by
  rcases motion_touchmode cfg env z fingers c with h | h | ⟨h, -⟩
  · exact .of_touchmode h
  · exact .of_not_drag (by rw [h]; rfl)
  · exact .of_not_drag (by rw [h]; rfl)

theorem promoteDrag_dragEntry : DragEntry cfg c (promoteDrag cfg env z c) := by
  unfold promoteDrag; split_ifs with h
  · exact fun _ => .inl (by rw [h.1]; rfl)
  · exact .of_touchmode rfl

theorem promoteDragLock_dragEntry : DragEntry cfg c (promoteDragLock cfg z c) := by
  unfold promoteDragLock; split_ifs with h <;> first
    | exact .of_touchmode rfl
    | exact fun _ => .inl (by rw [h.1]; rfl)

theorem cscrollTriggers_dragEntry (ts : List (Bool × List Int)) :
    DragEntry cfg c (ts.foldl (cscrollTrigger cfg z) c) := by
  induction ts generalizing c with
  | nil => exact .of_touchmode rfl
  | cons t ts ih =>
    refine DragEntry.trans ?_ (ih _)
    unfold cscrollTrigger; split_ifs
    · exact .of_not_drag rfl
    · exact .of_touchmode rfl

/-- The promotions enter no drag mode but Drag from PreDrag and DragLock from
    DragNoTouch. -/
theorem promote_dragEntry : DragEntry cfg c (promote cfg env z fingers c) := by
  have multiTouch (c : CallState) : DragEntry cfg c (promoteMultiTouch cfg z fingers c) := by
    unfold promoteMultiTouch; split_ifs
    · exact .of_not_drag rfl
    · exact .of_touchmode rfl
  have cScroll (c : CallState) : DragEntry cfg c (promoteCScroll cfg z c) := by
    unfold promoteCScroll; split_ifs
    · exact cscrollTriggers_dragEntry cfg z c _
    · exact .of_touchmode rfl
  have vScroll (c : CallState) : DragEntry cfg c (promoteVScroll cfg z c) := by
    unfold promoteVScroll; split_ifs
    · exact .of_not_drag rfl
    · exact .of_touchmode rfl
  have hScroll (c : CallState) : DragEntry cfg c (promoteHScroll cfg z c) := by
    unfold promoteHScroll; split_ifs
    · exact .of_not_drag rfl
    · exact .of_touchmode rfl
  have move (c : CallState) : DragEntry cfg c (promoteMove cfg z c) := by
    unfold promoteMove; split_ifs
    · exact .of_not_drag rfl
    · exact .of_touchmode rfl
  exact (((((promoteDrag_dragEntry cfg env z c).trans (promoteDragLock_dragEntry cfg z _)).trans
    (multiTouch _)).trans (cScroll _)).trans ((vScroll _).trans (hScroll _))).trans (move _)

/-- A lift's tap resolution enters PreDrag only with `dragging` on; its drag release
    moves from Drag or DragLock to DragNoTouch, or ends the drag. -/
theorem tapOrRelease_dragEntry : DragEntry cfg c (tapOrRelease cfg env fingers c) := by
  unfold tapOrRelease; split
  · unfold resolveTap; split
    · exact .of_not_drag rfl
    · exact .of_not_drag rfl
    · split_ifs <;> first
        | exact .of_touchmode rfl
        | exact .of_not_drag rfl
        | exact fun _ => .inr ‹_›
  · unfold releaseDrag; split_ifs with h <;> first
      | exact .of_not_drag rfl
      | exact fun _ => .inl (by rcases h.1 with h | h <;> rw [h] <;> rfl)

theorem fingerLift_dragEntry : DragEntry cfg c (fingerLift cfg env fingers c) :=
  have reset : DragEntry cfg c (resetHistory (momentumStart cfg (liftReset env c))) :=
    .of_touchmode (momentumStart_keeps cfg env fingers (liftReset env c)).1
  (reset.trans (tapOrRelease_dragEntry cfg env fingers _)).trans (.of_touchmode rfl)

theorem fromLift_dragEntry : DragEntry cfg c (fromLift cfg env z fingers c) := by
  have after (c : CallState) : DragEntry cfg c (afterLift cfg env z fingers c) :=
    ((((cancelPreDrag_dragEntry cfg env c).trans (.of_steady (cancelTap_steady cfg z _ (fun _ => False)))).trans
      (motion_dragEntry cfg env z fingers _)).trans
      ((DragEntry.of_steady (captureTap_steady cfg env z fingers _ (fun _ => False))).trans
        (promote_dragEntry cfg env z fingers _))).trans (.of_steady (report_steady cfg z fingers _))
  unfold fromLift; split
  · exact (fingerLift_dragEntry cfg env fingers c).trans (after _)
  · exact after c

/-- A sample enters a drag mode only from one, or with `dragging` on. -/
theorem dispatch_dragEntry (s : TouchState) (xraw yraw : Int) (b : UInt32) :
    (dispatchEventsWithInfo cfg env s xraw yraw z fingers b).st.touchmode.isDragMode = true →
      s.touchmode.isDragMode = true ∨ cfg.dragging = true := by
  obtain ⟨⟨lx, ly, idl, lb, hst⟩, -⟩ := beforeLift_spec cfg env fingers b s xraw yraw
  have hmode : (beforeLift cfg env s xraw yraw fingers b).st.touchmode = s.touchmode := by rw [hst]
  have h : DragEntry cfg (beforeLift cfg env s xraw yraw fingers b)
      (dispatchEventsWithInfo cfg env s xraw yraw z fingers b) := by
    unfold dispatchEventsWithInfo; dsimp only; split
    · exact .of_touchmode rfl
    · exact fromLift_dragEntry cfg env z fingers _
  exact fun hd => (h hd).imp_left (hmode ▸ ·)

end Stages

section Runs

variable {cfg : Config} (hoff : cfg.dragging = false)
include hoff

/-- With `dragging` off, no input but the forced drag enters a drag mode. -/
theorem gestureStep_not_drag {s : TouchState} (hs : s.touchmode.isDragMode = false) :
    ∀ i : GestureInput, i ≠ .forceDrag → (gestureStep cfg s i).touchmode.isDragMode = false
  | .sample env xraw yraw z fingers b, _ => by
    cases h : (gestureStep cfg s (.sample env xraw yraw z fingers b)).touchmode.isDragMode
    · rfl
    · rcases dispatch_dragEntry cfg env z fingers s xraw yraw b h with h' | h' <;> simp_all
  | .trackstick _ _, _ => hs
  | .forceDrag, h => absurd rfl h

theorem foldl_run_not_drag (env : Env) (calls : List PacketCall) (hc : PacketCall.forceDrag ∉ calls)
    {acc : TouchState × List Event} (h : acc.1.touchmode.isDragMode = false) :
    (calls.foldl (PacketCall.run cfg env) acc).1.touchmode.isDragMode = false := by
  induction calls generalizing acc with
  | nil => exact h
  | cons c calls ih =>
    refine ih (fun h' => hc (.tail _ h')) ?_
    cases c with
    | dispatchEventsWithInfo xraw yraw z fingers b =>
      exact gestureStep_not_drag hoff h (.sample env xraw yraw z fingers b) (by simp)
    | trackstick ignoreall lastbuttons => exact h
    | forceDrag => exact absurd (.head _) hc
    | event e => exact h

end Runs

/-- Only a v1/v2 packet forces a drag. -/
theorem processPacket_no_forceDrag (cfg : Config) (pr : Profile) (hv : pr.processPacket ≠ some .processPacketV1V2)
    (md : ModelData) (lastbuttons : UInt32) (f₀ : AlpsFields) (packet : List UInt8) :
    PacketCall.forceDrag ∉ (processPacket cfg pr md lastbuttons f₀ packet).calls := by
  unfold processPacket
  split
  · exact absurd ‹_› hv
  · unfold processPacketV3; split
    · exact (processTrackstickPacketV3_keeps md lastbuttons packet).2.2
    · rcases processTouchpadPacketV3_cases pr md f₀ packet with ⟨-, hr⟩ | ⟨-, t, -, hr | ⟨-, -, hr⟩ | ⟨t', -, hr⟩⟩ <;>
        rw [hr] <;> exact fun h => nomatch h
  · unfold processPacketV4; dsimp only
    split <;> split <;> exact fun h => nomatch h
  · exact fun h => nomatch h

/-- With `dragging` off, a v3, v4 or v5 pad never drags: no run of packets from the
    session start reaches PreDrag, Drag, DragLock or DragNoTouch. -/
theorem dragging_off_never_drags (cfg : Config) (pr : Profile) (hoff : cfg.dragging = false)
    (hv : pr.processPacket ≠ some .processPacketV1V2) {md : ModelData} {d : Driver}
    (h : Driver.Reaches cfg pr ⟨md, TouchState.initial⟩ d) : d.touch.touchmode.isDragMode = false := by
  induction h with
  | refl => rfl
  | step i _ ih => exact foldl_run_not_drag hoff i.env _ (processPacket_no_forceDrag cfg pr hv _ _ _ _) ih

/-- `tapConfig` with `dragging` off. -/
def noDragConfig : Config := { tapConfig with dragging := false }

theorem dragging_off_never_drags_pinnacle :
    noDragConfig.dragging = false ∧ pinnacleProfile.processPacket ≠ some .processPacketV1V2 ∧
    Driver.Reaches noDragConfig pinnacleProfile pinnacleStart
      (pinnacleTap.foldl (fun d i => (d.step noDragConfig pinnacleProfile i).1) pinnacleStart) ∧
    (pinnacleTap.foldl (fun d i => (d.step noDragConfig pinnacleProfile i).1) pinnacleStart).touch.touchmode.isDragMode =
      false :=
  have hreach := (Driver.Reaches.refl : Driver.Reaches noDragConfig pinnacleProfile pinnacleStart _).foldl pinnacleTap
  ⟨rfl, by decide, hreach, dragging_off_never_drags noDragConfig pinnacleProfile rfl (by decide) hreach⟩

end AlpsGlidePoint
