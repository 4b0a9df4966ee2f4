import AlpsGlidePoint.Lift
import Mathlib.Data.List.Chain

/-! # The mode machine

The touch mode is the control state of the gesture machine. Over one sample the
stages of `dispatchEventsWithInfo` move it along the edges of a small graph,
`TouchMode.successors`: the finger-lift step runs only under `z_finger` and the
promotions only over it, so no sample both lifts and touches again, and the mode
switch in between only leaves a scroll mode or takes a held finger from MultiTouch
back to Move.

The drag modes form a ladder in that graph. PreDrag is entered only by a tap, Drag
only from PreDrag, DragNoTouch only from Drag or DragLock, and DragLock only from
DragNoTouch: every edge climbs at most one rung. So a run that starts off the ladder
and reaches DragLock has gone through the whole drag-lock gesture, in order: tap,
touch again, lift, touch again.
-/

namespace AlpsGlidePoint

/-- The modes one sample can lead to from each mode. -/
def TouchMode.successors : TouchMode → List TouchMode
  | .noTouch => [.noTouch, .move, .vScroll, .hScroll, .cScroll, .mTouch]
  | .move => [.noTouch, .move, .mTouch, .preDrag]
  | .vScroll => [.noTouch, .move, .vScroll, .hScroll, .cScroll, .mTouch, .preDrag]
  | .hScroll => [.noTouch, .move, .vScroll, .hScroll, .cScroll, .mTouch, .preDrag]
  | .cScroll => [.noTouch, .cScroll, .mTouch, .preDrag]
  | .mTouch => [.noTouch, .move, .mTouch, .preDrag]
  | .drag => [.noTouch, .mTouch, .drag, .dragNoTouch]
  | .dragLock => [.noTouch, .mTouch, .dragLock, .dragNoTouch]
  | .dragNoTouch => [.mTouch, .dragLock, .dragNoTouch]
  | .preDrag => [.noTouch, .move, .vScroll, .hScroll, .cScroll, .mTouch, .drag, .preDrag]

/-! ### The modes each stage can leave -/

/-- The finger-lift step: a tap ends in NoTouch or PreDrag or keeps the mode, a
    release ends a drag in DragNoTouch or NoTouch. -/
def TouchMode.liftTargets : TouchMode → List TouchMode
  | .drag | .dragLock => [.noTouch, .dragNoTouch]
  | m => [.noTouch, .preDrag, m]

/-- `cancelPreDrag`. -/
def TouchMode.cancelTargets : TouchMode → List TouchMode
  | .preDrag => [.preDrag, .noTouch]
  | m => [m]

/-- The mode switch. -/
def TouchMode.motionTargets : TouchMode → List TouchMode
  | .mTouch => [.mTouch, .move]
  | .vScroll => [.vScroll, .noTouch]
  | .hScroll => [.hScroll, .noTouch]
  | m => [m]

/-- One promotion: to `target`, from the modes `source` accepts. -/
def promoteStep (source : TouchMode → Bool) (target m : TouchMode) : List TouchMode :=
  if source m then [m, target] else [m]

/-- The promotions, in source order. -/
def TouchMode.promoteTargets (m : TouchMode) : List TouchMode :=
  ((((((promoteStep (· == .preDrag) .drag m).flatMap (promoteStep (· == .dragNoTouch) .dragLock)).flatMap
    (promoteStep (· != .mTouch) .mTouch)).flatMap (promoteStep (· == .noTouch) .cScroll)).flatMap
    (promoteStep (fun m => m == .noTouch || m == .hScroll) .vScroll)).flatMap
    (promoteStep (fun m => m == .noTouch || m == .vScroll) .hScroll)).flatMap (promoteStep (· == .noTouch) .move)

theorem self_mem_promoteStep (source : TouchMode → Bool) (target m : TouchMode) : m ∈ promoteStep source target m := by
  unfold promoteStep; split <;> simp

theorem target_mem_promoteStep {source : TouchMode → Bool} {m : TouchMode} (h : source m = true) (target : TouchMode) :
    target ∈ promoteStep source target m := by
  simp [promoteStep, h]

theorem mem_promoteStep {source : TouchMode → Bool} {target m m' : TouchMode}
    (h : m' = m ∨ (source m = true ∧ m' = target)) : m' ∈ promoteStep source target m := by
  rcases h with rfl | ⟨hs, rfl⟩
  · exact self_mem_promoteStep _ _ _
  · exact target_mem_promoteStep hs _

/-- A lift path: the finger-lift step, `cancelPreDrag`, then the mode switch. -/
theorem liftPath_successors (m : TouchMode) (hm : m.isTouchMode = true) : ∀ m₁ ∈ m.liftTargets,
    ∀ m₂ ∈ m₁.cancelTargets, ∀ m₃ ∈ m₂.motionTargets, m₃ ∈ m.successors := by
  cases m <;> first | decide | cases hm

/-- A path without a lift: `cancelPreDrag`, the mode switch, then the promotions. -/
theorem touchPath_successors (m : TouchMode) : ∀ m₁ ∈ m.cancelTargets, ∀ m₂ ∈ m₁.motionTargets,
    ∀ m₃ ∈ m₂.promoteTargets, m₃ ∈ m.successors := by
  cases m <;> decide

theorem self_mem_successors (m : TouchMode) : m ∈ m.successors := by
  cases m <;> decide

theorem self_mem_cancelTargets (m : TouchMode) : m ∈ m.cancelTargets := by
  cases m <;> decide

theorem self_mem_motionTargets (m : TouchMode) : m ∈ m.motionTargets := by
  cases m <;> decide

section Stages

variable (cfg : Config) (env : Env) (z fingers : Int) (c : CallState)

theorem resolveTap_mem : (resolveTap cfg fingers c).st.touchmode ∈ c.st.touchmode.liftTargets := by
  unfold resolveTap
  split
  case h_1 hc | h_2 hc => simp [hc, TouchMode.liftTargets, CallState.setMode]
  case h_3 hdrag hlock =>
    have keep : ∀ m, m = .noTouch ∨ m = .preDrag ∨ m = c.st.touchmode → m ∈ c.st.touchmode.liftTargets := by
      intro m hm
      cases hc : c.st.touchmode <;> simp_all [TouchMode.liftTargets]
    split_ifs <;> apply keep <;> simp [CallState.setMode]

theorem releaseDrag_mem : (releaseDrag cfg c).st.touchmode ∈ c.st.touchmode.liftTargets := by
  unfold releaseDrag
  split
  case isTrue h =>
    have hd : (c.setMode .dragNoTouch).st.touchmode ∈ c.st.touchmode.liftTargets := by
      rcases h.1 with hc | hc <;> simp [hc, TouchMode.liftTargets, CallState.setMode]
    dsimp only; split <;> exact hd
  case isFalse => cases hc : c.st.touchmode <;> simp [TouchMode.liftTargets]

theorem fingerLift_mem : (fingerLift cfg env fingers c).st.touchmode ∈ c.st.touchmode.liftTargets := by
  have hmode := (momentumStart_keeps cfg env fingers (liftReset env c)).1
  have h : (tapOrRelease cfg env fingers (resetHistory (momentumStart cfg (liftReset env c)))).st.touchmode ∈
      (resetHistory (momentumStart cfg (liftReset env c))).st.touchmode.liftTargets := by
    unfold tapOrRelease; split
    · exact resolveTap_mem cfg fingers _
    · exact releaseDrag_mem cfg _
  exact (congrArg TouchMode.liftTargets hmode) ▸ h

theorem cancelPreDrag_mem : (cancelPreDrag cfg env c).st.touchmode ∈ c.st.touchmode.cancelTargets := by
  rcases cancelPreDrag_spec cfg env c with h | ⟨hc, h⟩ <;> rw [h]
  · exact self_mem_cancelTargets _
  · rw [hc]; exact (by decide : TouchMode.noTouch ∈ TouchMode.preDrag.cancelTargets)

theorem motion_mem : (motion cfg env z fingers c).st.touchmode ∈ c.st.touchmode.motionTargets := by
  have keep : ∀ {m}, m = c.st.touchmode → m ∈ c.st.touchmode.motionTargets := by
    rintro _ rfl; exact self_mem_motionTargets _
  unfold motion
  split
  case h_1 | h_2 => exact keep ((moveDelta_steady cfg env fingers _).touchmode.trans (by split <;> rfl))
  case h_3 => exact keep (moveDelta_steady cfg env fingers _).touchmode
  case h_4 hc => rcases (multiTouch_spec cfg env z fingers c).1 with h | ⟨h, -⟩ <;> rw [h, hc] <;> decide
  case h_5 hc =>
    rcases vScrollMotion_cases cfg env z fingers c with h | h
    · rw [h, hc]; exact (by decide : TouchMode.noTouch ∈ TouchMode.vScroll.motionTargets)
    · exact keep h.touchmode
  case h_6 hc =>
    rcases hScrollMotion_cases cfg env z fingers c with h | h
    · rw [h, hc]; exact (by decide : TouchMode.noTouch ∈ TouchMode.hScroll.motionTargets)
    · exact keep h.touchmode
  case h_7 => exact keep (cScrollMotion_steady cfg env c).touchmode
  case h_8 | h_9 => exact keep (preDragButton_steady cfg env _ (fun _ => False)).touchmode
  case h_10 => exact keep rfl

theorem promoteDrag_mem :
    (promoteDrag cfg env z c).st.touchmode ∈ promoteStep (· == .preDrag) .drag c.st.touchmode := by
  unfold promoteDrag; split_ifs with h
  · exact mem_promoteStep (.inr ⟨by simp [h.1], rfl⟩)
  · exact mem_promoteStep (.inl rfl)

theorem promoteDragLock_mem :
    (promoteDragLock cfg z c).st.touchmode ∈ promoteStep (· == .dragNoTouch) .dragLock c.st.touchmode := by
  unfold promoteDragLock; split_ifs with h <;>
    first | exact mem_promoteStep (.inr ⟨by simp [h.1], rfl⟩) | exact mem_promoteStep (.inl rfl)

theorem promoteMultiTouch_mem :
    (promoteMultiTouch cfg z fingers c).st.touchmode ∈ promoteStep (· != .mTouch) .mTouch c.st.touchmode := by
  unfold promoteMultiTouch; split_ifs with h
  · exact mem_promoteStep (.inr ⟨by simp [h.1], rfl⟩)
  · exact mem_promoteStep (.inl rfl)

theorem foldl_cscrollTrigger_mem (ts : List (Bool × List Int)) (c : CallState) :
    (ts.foldl (cscrollTrigger cfg z) c).st.touchmode ∈ promoteStep (· == .noTouch) .cScroll c.st.touchmode := by
  induction ts generalizing c with
  | nil => exact self_mem_promoteStep _ _ _
  | cons t ts ih =>
      have step : cscrollTrigger cfg z c t = c ∨
          (c.st.touchmode = .noTouch ∧ cscrollTrigger cfg z c t = c.setMode .cScroll) := by
        unfold cscrollTrigger; split_ifs with h
        · exact .inr ⟨h.1, rfl⟩
        · exact .inl rfl
      rw [List.foldl_cons]
      rcases step with h | ⟨hn, h⟩ <;> rw [h]
      · exact ih c
      · have hc := ih (c.setMode .cScroll)
        simp only [promoteStep, CallState.setMode, beq_iff_eq, reduceCtorEq, if_false, List.mem_singleton] at hc
        exact mem_promoteStep (.inr ⟨by simp [hn], hc⟩)

theorem promoteCScroll_mem :
    (promoteCScroll cfg z c).st.touchmode ∈ promoteStep (· == .noTouch) .cScroll c.st.touchmode := by
  unfold promoteCScroll; split_ifs
  · exact foldl_cscrollTrigger_mem cfg z _ c
  · exact self_mem_promoteStep _ _ _

theorem promoteVScroll_mem : (promoteVScroll cfg z c).st.touchmode ∈
    promoteStep (fun m => m == .noTouch || m == .hScroll) .vScroll c.st.touchmode := by
  unfold promoteVScroll; split_ifs with h
  · exact mem_promoteStep (.inr ⟨by rcases h.1 with h | h <;> simp [h], rfl⟩)
  · exact mem_promoteStep (.inl rfl)

theorem promoteHScroll_mem : (promoteHScroll cfg z c).st.touchmode ∈
    promoteStep (fun m => m == .noTouch || m == .vScroll) .hScroll c.st.touchmode := by
  unfold promoteHScroll; split_ifs with h
  · exact mem_promoteStep (.inr ⟨by rcases h.1 with h | h <;> simp [h], rfl⟩)
  · exact mem_promoteStep (.inl rfl)

theorem promoteMove_mem :
    (promoteMove cfg z c).st.touchmode ∈ promoteStep (· == .noTouch) .move c.st.touchmode := by
  unfold promoteMove; split_ifs with h
  · exact mem_promoteStep (.inr ⟨by simp [h.1], rfl⟩)
  · exact mem_promoteStep (.inl rfl)

theorem promote_mem : (promote cfg env z fingers c).st.touchmode ∈ c.st.touchmode.promoteTargets :=
  List.mem_flatMap.2 ⟨_, List.mem_flatMap.2 ⟨_, List.mem_flatMap.2 ⟨_, List.mem_flatMap.2 ⟨_,
    List.mem_flatMap.2 ⟨_, List.mem_flatMap.2 ⟨_, promoteDrag_mem cfg env z c, promoteDragLock_mem cfg z _⟩,
      promoteMultiTouch_mem cfg z fingers _⟩, promoteCScroll_mem cfg z _⟩, promoteVScroll_mem cfg z _⟩,
      promoteHScroll_mem cfg z _⟩, promoteMove_mem cfg z _⟩

end Stages

/-- A sample moves the touch mode along an edge of the mode graph. -/
theorem dispatch_mem_successors (cfg : Config) (env : Env) (s : TouchState) (xraw yraw z fingers : Int)
    (b : UInt32) : (dispatchEventsWithInfo cfg env s xraw yraw z fingers b).st.touchmode ∈ s.touchmode.successors := by
  obtain ⟨⟨lx, ly, idl, lb, hst⟩, -, -, -⟩ := beforeLift_spec cfg env fingers b s xraw yraw
  have hmode : (beforeLift cfg env s xraw yraw fingers b).st.touchmode = s.touchmode := by rw [hst]
  unfold dispatchEventsWithInfo fromLift afterLift
  dsimp only
  rw [← hmode]
  split
  · exact self_mem_successors _
  rw [(report_steady cfg z fingers _).touchmode]
  split
  case isTrue hl =>
    rw [promote_of_not_touching cfg env z fingers _ (by omega), (captureTap_steady cfg env z fingers _ (fun _ => False)).touchmode]
    have h3 := motion_mem cfg env z fingers
      (cancelTap cfg z (cancelPreDrag cfg env (fingerLift cfg env fingers (beforeLift cfg env s xraw yraw fingers b))))
    rw [(cancelTap_steady cfg z _ (fun _ => False)).touchmode] at h3
    exact liftPath_successors _ hl.2 _ (fingerLift_mem cfg env fingers _) _ (cancelPreDrag_mem cfg env _) _ h3
  case isFalse =>
    have h2 := motion_mem cfg env z fingers (cancelTap cfg z (cancelPreDrag cfg env (beforeLift cfg env s xraw yraw fingers b)))
    rw [(cancelTap_steady cfg z _ (fun _ => False)).touchmode] at h2
    have h3 := promote_mem cfg env z fingers (captureTap cfg env z fingers
      (motion cfg env z fingers (cancelTap cfg z (cancelPreDrag cfg env (beforeLift cfg env s xraw yraw fingers b)))))
    rw [(captureTap_steady cfg env z fingers _ (fun _ => False)).touchmode] at h3
    exact touchPath_successors _ _ (cancelPreDrag_mem cfg env _) _ h2 _ h3

/-- The inputs of the abstract mode machine: a sample takes an edge of the graph, a
    trackstick packet keeps the mode, and the v1/v2 tap-and-drag test forces Drag. -/
def GestureInput.modeTargets : GestureInput → TouchMode → List TouchMode
  | .sample .., m => m.successors
  | .trackstick .., m => [m]
  | .forceDrag, _ => [.drag]

/-- The gesture machine refines the mode machine: from every state, every input moves
    the touch mode to a mode that input can lead to in the graph. -/
theorem gesture_step_refines_mode_machine (cfg : Config) (s : TouchState) (i : GestureInput) :
    (gestureStep cfg s i).touchmode ∈ i.modeTargets s.touchmode := by
  cases i with
  | sample env xraw yraw z fingers b => exact dispatch_mem_successors cfg env s xraw yraw z fingers b
  | trackstick => exact List.mem_singleton_self _
  | forceDrag => exact List.mem_singleton_self _

/-- The edges of the graph that matter for dragging and scrolling: Drag is entered
    only from PreDrag, DragLock only from DragNoTouch, DragNoTouch only from Drag or
    DragLock, and no edge leads from Move, MultiTouch or a drag mode into a scroll
    mode. -/
theorem TouchMode.successors_edges (m : TouchMode) :
    (TouchMode.drag ∈ m.successors → m = .drag ∨ m = .preDrag) ∧
    (TouchMode.dragLock ∈ m.successors → m = .dragLock ∨ m = .dragNoTouch) ∧
    (TouchMode.dragNoTouch ∈ m.successors → m = .drag ∨ m = .dragLock ∨ m = .dragNoTouch) ∧
    ((m = .move ∨ m = .mTouch ∨ m = .drag ∨ m = .dragLock ∨ m = .dragNoTouch) →
      ∀ m' ∈ m.successors, m' ≠ .vScroll ∧ m' ≠ .hScroll ∧ m' ≠ .cScroll) := by
  cases m <;> decide

/-! ### The drag-lock ladder -/

/-- The rung of a mode on the drag-lock ladder; the modes off the ladder are on rung 0. -/
def TouchMode.dragRung : TouchMode → Nat
  | .preDrag => 1
  | .drag => 2
  | .dragNoTouch => 3
  | .dragLock => 4
  | _ => 0

/-- The mode on each rung of the ladder. -/
def rungMode : Nat → TouchMode
  | 1 => .preDrag
  | 2 => .drag
  | 3 => .dragNoTouch
  | 4 => .dragLock
  | _ => .noTouch

theorem dragRung_le (m : TouchMode) : m.dragRung ≤ 4 := by
  cases m <;> decide

theorem dragRung_rungMode {j : Nat} (h₁ : 1 ≤ j) (h₄ : j ≤ 4) : (rungMode j).dragRung = j := by
  obtain _ | _ | _ | _ | _ | j := j
  all_goals first | rfl | omega

theorem rungMode_dragRung {m : TouchMode} (h : m.dragRung ≠ 0) : rungMode m.dragRung = m := by
  cases m <;> first | rfl | exact absurd rfl h

/-- A step that climbs at most one rung. -/
def Climbs (m m' : TouchMode) : Prop := m'.dragRung ≤ m.dragRung + 1

instance : DecidableRel Climbs := fun m m' => inferInstanceAs (Decidable (m'.dragRung ≤ m.dragRung + 1))

/-- No edge of the graph climbs more than one rung. -/
theorem successors_climb (m : TouchMode) : ∀ m' ∈ m.successors, Climbs m m' := by
  cases m <;> decide

/-- Whether an input is the v1/v2 tap-and-drag test. -/
def GestureInput.forcesDrag : GestureInput → Bool
  | .forceDrag => true
  | _ => false

theorem gestureStep_climbs (cfg : Config) (s : TouchState) (i : GestureInput) (hi : i.forcesDrag = false) :
    Climbs s.touchmode (gestureStep cfg s i).touchmode := by
  cases i with
  | sample env xraw yraw z fingers b => exact successors_climb _ _ (dispatch_mem_successors cfg env s xraw yraw z fingers b)
  | trackstick => exact Nat.le_succ _
  | forceDrag => cases hi

/-- The modes of a run, from its first state to its last. -/
def modesOf (cfg : Config) : TouchState → List GestureInput → List TouchMode
  | s, [] => [s.touchmode]
  | s, i :: is => s.touchmode :: modesOf cfg (gestureStep cfg s i) is

theorem modesOf_head? (cfg : Config) (s : TouchState) (is : List GestureInput) :
    (modesOf cfg s is).head? = some s.touchmode := by
  cases is <;> rfl

/-- Without the tap-and-drag test, a run climbs at most one rung per input. -/
theorem modesOf_climbs (cfg : Config) (s : TouchState) (is : List GestureInput) (h : ∀ i ∈ is, i.forcesDrag = false) :
    (modesOf cfg s is).Chain' Climbs := by
  induction is generalizing s with
  | nil => exact List.chain'_singleton _
  | cons i is ih =>
      refine List.chain'_cons'.2 ⟨?_, ih _ fun j hj => h j (List.mem_cons_of_mem _ hj)⟩
      rw [modesOf_head?]
      rintro _ ⟨⟩
      exact gestureStep_climbs cfg s i (h i (List.mem_cons_self _ _))

/-- A chain that climbs at most one rung per step and gets to rung `j` from below
    stands on rung `j` on the way. -/
theorem exists_rung {j : Nat} {a : TouchMode} {t : List TouchMode} (hc : (a :: t).Chain' Climbs)
    (ha : a.dragRung < j) {x : TouchMode} (hx : x ∈ t) (hj : j ≤ x.dragRung) :
    ∃ t₁ t₂, t = t₁ ++ rungMode j :: t₂ ∧ x ∈ rungMode j :: t₂ ∧ (rungMode j :: t₂).Chain' Climbs := by
  induction t generalizing a with
  | nil => cases hx
  | cons b t ih =>
      have hab : b.dragRung ≤ a.dragRung + 1 := (List.chain'_cons.1 hc).1
      have hbt := (List.chain'_cons.1 hc).2
      by_cases hb : b.dragRung = j
      · have hbm : rungMode j = b := hb ▸ rungMode_dragRung (by omega)
        exact ⟨[], t, by rw [hbm]; rfl, hbm ▸ hx, hbm ▸ hbt⟩
      · have hx' : x ∈ t := (List.mem_cons.1 hx).resolve_left (by rintro rfl; omega)
        obtain ⟨t₁, t₂, rfl, hxt, hct⟩ := ih hbt (by omega) hx'
        exact ⟨b :: t₁, t₂, rfl, hxt, hct⟩

/-- Climbing from rung `r` to rung `r + k` or higher passes rungs `r + 1`, ..., `r + k`
    in order. -/
theorem climb_sublist (k : Nat) : ∀ {a : TouchMode} {t : List TouchMode}, (a :: t).Chain' Climbs →
    ∀ x ∈ t, a.dragRung + k ≤ x.dragRung → ((List.range' (a.dragRung + 1) k).map rungMode).Sublist t := by
  induction k with
  | zero => intros; exact List.nil_sublist _
  | succ k ih =>
      intro a t hc x hx hk
      obtain ⟨t₁, t₂, rfl, hxt, hct⟩ := exists_rung hc (show a.dragRung < a.dragRung + 1 by omega) hx (by omega)
      have hb : (rungMode (a.dragRung + 1)).dragRung = a.dragRung + 1 :=
        dragRung_rungMode (by omega) (by have := dragRung_le x; omega)
      have hrest : ((List.range' (a.dragRung + 1 + 1) k).map rungMode).Sublist t₂ := by
        rcases List.mem_cons.1 hxt with rfl | hx₂
        · obtain rfl : k = 0 := by omega
          exact List.nil_sublist _
        · have := ih hct x hx₂ (by omega)
          rwa [hb] at this
      rw [List.range'_succ, List.map_cons]
      exact (hrest.cons₂ _).trans (List.sublist_append_right t₁ _)

/-- Without the v1/v2 tap-and-drag test, DragLock is reached only through the whole
    drag-lock gesture: every run that starts off the drag modes and reaches DragLock
    passes PreDrag (a tap), Drag (a renewed touch), DragNoTouch (a lift) and DragLock
    (a renewed touch), in this order. -/
theorem drag_lock_needs_whole_gesture (cfg : Config) (s : TouchState) (is : List GestureInput)
    (hnf : ∀ i ∈ is, i.forcesDrag = false) (hs : s.touchmode.dragRung = 0)
    (hl : TouchMode.dragLock ∈ modesOf cfg s is) :
    [TouchMode.preDrag, .drag, .dragNoTouch, .dragLock].Sublist (modesOf cfg s is) := by
  have hc := modesOf_climbs cfg s is hnf
  obtain ⟨t, ht⟩ : ∃ t, modesOf cfg s is = s.touchmode :: t := by cases is <;> exact ⟨_, rfl⟩
  rw [ht] at hc hl ⊢
  have hlt : TouchMode.dragLock ∈ t := (List.mem_cons.1 hl).resolve_left fun h => by rw [← h] at hs; cases hs
  have := climb_sublist 4 hc .dragLock hlt (by rw [hs]; rfl)
  rw [hs] at this
  exact this.cons _

/-- Dragging and the drag lock on, the rest as in `tapConfig`. -/
def dragLockConfig : Config := { tapConfig with dragging := true, draglock := true }

/-- Touch, lift within the tap time, touch again, hold past it and lift, touch again. -/
def dragLockGesture : List GestureInput :=
  [.sample (envAt 1000000000) 1000 1000 60 1 0, .sample (envAt 1050000000) 1000 1000 0 0 0,
   .sample (envAt 1100000000) 1000 1000 60 1 0, .sample (envAt 1500000000) 1000 1000 0 0 0,
   .sample (envAt 1600000000) 1000 1000 60 1 0]

theorem drag_lock_needs_whole_gesture_run :
    (∀ i ∈ dragLockGesture, i.forcesDrag = false) ∧ TouchState.initial.touchmode.dragRung = 0 ∧
      TouchMode.dragLock ∈ modesOf dragLockConfig TouchState.initial dragLockGesture ∧
      [TouchMode.preDrag, .drag, .dragNoTouch, .dragLock].Sublist
        (modesOf dragLockConfig TouchState.initial dragLockGesture) :=
  have hnf : ∀ i ∈ dragLockGesture, i.forcesDrag = false := by decide
  have hl : TouchMode.dragLock ∈ modesOf dragLockConfig TouchState.initial dragLockGesture := by decide
  ⟨hnf, rfl, hl, drag_lock_needs_whole_gesture dragLockConfig TouchState.initial dragLockGesture hnf rfl hl⟩

end AlpsGlidePoint
