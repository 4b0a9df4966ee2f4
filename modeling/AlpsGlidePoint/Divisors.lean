import AlpsGlidePoint.Lift

/-! # No division by zero

Every `/` and `%` of `dispatchEventsWithInfo` divides by an axis resolution, a
pointer divisor, a wheel divisor it has just tested, or the divisor of the scroll
mode it is in. The first two are positive by assumption. A scroll mode is entered
only through a promotion that tests its divisor, and every other change of mode
leaves the scroll modes; so in every reachable state the scroll mode's divisor is
set, and no call from a reachable state divides by zero.
-/

namespace AlpsGlidePoint

/-- The divisors the configuration must give: the axis resolutions and the pointer
    divisors are positive. -/
structure Config.DivisorsPositive (cfg : Config) : Prop where
  xupmm : 0 < cfg.xupmm
  yupmm : 0 < cfg.yupmm
  divisorx : 0 < cfg.divisorx
  divisory : 0 < cfg.divisory

theorem Config.scrollDivisorSet_of_not_touch (cfg : Config) {m : TouchMode} (h : m.isTouchMode = false) :
    cfg.scrollDivisorSet m = true := by
  cases m <;> first | rfl | cases h

/-- A stage that, from a mode whose scroll divisor is set, ends in such a mode and
    adds only non-zero divisors. -/
def DivisionSafe (cfg : Config) (c c' : CallState) : Prop :=
  cfg.scrollDivisorSet c.st.touchmode = true →
    cfg.scrollDivisorSet c'.st.touchmode = true ∧ ∀ d ∈ c'.divisors, d ∈ c.divisors ∨ d ≠ 0

namespace DivisionSafe

variable {cfg : Config} {c c' c'' : CallState}

theorem refl (c : CallState) : DivisionSafe cfg c c := fun hs => ⟨hs, fun _ hd => .inl hd⟩

theorem trans (h : DivisionSafe cfg c c') (h' : DivisionSafe cfg c' c'') : DivisionSafe cfg c c'' := fun hs =>
  let ⟨hs', hd⟩ := h hs
  let ⟨hs'', hd'⟩ := h' hs'
  ⟨hs'', fun d hd'' => (hd' d hd'').elim (hd d) .inr⟩

theorem of_steady {ok : Int → Prop} (h : Steady ok c c') (hok : ∀ d, ok d → d ≠ 0) : DivisionSafe cfg c c' :=
  fun hs => ⟨h.touchmode ▸ hs, fun d hd => (h.divisors d hd).imp_right (hok d)⟩

theorem of_promotes (h : Promotes cfg c c') : DivisionSafe cfg c c' :=
  fun hs => ⟨h.scroll hs, fun d hd => .inl ((h.divisors d hd).resolve_right id)⟩

end DivisionSafe

section Stages

variable (cfg : Config) (env : Env) (z fingers : Int) (c : CallState)

theorem fingerLift_divisionSafe : DivisionSafe cfg c (fingerLift cfg env fingers c) := fun hs => by
  refine ⟨?_, fun d hd => .inl ((fingerLift_spec cfg env fingers c).2.2.2.2 d hd)⟩
  rcases fingerLift_touchmode cfg env fingers c with h | ⟨-, h⟩
  · exact cfg.scrollDivisorSet_of_not_touch h
  · rwa [h]

theorem cancelPreDrag_divisionSafe : DivisionSafe cfg c (cancelPreDrag cfg env c) := by
  rcases cancelPreDrag_spec cfg env c with h | ⟨-, h⟩ <;> rw [h]
  · exact .refl c
  · exact fun _ => ⟨rfl, fun _ hd => .inl hd⟩

variable {cfg} in
/-- Under positive pointer divisors, the pointer divisions are safe. -/
theorem Config.DivisorsPositive.pointer (hp : cfg.DivisorsPositive) (d : Int)
    (hd : d = cfg.divisorx ∨ d = cfg.divisory) : d ≠ 0 := by
  have := hp.divisorx; have := hp.divisory; omega

/-- The mode switch: the move arms divide by the pointer divisors, two-finger
    scrolling by a wheel divisor it tests, and a scroll arm by its mode's divisor. -/
theorem motion_divisionSafe (hp : cfg.DivisorsPositive) : DivisionSafe cfg c (motion cfg env z fingers c) :=
  fun hs => by
  refine ⟨?mode, ?div⟩
  case mode =>
    rcases motion_touchmode cfg env z fingers c with h | h | ⟨h, -⟩ <;> rw [h]
    exacts [hs, rfl, rfl]
  case div =>
    unfold motion; split <;> rename_i hm <;> rw [hm] at hs
    · exact fun d hd => ((moveDelta_steady cfg env fingers _).divisors d hd).imp
        (fun h => by split at h <;> exact h) (hp.pointer d)
    · exact fun d hd => ((moveDelta_steady cfg env fingers _).divisors d hd).imp
        (fun h => by split at h <;> exact h) (hp.pointer d)
    · exact fun d hd => ((moveDelta_steady cfg env fingers c).divisors d hd).imp_right (hp.pointer d)
    · exact (multiTouch_spec cfg env z fingers c).2
    · have hv : cfg.vscrolldivisor ≠ 0 := by simpa [Config.scrollDivisorSet] using hs
      rcases vScrollMotion_cases cfg env z fingers c with h | h
      · rw [h]; exact fun d hd => .inl hd
      · exact fun d hd => (h.divisors d hd).imp_right (by rintro rfl; exact hv)
    · have hh : cfg.hscrolldivisor ≠ 0 := by simpa [Config.scrollDivisorSet] using hs
      rcases hScrollMotion_cases cfg env z fingers c with h | h
      · rw [h]; exact fun d hd => .inl hd
      · exact fun d hd => (h.divisors d hd).imp_right (by rintro rfl; exact hh)
    · have hc : cfg.cscrolldivisor ≠ 0 := by simpa [Config.scrollDivisorSet] using hs
      exact fun d hd => ((cScrollMotion_steady cfg env c).divisors d hd).imp_right (by rintro rfl; exact hc)
    · exact fun d hd => .inl (((preDragButton_steady cfg env _ fun _ => False).divisors d hd).resolve_right id)
    · exact fun d hd => .inl (((preDragButton_steady cfg env c fun _ => False).divisors d hd).resolve_right id)
    · exact fun d hd => .inl hd

/-- The stages after the finger-lift test. -/
theorem afterLift_divisionSafe (hp : cfg.DivisorsPositive) :
    DivisionSafe cfg c (afterLift cfg env z fingers c) :=
  (cancelPreDrag_divisionSafe cfg env c).trans <|
  (DivisionSafe.of_steady (cancelTap_steady cfg z _ fun _ => False) fun _ => False.elim).trans <|
  (motion_divisionSafe cfg env z fingers _ hp).trans <|
  (DivisionSafe.of_steady (captureTap_steady cfg env z fingers _ fun _ => False) fun _ => False.elim).trans <|
  (DivisionSafe.of_promotes (promote_promotes cfg env z fingers _)).trans <|
  DivisionSafe.of_steady (report_steady cfg z fingers _) hp.pointer

/-- One call from a state whose scroll divisor is set: the state after it has its
    scroll divisor set, and every division of the call has a non-zero divisor. -/
theorem dispatch_divisionSafe (hp : cfg.DivisorsPositive) (s : TouchState) (xraw yraw : Int) (b : UInt32)
    (hs : cfg.scrollDivisorSet s.touchmode = true) :
    cfg.scrollDivisorSet (dispatchEventsWithInfo cfg env s xraw yraw z fingers b).st.touchmode = true ∧
    ∀ d ∈ (dispatchEventsWithInfo cfg env s xraw yraw z fingers b).divisors, d ≠ 0 := by
  obtain ⟨⟨lx, ly, idl, lb, hst⟩, -, -, hdiv⟩ := beforeLift_spec cfg env fingers b s xraw yraw
  have h0 : cfg.scrollDivisorSet (beforeLift cfg env s xraw yraw fingers b).st.touchmode = true := by
    rw [hst]; exact hs
  have hd0 : ∀ d ∈ (beforeLift cfg env s xraw yraw fingers b).divisors, d ≠ 0 := by
    have := hp.xupmm; have := hp.yupmm
    rw [hdiv]; intro d hd; split_ifs at hd <;> simp at hd <;> omega
  unfold dispatchEventsWithInfo; dsimp only; split
  · exact ⟨h0, hd0⟩
  · have hlift : DivisionSafe cfg (beforeLift cfg env s xraw yraw fingers b)
        (fromLift cfg env z fingers (beforeLift cfg env s xraw yraw fingers b)) := by
      refine DivisionSafe.trans ?_ (afterLift_divisionSafe cfg env z fingers _ hp)
      split
      · exact fingerLift_divisionSafe cfg env fingers _
      · exact .refl _
    obtain ⟨h1, h2⟩ := hlift h0
    exact ⟨h1, fun d hd => (h2 d hd).elim (hd0 d) id⟩

end Stages

/-- In every reachable state the scroll mode's divisor is set. -/
theorem reachable_scrollDivisorSet {cfg : Config} (hp : cfg.DivisorsPositive) {s : TouchState}
    (hs : Reachable cfg s) : cfg.scrollDivisorSet s.touchmode = true := by
  induction hs with
  | init => rfl
  | step i _ ih =>
    cases i with
    | sample env xraw yraw z fingers b => exact (dispatch_divisionSafe cfg env z fingers hp _ xraw yraw b ih).1
    | trackstick => exact ih
    | forceDrag => rfl

/-- No division by zero: under positive axis resolutions and pointer divisors, no call
    from a reachable state divides by zero, and a reachable state in a scroll mode has
    that mode's divisor set. -/
theorem reachable_dispatch_divides_by_nonzero (cfg : Config) (hp : cfg.DivisorsPositive) {s : TouchState}
    (hs : Reachable cfg s) (env : Env) (xraw yraw z fingers : Int) (b : UInt32) :
    (∀ d ∈ (dispatchEventsWithInfo cfg env s xraw yraw z fingers b).divisors, d ≠ 0) ∧
    (s.touchmode = .vScroll → cfg.vscrolldivisor ≠ 0) ∧ (s.touchmode = .hScroll → cfg.hscrolldivisor ≠ 0) ∧
    (s.touchmode = .cScroll → cfg.cscrolldivisor ≠ 0) := by
  have h := reachable_scrollDivisorSet hp hs
  refine ⟨(dispatch_divisionSafe cfg env z fingers hp s xraw yraw b h).2, ?_, ?_, ?_⟩ <;>
    intro hm <;> simpa [hm, Config.scrollDivisorSet] using h

theorem reachable_dispatch_divides_by_nonzero_twoFinger :
    tapConfig.DivisorsPositive ∧ Reachable tapConfig twoFingerTouch ∧
    ((∀ d ∈ (dispatchEventsWithInfo tapConfig (envAt 2000) twoFingerTouch 3000 2300 60 2 0).divisors, d ≠ 0) ∧
      (twoFingerTouch.touchmode = .vScroll → tapConfig.vscrolldivisor ≠ 0) ∧
      (twoFingerTouch.touchmode = .hScroll → tapConfig.hscrolldivisor ≠ 0) ∧
      (twoFingerTouch.touchmode = .cScroll → tapConfig.cscrolldivisor ≠ 0)) :=
  ⟨⟨by decide, by decide, by decide, by decide⟩, .step _ .init,
    reachable_dispatch_divides_by_nonzero tapConfig ⟨by decide, by decide, by decide, by decide⟩ (.step _ .init)
      (envAt 2000) 3000 2300 60 2 0⟩

end AlpsGlidePoint
