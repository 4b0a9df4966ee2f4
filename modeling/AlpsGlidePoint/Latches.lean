import AlpsGlidePoint.Touch

/-! # The swipe latches

What a run shows of its swipes: the samples that reach the finger-lift step and the
keyboard messages, in order. The eight `inSwipe` latches form a machine of their
own: a lift clears them, and a swipe needs the latches of its direction clear and
sets them. Every trace this machine accepts, from any latches, separates two swipes
toward one direction by a lift or by a swipe the other way, and a four-finger swipe
from a later three-finger swipe the same way by a lift or a four-finger swipe the
other way.
-/

namespace AlpsGlidePoint

/-- What a run shows of the swipe machinery: a sample reaching the finger-lift step,
    or a keyboard message. -/
inductive Obs where
  | lift
  | msg (m : KeyboardMessage)
  deriving DecidableEq, Repr

/-- Between every `x` of the trace and any later `y` stands an observation `sep`
    accepts. -/
def SeparatedBy (x y : Obs) (sep : Obs → Bool) (t : List Obs) : Prop :=
  ∀ u w v, t = u ++ x :: (w ++ y :: v) → ∃ o ∈ w, sep o = true

/-- What releases the three-finger latch toward `d`: a lift, or a swipe of either
    kind the other way. -/
def releases3 (d : Dir) : Obs → Bool
  | .lift => true
  | .msg (.swipe e) => e == d.opposite
  | .msg (.swipe4 e) => e == d.opposite

/-- What releases the four-finger latch toward `d`: a lift, or a four-finger swipe
    the other way. -/
def releases4 (d : Dir) : Obs → Bool
  | .lift => true
  | .msg (.swipe _) => false
  | .msg (.swipe4 e) => e == d.opposite

/-- The latches `inSwipeUp` … `inSwipeRight` and `inSwipe4Up` … `inSwipe4Right`. -/
structure Latches where
  inSwipe : Dir → Bool
  inSwipe4 : Dir → Bool

namespace Latches

/-- The latches after a lift. -/
def cleared : Latches := ⟨fun _ => false, fun _ => false⟩

/-- A swipe fires only with its latches clear: a three-finger swipe needs both
    latches of its direction, a four-finger swipe its own. -/
def allows (l : Latches) : KeyboardMessage → Bool
  | .swipe d => !l.inSwipe d && !l.inSwipe4 d
  | .swipe4 d => !l.inSwipe4 d

/-- A three-finger swipe latches its direction and releases the opposite one; a
    four-finger swipe does the same with the four-finger latches and releases the
    three-finger latch of its own direction. -/
def fire (l : Latches) : KeyboardMessage → Latches
  | .swipe d => ⟨Function.update (Function.update l.inSwipe d true) d.opposite false, l.inSwipe4⟩
  | .swipe4 d => ⟨Function.update l.inSwipe d false,
      Function.update (Function.update l.inSwipe4 d true) d.opposite false⟩

/-- The latch machine runs through a trace from `l` to `l'`, every message allowed
    when it comes. -/
inductive Run : Latches → List Obs → Latches → Prop
  | nil (l : Latches) : Run l [] l
  | lift {l l' : Latches} {t : List Obs} : Run cleared t l' → Run l (.lift :: t) l'
  | msg {l l' : Latches} {m : KeyboardMessage} {t : List Obs} :
      l.allows m = true → Run (l.fire m) t l' → Run l (.msg m :: t) l'

variable {l l' l'' : Latches} {t t' : List Obs}

theorem Run.append (h : Run l t l') (h' : Run l' t' l'') : Run l (t ++ t') l'' := by
  induction h with
  | nil => exact h'
  | lift _ ih => exact .lift (ih h')
  | msg ha _ ih => exact .msg ha (ih h')

/-- A run through `t ++ t'` passes through latches from which `t'` runs. -/
theorem Run.split (h : Run l (t ++ t') l'') : ∃ l', Run l t l' ∧ Run l' t' l'' := by
  induction t generalizing l with
  | nil => exact ⟨l, .nil l, h⟩
  | cons o t ih =>
    cases h with
    | lift h =>
      obtain ⟨l', h1, h2⟩ := ih h
      exact ⟨l', .lift h1, h2⟩
    | msg ha h =>
      obtain ⟨l', h1, h2⟩ := ih h
      exact ⟨l', .msg ha h1, h2⟩

/-- A latch that every message but the releasing ones keeps stays set along a run
    with no releasing observation; a lift always releases. -/
theorem Run.keeps {held : Latches → Prop} {rel : Obs → Bool} (hlift : rel .lift = true)
    (hkeep : ∀ (l : Latches) m, rel (.msg m) = false → held l → held (l.fire m))
    (h : Run l t l') (ht : ∀ o ∈ t, rel o = false) (hl : held l) : held l' := by
  induction h with
  | nil => exact hl
  | lift _ _ => exact absurd (ht _ (List.mem_cons_self _ _)) (by simp [hlift])
  | msg _ _ ih =>
    exact ih (fun o ho => ht o (List.mem_cons_of_mem _ ho)) (hkeep _ _ (ht _ (List.mem_cons_self _ _)) hl)

/-- The separation of a latch: once `mx` sets it, only a releasing observation
    clears it, and `my` needs it clear. -/
theorem Run.separatedBy {held : Latches → Prop} {rel : Obs → Bool} {mx my : KeyboardMessage}
    (hlift : rel .lift = true) (hkeep : ∀ (l : Latches) m, rel (.msg m) = false → held l → held (l.fire m))
    (hx : ∀ l : Latches, held (l.fire mx)) (hy : ∀ l : Latches, held l → l.allows my = false) (h : Run l t l') :
    SeparatedBy (.msg mx) (.msg my) rel t := by
  intro u w v ht
  refine Classical.byContradiction fun hno => ?_
  have hw : ∀ o ∈ w, rel o = false := fun o ho => Bool.eq_false_iff.2 fun hr => hno ⟨o, ho, hr⟩
  obtain ⟨l₁, -, h₁⟩ := (ht ▸ h).split
  cases h₁ with
  | msg _ h₂ =>
    obtain ⟨l₂, hw₂, h₃⟩ := h₂.split
    cases h₃ with
    | msg hallow _ => exact absurd hallow (by rw [hy l₂ (hw₂.keeps hlift hkeep hw (hx l₁))]; decide)

end Latches

theorem Dir.opposite_ne (d : Dir) : d.opposite ≠ d := by cases d <;> decide

theorem Dir.ne_opposite (d : Dir) : d ≠ d.opposite := (Dir.opposite_ne d).symm

/-- A three-finger swipe toward `d` is latched, by either latch of the direction. -/
def Latches.Held3 (d : Dir) (l : Latches) : Prop := l.inSwipe d = true ∨ l.inSwipe4 d = true

/-- A four-finger swipe toward `d` is latched. -/
def Latches.Held4 (d : Dir) (l : Latches) : Prop := l.inSwipe4 d = true

theorem Latches.held3_fire (d : Dir) (l : Latches) (m : KeyboardMessage) (hm : releases3 d (.msg m) = false)
    (h : l.Held3 d) : (l.fire m).Held3 d := by
  cases m with
  | swipe e =>
    by_cases he : e = d
    · subst he; exact .inl (by simp [fire, Function.update, Dir.opposite_ne, Dir.ne_opposite])
    · have : e.opposite ≠ d := by cases e <;> cases d <;> simp_all [releases3, Dir.opposite]
      simpa [Held3, fire, Function.update, Ne.symm he, Ne.symm this] using h
  | swipe4 e =>
    by_cases he : e = d
    · subst he; exact .inr (by simp [fire, Function.update, Dir.opposite_ne, Dir.ne_opposite])
    · have : e.opposite ≠ d := by cases e <;> cases d <;> simp_all [releases3, Dir.opposite]
      simpa [Held3, fire, Function.update, Ne.symm he, Ne.symm this] using h

theorem Latches.held4_fire (d : Dir) (l : Latches) (m : KeyboardMessage) (hm : releases4 d (.msg m) = false)
    (h : l.Held4 d) : (l.fire m).Held4 d := by
  cases m with
  | swipe e => exact h
  | swipe4 e =>
    by_cases he : e = d
    · subst he; simp [Held4, fire, Function.update, Dir.opposite_ne, Dir.ne_opposite]
    · have : e.opposite ≠ d := by cases e <;> cases d <;> simp_all [releases4, Dir.opposite]
      simpa [Held4, fire, Function.update, Ne.symm he, Ne.symm this] using h

/-- Swipes fire once per latch: in every trace the latch machine accepts, two swipes
    toward `d` are separated by a lift or a swipe the other way, two four-finger
    swipes toward `d` by a lift or a four-finger swipe the other way, and so is a
    four-finger swipe from a later three-finger one toward `d`. -/
theorem Latches.Run.swipes_separated {l l' : Latches} {t : List Obs} (h : Run l t l') (d : Dir) :
    SeparatedBy (.msg (.swipe d)) (.msg (.swipe d)) (releases3 d) t ∧
    SeparatedBy (.msg (.swipe4 d)) (.msg (.swipe4 d)) (releases4 d) t ∧
    SeparatedBy (.msg (.swipe4 d)) (.msg (.swipe d)) (releases4 d) t := by
  refine ⟨h.separatedBy rfl (held3_fire d) (fun l => .inl ?_) (fun l hl => ?_),
    h.separatedBy rfl (held4_fire d) (fun l => ?_) (fun l hl => ?_),
    h.separatedBy rfl (held4_fire d) (fun l => ?_) (fun l hl => ?_)⟩
  · simp [fire, Function.update, Dir.opposite_ne, Dir.ne_opposite]
  · rcases hl with hl | hl <;> simp [allows, hl]
  · simp [Held4, fire, Function.update, Dir.opposite_ne, Dir.ne_opposite]
  · simp [allows, show l.inSwipe4 d = true from hl]
  · simp [Held4, fire, Function.update, Dir.opposite_ne, Dir.ne_opposite]
  · simp [allows, show l.inSwipe4 d = true from hl]

end AlpsGlidePoint
