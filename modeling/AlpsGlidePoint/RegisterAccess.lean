import AlpsGlidePoint.InitSequences

/-! # Registers are accessed only in command mode

A register read or write is meaningful only while the pad is in command mode: the
driver must have entered it and not left it since. A trace accesses registers in
command mode when its last mode call before each `readReg` or `writeReg` is
`enterCommandMode`. For every behaviour of the transport, the whole initialisation
(`identify`, then the init sequence of each pad generation with its trackstick
probe and passthrough switches) only makes such accesses.

Three notions compose along the `do` blocks of the routines: a `Quiet` routine
records nothing, a `Safe` one started in command mode accesses registers and stays
there, and a `Guarded` one accesses registers only in command mode from whatever
status it starts in (`GuardedOpen`: from an open status). `enterCommandMode` opens,
after which the register routines are safe, up to the `exitCommandMode` that ends
every path.
-/

namespace AlpsGlidePoint

/-- A register access of a trace. -/
def Call.isRegisterAccess : Call → Bool
  | .readReg _ _ | .writeReg _ => true
  | _ => false

/-- Whether every register access of a trace, from status `o`, is made with command
    mode open. -/
def accessesInMode (o : Bool) : List Call → Bool
  | [] => true
  | .enterCommandMode :: calls => accessesInMode true calls
  | .exitCommandMode :: calls => accessesInMode false calls
  | _ :: calls => o && accessesInMode o calls

theorem accessesInMode_append (o : Bool) (cs ds : List Call) :
    accessesInMode o (cs ++ ds) = (accessesInMode o cs && accessesInMode (commandModeOpen o cs) ds) := by
  induction cs generalizing o with
  | nil => rfl
  | cons c cs ih => cases c <;> simp only [List.cons_append, List.append_eq, accessesInMode, commandModeOpen, ih, Bool.and_assoc]

/-- Every register access of a trace is made with command mode open over the calls
    before it. -/
def AccessesInMode (cs : List Call) : Prop :=
  ∀ i (hi : i < cs.length), cs[i].isRegisterAccess = true → commandModeOpen false (cs.take i) = true

theorem accessesInMode_spec {o : Bool} {cs : List Call} (h : accessesInMode o cs = true) :
    ∀ i (hi : i < cs.length), cs[i].isRegisterAccess = true → commandModeOpen o (cs.take i) = true := by
  induction cs generalizing o with
  | nil => intro i hi; cases hi
  | cons c cs ih =>
      intro i hi hc
      cases i with
      | zero =>
          cases c
          case readReg | writeReg => exact ((Bool.and_eq_true _ _).mp h).1
          all_goals cases hc
      | succ i =>
          rw [List.take_succ_cons]
          have hi' := Nat.lt_of_succ_lt_succ hi
          cases c
          case enterCommandMode => exact @ih true h i hi' hc
          case exitCommandMode => exact @ih false h i hi' hc
          all_goals exact @ih o ((Bool.and_eq_true _ _).mp h).2 i hi' hc

/-- Whether a bus's trace accessed registers only in command mode. -/
def Bus.inMode (b : Bus) : Bool := accessesInMode false b.calls

theorem Bus.inMode_record (b : Bus) (c : Call) :
    (record c b).2.inMode = (b.inMode && accessesInMode b.isOpen [c]) := by
  simp only [Bus.inMode, Bus.isOpen, record_calls, accessesInMode_append]

/-- A routine that records no call. -/
def Quiet {α : Type} (m : PS2 α) : Prop := ∀ b, (m b).2.calls = b.calls

/-- Started in command mode, a routine that accesses registers only there and leaves
    command mode open. -/
def Safe {α : Type} (m : PS2 α) : Prop :=
  ∀ b, b.inMode = true → b.isOpen = true → (m b).2.inMode = true ∧ (m b).2.isOpen = true

/-- From any status, a routine that accesses registers only in command mode. -/
def Guarded {α : Type} (m : PS2 α) : Prop := ∀ b, b.inMode = true → (m b).2.inMode = true

/-- From an open status, a routine that accesses registers only in command mode. -/
def GuardedOpen {α : Type} (m : PS2 α) : Prop :=
  ∀ b, b.inMode = true → b.isOpen = true → (m b).2.inMode = true

section Rules

variable {α β : Type} {m m' : PS2 α} {f : α → PS2 β} {c : Prop} {dec : Decidable c}

theorem Quiet.pure (a : α) : Quiet (Pure.pure a : PS2 α) := fun _ => rfl

theorem Quiet.submit (request : Request) : Quiet (submitRequestAndBlock request) := fun _ => rfl

theorem Quiet.bind (hm : Quiet m) (hf : ∀ a, Quiet (f a)) : Quiet (m >>= f) :=
  fun b => (hf (m b).1 (m b).2).trans (hm b)

theorem Quiet.ite (hm : Quiet m) (hm' : Quiet m') : Quiet (if c then m else m') := by
  split <;> assumption

theorem Quiet.guarded (h : Quiet m) : Guarded m := fun b hb =>
  (congrArg (accessesInMode false) (h b)).trans hb

theorem Quiet.safe (h : Quiet m) : Safe m := fun b hb ho =>
  ⟨(congrArg (accessesInMode false) (h b)).trans hb, (congrArg (commandModeOpen false) (h b)).trans ho⟩

theorem Safe.pure (a : α) : Safe (Pure.pure a : PS2 α) := Quiet.safe (Quiet.pure a)

theorem Safe.access {call : Call} (h : call.isRegisterAccess = true) : Safe (record call) := fun b hb ho => by
  cases call <;>
    simp_all [Bus.inMode_record, Bus.isOpen_record, accessesInMode, commandModeOpen, Call.isRegisterAccess]

theorem Safe.readReg (addr value : Int) : Safe (record (.readReg addr value)) := Safe.access rfl

theorem Safe.writeReg (value : UInt8) : Safe (record (.writeReg value)) := Safe.access rfl

theorem Safe.bind (hm : Safe m) (hf : ∀ a, Safe (f a)) : Safe (m >>= f) := fun b hb ho =>
  have h := hm b hb ho
  hf (m b).1 (m b).2 h.1 h.2

theorem Safe.ite (hm : Safe m) (hm' : Safe m') : Safe (if c then m else m') := by
  split <;> assumption

theorem Guarded.pure (a : α) : Guarded (Pure.pure a : PS2 α) := fun _ hb => hb

theorem Guarded.submit (request : Request) : Guarded (submitRequestAndBlock request) := fun _ hb => hb

theorem Guarded.modeCall {call : Call} (h : call.isRegisterAccess = false) : Guarded (record call) := fun b hb => by
  cases call <;> simp_all [Bus.inMode_record, accessesInMode, Call.isRegisterAccess]

theorem Guarded.bind (hm : Guarded m) (hf : ∀ a, Guarded (f a)) : Guarded (m >>= f) :=
  fun b hb => hf (m b).1 (m b).2 (hm b hb)

theorem Guarded.ite (hm : Guarded m) (hm' : Guarded m') : Guarded (if c then m else m') := by
  split <;> assumption

/-- A routine that leaves command mode open hands an open status to the rest. -/
theorem Guarded.bind_open (hm : Guarded m) (ho : ∀ b, (m b).2.isOpen = true) (hf : ∀ a, GuardedOpen (f a)) :
    Guarded (m >>= f) :=
  fun b hb => hf (m b).1 (m b).2 (hm b hb) (ho b)

theorem GuardedOpen.of_guarded (h : Guarded m) : GuardedOpen m := fun b hb _ => h b hb

theorem GuardedOpen.bind_safe (hm : Safe m) (hf : ∀ a, GuardedOpen (f a)) : GuardedOpen (m >>= f) :=
  fun b hb ho =>
    have h := hm b hb ho
    hf (m b).1 (m b).2 h.1 h.2

theorem GuardedOpen.bind_guarded (hm : GuardedOpen m) (hf : ∀ a, Guarded (f a)) : GuardedOpen (m >>= f) :=
  fun b hb ho => hf (m b).1 (m b).2 (hm b hb ho)

theorem GuardedOpen.ite (hm : GuardedOpen m) (hm' : GuardedOpen m') :
    GuardedOpen (if c then m else m') := by
  split <;> assumption

end Rules

/-! ### The routines -/

theorem repeatCmd_quiet (i a r : UInt8) : Quiet (repeatCmd i a r) :=
  Quiet.bind (Quiet.submit _) fun _ => Quiet.pure _

theorem commandModeSendNibble_quiet (p : Profile) (n : Nat) : Quiet (commandModeSendNibble p n) := by
  unfold commandModeSendNibble
  exact Quiet.ite (Quiet.pure _) (Quiet.bind (Quiet.pure _) fun _ => Quiet.bind (Quiet.submit _) fun _ => Quiet.pure _)

theorem sendNibbles_quiet (p : Profile) (ns : List Nat) : Quiet (sendNibbles p ns) := by
  induction ns with
  | nil => exact Quiet.pure _
  | cons n ns ih =>
      exact Quiet.bind (commandModeSendNibble_quiet p n) fun _ =>
        Quiet.ite (Quiet.pure _) (Quiet.bind (Quiet.pure _) fun _ => ih)

theorem commandModeSetAddr_quiet (p : Profile) (addr : Nat) : Quiet (commandModeSetAddr p addr) :=
  Quiet.bind (Quiet.submit _) fun _ =>
    Quiet.ite (Quiet.pure _) (Quiet.bind (Quiet.pure _) fun _ => sendNibbles_quiet p _)

theorem readRegBody_quiet (p : Profile) (addr : Nat) : Quiet (readRegBody p addr) := by
  unfold readRegBody
  with_reducible repeat' first
    | exact Quiet.pure _
    | exact Quiet.submit _
    | exact commandModeSetAddr_quiet _ _
    | refine Quiet.bind ?_ fun _ => ?_
    | refine Quiet.ite ?_ ?_

theorem enterCommandMode_guarded : Guarded enterCommandMode :=
  Guarded.bind (Guarded.modeCall rfl) fun _ =>
    Guarded.bind (Quiet.guarded (repeatCmd_quiet _ _ _)) fun ⟨_, _⟩ => Guarded.pure _

theorem enterCommandMode_calls (b : Bus) : (enterCommandMode b).2.calls = b.calls ++ [.enterCommandMode] := rfl

theorem enterCommandMode_opens (b : Bus) : (enterCommandMode b).2.isOpen = true := by
  simp only [Bus.isOpen, enterCommandMode_calls, commandModeOpen_append, commandModeOpen]

theorem exitCommandMode_guarded : Guarded exitCommandMode :=
  Guarded.bind (Guarded.modeCall rfl) fun _ => Quiet.guarded (Quiet.bind (Quiet.submit _) fun _ => Quiet.pure _)

theorem initError_guarded : Guarded initError :=
  Guarded.bind exitCommandMode_guarded fun _ => Guarded.pure _

theorem commandModeReadReg_safe (p : Profile) (addr : Nat) : Safe (commandModeReadReg p addr) :=
  Safe.bind (Quiet.safe (readRegBody_quiet p addr)) fun _ => Safe.bind (Safe.readReg _ _) fun _ => Safe.pure _

theorem commandModeWriteReg_safe (p : Profile) (v : UInt8) : Safe (commandModeWriteReg p v) := by
  unfold commandModeWriteReg
  with_reducible repeat' first
    | exact Safe.pure _
    | exact Safe.writeReg _
    | exact Quiet.safe (commandModeSendNibble_quiet _ _)
    | refine Safe.bind ?_ fun _ => ?_
    | refine Safe.ite ?_ ?_

theorem commandModeWriteRegAt_safe (p : Profile) (addr : Nat) (v : UInt8) : Safe (commandModeWriteRegAt p addr v) :=
  Safe.bind (Quiet.safe (commandModeSetAddr_quiet p addr)) fun _ =>
    Safe.ite (Safe.pure _) (Safe.bind (Safe.pure _) fun _ => commandModeWriteReg_safe p v)

theorem commandModeWriteRegs_safe (p : Profile) (ws : List (Nat × UInt8)) : Safe (commandModeWriteRegs p ws) := by
  induction ws with
  | nil => exact Safe.pure _
  | cons w ws ih =>
      exact Safe.bind (commandModeWriteRegAt_safe p _ _) fun _ =>
        Safe.ite (Safe.pure _) (Safe.bind (Safe.pure _) fun _ => ih)

theorem absoluteMode_safe (p : Profile) : Safe (absoluteModeV3 p) ∧ Safe (absoluteModeV4 p) := by
  constructor <;> (first | unfold absoluteModeV3 | unfold absoluteModeV4) <;>
  with_reducible repeat' first
    | exact Safe.pure _
    | exact commandModeReadReg_safe _ _
    | exact commandModeWriteReg_safe _ _
    | refine Safe.bind ?_ fun _ => ?_
    | refine Safe.ite ?_ ?_

/-- The whole initialisation accesses registers only in command mode: `identify`,
    then the init sequence of the pad's generation, with their trackstick probes and
    passthrough switches. -/
theorem deviceSpecificInit_guarded (p : Profile) : Guarded (deviceSpecificInit p) := by
  dsimp only [deviceSpecificInit, identify, runHwInit, hwInitV1V2, hwInitV3, hwInitRushmoreV3, hwInitV4,
    hwInitDolphinV1, probeTrackstickV3, probeTrackstickBody, setupTrackstickV3, setupTrackstickBody,
    passthroughModeV3, passthroughModeV2, v1v2MagicEnable, absoluteModeV1V2, tapMode, getStatus, sendCommands,
    setSampleRateAndResolution, resetMouse]
  with_reducible repeat' first
    | intro _
    | apply Guarded.bind_open enterCommandMode_guarded enterCommandMode_opens
    | apply GuardedOpen.bind_guarded (GuardedOpen.of_guarded exitCommandMode_guarded)
    | apply GuardedOpen.bind_guarded (GuardedOpen.of_guarded initError_guarded)
    | apply GuardedOpen.bind_safe
    | apply Guarded.bind
    | apply GuardedOpen.ite
    | apply Guarded.ite
    | apply Safe.ite
    | apply Guarded.pure
    | apply Guarded.submit
    | apply GuardedOpen.of_guarded (Guarded.pure _)
    | apply Safe.pure
    | apply commandModeReadReg_safe
    | apply commandModeWriteReg_safe
    | apply commandModeWriteRegAt_safe
    | apply commandModeWriteRegs_safe
    | apply (absoluteMode_safe _).1
    | apply (absoluteMode_safe _).2
    | apply enterCommandMode_guarded
    | apply exitCommandMode_guarded
    | apply initError_guarded
    | apply Quiet.guarded (repeatCmd_quiet _ _ _)
    | apply Quiet.guarded (commandModeSendNibble_quiet _ _)
    | split

/-- For every behaviour of the transport, every register read and write of
    `deviceSpecificInit` is made in command mode: the last mode call before it is
    `enterCommandMode`. -/
theorem init_accesses_registers_in_command_mode (p : Profile) (t : Transport) (n : Nat) :
    AccessesInMode (deviceSpecificInit p ⟨t, n, []⟩).2.calls :=
  accessesInMode_spec (deviceSpecificInit_guarded p ⟨t, n, []⟩ rfl)

end AlpsGlidePoint
