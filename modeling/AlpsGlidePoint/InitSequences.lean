import AlpsGlidePoint.Init

/-! # What the init sequences guarantee

Command mode is open after a trace when its last mode call is `enterCommandMode`.
The protocol primitives keep that status, `exitCommandMode` closes it, and every
path of the v3, Rushmore and v4 init sequences ends with an exit followed only by
primitives: so for every behaviour of the transport, the pad is left out of command
mode. The same traces show the one register write of `hwInitV3` that a failed read
still feeds.
-/

namespace AlpsGlidePoint

/-- The command-mode status after a trace, starting from `o`. -/
def commandModeOpen (o : Bool) : List Call → Bool
  | [] => o
  | .enterCommandMode :: calls => commandModeOpen true calls
  | .exitCommandMode :: calls => commandModeOpen false calls
  | _ :: calls => commandModeOpen o calls

theorem commandModeOpen_append (o : Bool) (cs ds : List Call) :
    commandModeOpen o (cs ++ ds) = commandModeOpen (commandModeOpen o cs) ds := by
  induction cs generalizing o with
  | nil => rfl
  | cons c cs ih => cases c <;> exact ih _

/-- A closed trace leaves every `enterCommandMode` with a later `exitCommandMode`. -/
theorem exit_after_enter_of_closed {o : Bool} {cs : List Call} (h : commandModeOpen o cs = false) :
    ∀ i (hi : i < cs.length), cs[i] = .enterCommandMode →
      ∃ j, ∃ hj : j < cs.length, i < j ∧ cs[j] = .exitCommandMode := by
  induction cs generalizing o with
  | nil => intro i hi; simp at hi
  | cons c cs ih =>
      intro i hi hc
      cases i with
      | zero =>
          simp only [List.getElem_cons_zero] at hc
          subst hc
          obtain ⟨j, hj, hlast⟩ := last_exit h
          exact ⟨j + 1, by simpa using hj, by omega, by simpa using hlast⟩
      | succ i =>
          have h' : commandModeOpen (commandModeOpen o [c]) cs = false := by
            rwa [← commandModeOpen_append]
          obtain ⟨j, hj, hij, hjc⟩ := ih h' i (by simpa using hi) (by simpa using hc)
          exact ⟨j + 1, by simpa using hj, by omega, by simpa using hjc⟩
where
  /-- A trace that closes an open status contains an exit. -/
  last_exit {cs : List Call} (h : commandModeOpen true cs = false) :
      ∃ j, ∃ hj : j < cs.length, cs[j] = .exitCommandMode := by
    induction cs with
    | nil => simp [commandModeOpen] at h
    | cons c cs ih =>
        cases c with
        | exitCommandMode => exact ⟨0, by simp, rfl⟩
        | enterCommandMode | readReg | writeReg =>
            obtain ⟨j, hj, hjc⟩ := ih h
            exact ⟨j + 1, by simpa using hj, by simpa using hjc⟩

/-- The status of a bus: open when its trace is. -/
def Bus.isOpen (b : Bus) : Bool := commandModeOpen false b.calls

theorem Bus.isOpen_record (b : Bus) (c : Call) :
    (record c b).2.isOpen = commandModeOpen b.isOpen [c] := by
  simp [Bus.isOpen, commandModeOpen_append]

/-- A routine that leaves the command-mode status as it found it. -/
def Keeps {α : Type} (m : PS2 α) : Prop := ∀ b, (m b).2.isOpen = b.isOpen

/-- A routine that always leaves command mode closed. -/
def Closes {α : Type} (m : PS2 α) : Prop := ∀ b, (m b).2.isOpen = false

namespace Keeps

theorem pure {α : Type} (a : α) : Keeps (Pure.pure a : PS2 α) := fun _ => rfl

theorem submit (request : Request) : Keeps (submitRequestAndBlock request) := fun _ => rfl

theorem readReg (addr value : Int) : Keeps (record (.readReg addr value)) := fun b => by
  simp [Bus.isOpen_record, commandModeOpen]

theorem writeReg (value : UInt8) : Keeps (record (.writeReg value)) := fun b => by
  simp [Bus.isOpen_record, commandModeOpen]

theorem bind {α β : Type} {m : PS2 α} {f : α → PS2 β} (hm : Keeps m) (hf : ∀ a, Keeps (f a)) :
    Keeps (m >>= f) := fun b => (hf (m b).1 (m b).2).trans (hm b)

theorem ite {α : Type} {c : Prop} [Decidable c] {m m' : PS2 α} (hm : Keeps m) (hm' : Keeps m') :
    Keeps (if c then m else m') := by
  split <;> assumption

end Keeps

namespace Closes

theorem bind_right {α β : Type} {m : PS2 α} {f : α → PS2 β} (hf : ∀ a, Closes (f a)) :
    Closes (m >>= f) := fun b => hf (m b).1 (m b).2

theorem bind_left {α β : Type} {m : PS2 α} {f : α → PS2 β} (hm : Closes m) (hf : ∀ a, Keeps (f a)) :
    Closes (m >>= f) := fun b => (hf (m b).1 (m b).2).trans (hm b)

theorem ite {α : Type} {c : Prop} [Decidable c] {m m' : PS2 α} (hm : Closes m) (hm' : Closes m') :
    Closes (if c then m else m') := by
  split <;> assumption

theorem exit : Closes exitCommandMode :=
  bind_left (fun b => by simp [Bus.isOpen_record, commandModeOpen]) fun _ =>
    Keeps.bind (Keeps.submit _) fun _ => Keeps.pure _

end Closes

/-! ### The primitives keep the status -/

theorem repeatCmd_keeps (i a r : UInt8) : Keeps (repeatCmd i a r) :=
  Keeps.bind (Keeps.submit _) fun _ => Keeps.pure _

theorem commandModeSendNibble_keeps (p : Profile) (n : Nat) : Keeps (commandModeSendNibble p n) := by
  unfold commandModeSendNibble
  exact Keeps.ite (Keeps.pure _) (Keeps.bind (Keeps.pure _) fun _ =>
    Keeps.bind (Keeps.submit _) fun _ => Keeps.pure _)

theorem sendNibbles_keeps (p : Profile) (ns : List Nat) : Keeps (sendNibbles p ns) := by
  induction ns with
  | nil => exact Keeps.pure _
  | cons n ns ih =>
      exact Keeps.bind (commandModeSendNibble_keeps p n) fun _ =>
        Keeps.ite (Keeps.pure _) (Keeps.bind (Keeps.pure _) fun _ => ih)

theorem commandModeSetAddr_keeps (p : Profile) (addr : Nat) : Keeps (commandModeSetAddr p addr) :=
  Keeps.bind (Keeps.submit _) fun _ =>
    Keeps.ite (Keeps.pure _) (Keeps.bind (Keeps.pure _) fun _ => sendNibbles_keeps p _)

theorem commandModeReadReg_keeps (p : Profile) (addr : Nat) : Keeps (commandModeReadReg p addr) := by
  refine Keeps.bind ?_ fun v => Keeps.bind (Keeps.readReg _ _) fun _ => Keeps.pure _
  refine Keeps.bind (commandModeSetAddr_keeps p addr) fun _ =>
    Keeps.ite (Keeps.pure _) (Keeps.bind (Keeps.pure _) fun _ => Keeps.bind (Keeps.submit _) fun _ => ?_)
  exact Keeps.ite (Keeps.pure _) (Keeps.bind (Keeps.pure _) fun _ =>
    Keeps.ite (Keeps.pure _) (Keeps.bind (Keeps.pure _) fun _ => Keeps.pure _))

theorem commandModeWriteReg_keeps (p : Profile) (v : UInt8) : Keeps (commandModeWriteReg p v) :=
  Keeps.bind (Keeps.writeReg v) fun _ =>
    Keeps.bind (commandModeSendNibble_keeps p _) fun _ =>
      Keeps.ite (Keeps.pure _) (Keeps.bind (Keeps.pure _) fun _ =>
        Keeps.bind (commandModeSendNibble_keeps p _) fun _ =>
          Keeps.ite (Keeps.pure _) (Keeps.bind (Keeps.pure _) fun _ => Keeps.pure _))

theorem commandModeWriteRegAt_keeps (p : Profile) (addr : Nat) (v : UInt8) :
    Keeps (commandModeWriteRegAt p addr v) :=
  Keeps.bind (commandModeSetAddr_keeps p addr) fun _ =>
    Keeps.ite (Keeps.pure _) (Keeps.bind (Keeps.pure _) fun _ => commandModeWriteReg_keeps p v)

theorem commandModeWriteRegs_keeps (p : Profile) (ws : List (Nat × UInt8)) :
    Keeps (commandModeWriteRegs p ws) := by
  induction ws with
  | nil => exact Keeps.pure _
  | cons w ws ih =>
      exact Keeps.bind (commandModeWriteRegAt_keeps p _ _) fun _ =>
        Keeps.ite (Keeps.pure _) (Keeps.bind (Keeps.pure _) fun _ => ih)

theorem setSampleRateAndResolution_keeps (rate res : UInt8) :
    Keeps (setSampleRateAndResolution rate res) :=
  Keeps.bind (Keeps.submit _) fun _ => Keeps.pure _

theorem initError_closes : Closes initError :=
  Closes.bind_left Closes.exit fun _ => Keeps.pure _

/-! ### The init sequences close command mode -/

/-- Every `enterCommandMode` of a trace is followed by an `exitCommandMode`. -/
def ExitsAfterEnter (cs : List Call) : Prop :=
  ∀ i (hi : i < cs.length), cs[i] = .enterCommandMode →
    ∃ j, ∃ hj : j < cs.length, i < j ∧ cs[j] = .exitCommandMode

/-- For every behaviour of the transport, every run of `hwInitV3`, `hwInitRushmoreV3`
    and `hwInitV4` calls `exitCommandMode` after its last `enterCommandMode`, on the
    success path and on every failure path. -/
theorem hwInit_exits_command_mode (p : Profile) (t : Transport) (n : Nat) :
    ExitsAfterEnter (hwInitV3 p ⟨t, n, []⟩).2.calls ∧
    ExitsAfterEnter (hwInitRushmoreV3 p ⟨t, n, []⟩).2.calls ∧
    ExitsAfterEnter (hwInitV4 p ⟨t, n, []⟩).2.calls := by
  have closes : Closes (hwInitV3 p) ∧ Closes (hwInitRushmoreV3 p) ∧ Closes (hwInitV4 p) := by
    refine ⟨?_, ?_, ?_⟩ <;> (first | unfold hwInitV3 | unfold hwInitRushmoreV3 | unfold hwInitV4) <;>
    with_reducible repeat' first
      | exact Keeps.pure _
      | exact Keeps.submit _
      | exact setSampleRateAndResolution_keeps _ _
      | exact Closes.bind_left initError_closes fun _ => Keeps.pure _
      | refine Closes.bind_left Closes.exit fun _ => ?_
      | refine Closes.ite ?_ ?_
      | refine Closes.bind_right fun _ => ?_
      | refine Keeps.ite ?_ ?_
      | refine Keeps.bind ?_ fun _ => ?_
  exact ⟨exit_after_enter_of_closed (closes.1 _), exit_after_enter_of_closed (closes.2.1 _),
    exit_after_enter_of_closed (closes.2.2 _)⟩

/-! ### A failed read of register 0x0007 still feeds a write

`hwInitV3` logs a failed read of register `0x0007` and goes on: the write after it
sends `toByte (-1) ||| 0x01 = 0xff`, and when every other exchange succeeds the
routine reports success. -/

/-- The `GetInfo` exchanges of `hwInitV3` that read a register on `regSevenLost`,
    with the address each echoes. -/
def echoedAddrs : List (Nat × Nat) :=
  [(14, 0x0004), (22, 0x0006), (38, 0x0144), (46, 0x0159), (54, 0x0163), (67, 0x0162)]

/-- A transport on which every exchange completes except exchanges 6 and 30, the
    `GetInfo` reads of register `0x0008` by the trackstick probe and of register
    `0x0007`, which come back empty. Both `enterCommandMode` reports are `88 07`, and
    every other register read echoes its address and reads 0. -/
def regSevenLost : Transport := fun n request =>
  { commandsCount := if n = 6 ∨ n = 30 then 0 else request.length
    inOrOut := fun i =>
      if n = 0 ∨ n = 8 then [(0 : UInt8), 0, 0, 0, 0x88, 0x07].getD i 0
      else
        let addr := (echoedAddrs.lookup n).getD 0
        [(0 : UInt8), (addr >>> 8).toUInt8, addr.toUInt8].getD i 0 }

/-- On `regSevenLost`, `hwInitV3` reads register `0x0007` as `-1`, writes `0xff` right
    after, and reports success. -/
theorem hwInitV3_writes_failed_read : ∃ b, Runs (hwInitV3 pinnacleProfile) ⟨regSevenLost, 0, []⟩ true b ∧
    b.calls = [.enterCommandMode, .readReg 8 (-1), .exitCommandMode, .enterCommandMode,
      .readReg 4 0, .writeReg 0x06, .readReg 6 0, .writeReg 0x01, .readReg 7 (-1), .writeReg 0xff,
      .readReg 0x144 0, .writeReg 0x04, .readReg 0x159 0, .writeReg 0x03, .readReg 0x163 0,
      .writeReg 0x03, .readReg 0x162 0, .writeReg 0x04, .exitCommandMode] := by
  refine ⟨?b, ?run, ?calls⟩
  case run =>
    repeat' first
      | with_reducible exact Runs.pure _ _
      | with_reducible exact Runs.submit _ _ _ _
      | with_reducible exact Runs.record _ _ _ _
      | with_reducible apply Runs.bind
      | (with_reducible apply Runs.ite_pos); decide
      | (with_reducible apply Runs.ite_neg); decide
      | dsimp only [hwInitV3, probeTrackstickV3, probeTrackstickBody, enterCommandMode,
          exitCommandMode, repeatCmd, commandModeReadReg, readRegBody, commandModeSetAddr,
          sendNibbles, addrNibbles, commandModeSendNibble, commandModeWriteReg,
          commandModeWriteRegAt, absoluteModeV3, setSampleRateAndResolution, initError]
  case calls => decide

end AlpsGlidePoint
