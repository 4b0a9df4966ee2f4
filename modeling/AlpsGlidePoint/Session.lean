import AlpsGlidePoint.Packets
import AlpsGlidePoint.Divisors

/-! # The driver over a run of packets

The driver keeps `modelData` and the gesture machine's touch state between packets,
and runs the calls each packet makes through the gesture machine. Every touch state
a run of packets reaches from the session start is one the gesture machine reaches,
so what is proved of reachable touch states holds of the driver: no sample of any
run divides by zero.
-/

namespace AlpsGlidePoint

/-- The driver between packets: `modelData` and the gesture machine's touch state. -/
structure Driver where
  model : ModelData
  touch : TouchState

/-- A packet as `process_packet` gets it: its bytes, what the uninitialised local of
    `processTouchpadPacketV3` holds, and what the rest of the driver supplies to the
    gesture machine. -/
structure PacketInput where
  env : Env
  fInit : AlpsFields
  packet : List UInt8

/-- A call's effect on the touch state, and the events it emits. -/
def PacketCall.run (cfg : Config) (env : Env) (acc : TouchState × List Event) : PacketCall → TouchState × List Event
  | .dispatchEventsWithInfo xraw yraw z fingers buttonsraw =>
    let c := AlpsGlidePoint.dispatchEventsWithInfo cfg env acc.1 xraw yraw z fingers buttonsraw
    (c.st, acc.2 ++ c.out)
  | .trackstick ignoreall lastbuttons => (gestureStep cfg acc.1 (.trackstick ignoreall lastbuttons), acc.2)
  | .forceDrag => (gestureStep cfg acc.1 .forceDrag, acc.2)
  | .event e => (acc.1, acc.2 ++ [e])

/-- One packet through the driver: the driver after it, and the events emitted. -/
def Driver.step (cfg : Config) (pr : Profile) (d : Driver) (i : PacketInput) : Driver × List Event :=
  let r := processPacket cfg pr d.model d.touch.lastbuttons i.fInit i.packet
  let acc := r.calls.foldl (PacketCall.run cfg i.env) (d.touch, [])
  (⟨r.model, acc.1⟩, acc.2)

/-- The driver states a run of packets reaches from `d`. -/
inductive Driver.Reaches (cfg : Config) (pr : Profile) (d : Driver) : Driver → Prop
  | refl : Driver.Reaches cfg pr d d
  | step {d' : Driver} (i : PacketInput) : Driver.Reaches cfg pr d d' →
      Driver.Reaches cfg pr d (d'.step cfg pr i).1

/-! ### A Pinnacle session -/

/-- The session start of a Pinnacle pad, with `modelData` zeroed. -/
def pinnacleStart : Driver := ⟨⟨0, .zero, 0, false, false, 0⟩, TouchState.initial⟩

/-- A Pinnacle position packet at `(256, 128)`, pressure 48, with `first_mp` set. -/
def heldPosition : List UInt8 := [0x8f, 0x10, 0x08, 0x00, 0x40, 0x30]

/-- A Pinnacle bitmap packet for two fingers, with x bitmap `0x30` and y bitmap `0x04`. -/
def twoFingerBitmap : List UInt8 := [0xcf, 0x0c, 0x02, 0x00, 0x00, 0x01]

/-- The driver after the held position packet, from the session start. -/
def pinnacleHeld : Driver := (pinnacleStart.step tapConfig pinnacleProfile ⟨envAt 0, default, heldPosition⟩).1

/-- A tap on a Pinnacle pad: a touch at `(256, 128)` with pressure 48 one second into
    the session, and the lift 50 ms later. -/
def pinnacleTap : List PacketInput :=
  [⟨envAt 1000000000, default, [0x8f, 0x10, 0x08, 0x00, 0x00, 0x30]⟩,
   ⟨envAt 1050000000, default, [0x8f, 0x10, 0x08, 0x00, 0x00, 0x00]⟩]

section Runs

variable {cfg : Config} {pr : Profile} {d d' : Driver}

/-- An invariant of `modelData` that every packet keeps holds along every run. -/
theorem Driver.Reaches.model_invariant {P : ModelData → Prop}
    (hstep : ∀ md lb f₀ packet, P md → P (processPacket cfg pr md lb f₀ packet).model)
    (h : Driver.Reaches cfg pr d d') (h0 : P d.model) : P d'.model := by
  induction h with
  | refl => exact h0
  | step i _ ih => exact hstep _ _ _ _ ih

/-- A run of packets from a state the driver reaches is a run of the driver. -/
theorem Driver.Reaches.foldl (h : Driver.Reaches cfg pr d d') (is : List PacketInput) :
    Driver.Reaches cfg pr d (is.foldl (fun d i => (d.step cfg pr i).1) d') := by
  induction is generalizing d' with
  | nil => exact h
  | cons i is ih => exact ih (.step i h)

theorem PacketCall.run_reachable (env : Env) {acc : TouchState × List Event} (h : Reachable cfg acc.1)
    (c : PacketCall) : Reachable cfg (c.run cfg env acc).1 := by
  cases c with
  | dispatchEventsWithInfo xraw yraw z fingers b => exact .step (.sample env xraw yraw z fingers b) h
  | trackstick ignoreall lastbuttons => exact .step (.trackstick ignoreall lastbuttons) h
  | forceDrag => exact .step .forceDrag h
  | event e => exact h

theorem foldl_run_reachable (env : Env) (calls : List PacketCall) {acc : TouchState × List Event}
    (h : Reachable cfg acc.1) : Reachable cfg (calls.foldl (PacketCall.run cfg env) acc).1 := by
  induction calls generalizing acc with
  | nil => exact h
  | cons c calls ih => exact ih (PacketCall.run_reachable env h c)

/-- Every touch state a run of packets reaches is one the gesture machine reaches:
    what is proved of reachable touch states holds of the driver. -/
theorem Driver.Reaches.reachable (h : Driver.Reaches cfg pr d d') (h0 : Reachable cfg d.touch) :
    Reachable cfg d'.touch := by
  induction h with
  | refl => exact h0
  | step i _ ih => exact foldl_run_reachable i.env _ ih

end Runs

/-- No sample of any run of packets from the session start divides by zero: whatever
    calls of a packet come before a sample, every divisor it uses is nonzero. -/
theorem packet_run_divides_by_nonzero (cfg : Config) (pr : Profile) (hp : cfg.DivisorsPositive) {md : ModelData}
    {d : Driver} (h : Driver.Reaches cfg pr ⟨md, TouchState.initial⟩ d) (env : Env) (pre : List PacketCall)
    (xraw yraw z fingers : Int) (b : UInt32) :
    ∀ q ∈ (dispatchEventsWithInfo cfg env (pre.foldl (PacketCall.run cfg env) (d.touch, [])).1
      xraw yraw z fingers b).divisors, q ≠ 0 :=
  have hs := foldl_run_reachable env pre (h.reachable .init)
  (dispatch_divisionSafe cfg env z fingers hp _ xraw yraw b (reachable_scrollDivisorSet hp hs)).2

theorem packet_run_divides_by_nonzero_pinnacle :
    tapConfig.DivisorsPositive ∧
    Driver.Reaches tapConfig pinnacleProfile pinnacleStart (pinnacleTap.foldl (fun d i => (d.step tapConfig pinnacleProfile i).1) pinnacleStart) ∧
    ∀ q ∈ (dispatchEventsWithInfo tapConfig (envAt 1100000000)
      (List.foldl (PacketCall.run tapConfig (envAt 1100000000))
        ((pinnacleTap.foldl (fun d i => (d.step tapConfig pinnacleProfile i).1) pinnacleStart).touch, []) []).1
        768 384 48 1 0).divisors, q ≠ 0 :=
  have hp : tapConfig.DivisorsPositive := ⟨by decide, by decide, by decide, by decide⟩
  have hreach := (Driver.Reaches.refl : Driver.Reaches tapConfig pinnacleProfile pinnacleStart _).foldl pinnacleTap
  ⟨hp, hreach, packet_run_divides_by_nonzero tapConfig pinnacleProfile hp hreach (envAt 1100000000) [] 768 384 48 1 0⟩

end AlpsGlidePoint
