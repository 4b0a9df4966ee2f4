import AlpsGlidePoint.Session
import AlpsGlidePoint.Delivery

/-! # The driver behind the framer

The controller receives the byte stream in the interrupt context (`interruptOccurred`)
and drains the ring buffer in the work loop (`packetReady`), which hands each packet
to `process_packet`, that is to the driver. The system is the framer and the driver
together, driven by bytes and `packetReady` runs in any interleaving.

The driver sees the packets the framer hands over and nothing else: a run of the
system is a run of the driver over `dispatched`, and as long as no frame starts like
a bare packet those are the frames the bytes complete, in order and each once. So
what is proved of driver runs holds of the whole controller, and a packet only
reaches the driver when its first byte carries the sync signature.
-/

namespace AlpsGlidePoint

/-- The controller's state: the framer, and the driver behind `process_packet`. -/
structure System where
  framer : Framer
  driver : Driver

/-- What reaches the controller: a byte in the interrupt context, or a run of
    `packetReady` in the work loop, whose `n`-th packet goes to `process_packet` with
    `supply n`: what the rest of the driver hands the gesture machine (the time
    among it) and what the uninitialised local of `processTouchpadPacketV3` holds. -/
inductive SystemEvent where
  | byte (b : UInt8)
  | ready (supply : Nat → Env × AlpsFields)

namespace SystemEvent

/-- The framer's view of an event. -/
def toFramer : SystemEvent → FramerEvent
  | byte b => .byte b
  | ready _ => .ready

/-- Packets that each arrive whole and are drained by a `packetReady` run of their own. -/
def ofPackets : List (List UInt8 × (Nat → Env × AlpsFields)) → List SystemEvent
  | [] => []
  | (packet, supply) :: rest => packet.map byte ++ ready supply :: ofPackets rest

end SystemEvent

/-- The packets of one `packetReady` run, from the `n`-th on, with what the driver
    supplies beside each. -/
def PacketInput.ofSupply (supply : Nat → Env × AlpsFields) : Nat → List (List UInt8) → List PacketInput
  | _, [] => []
  | n, packet :: packets => ⟨(supply n).1, (supply n).2, packet⟩ :: ofSupply supply (n + 1) packets

/-- The driver over a run of packets: the driver after them, and the events emitted. -/
def Driver.run (cfg : Config) (pr : Profile) : Driver → List PacketInput → Driver × List Event
  | d, [] => (d, [])
  | d, i :: is =>
      let r := d.step cfg pr i
      let rest := r.1.run cfg pr is
      (rest.1, r.2 ++ rest.2)

/-- One event through the controller: a byte goes to `interruptOccurred`; a
    `packetReady` run drains the buffer and runs the driver over the packets. -/
def System.step (cfg : Config) (pr : Profile) (sys : System) : SystemEvent → System × List Event
  | .byte b => (⟨(interruptOccurred pr sys.framer b).1, sys.driver⟩, [])
  | .ready supply =>
      let out := packetReady pr sys.framer
      let r := sys.driver.run cfg pr (PacketInput.ofSupply supply 0 out.2)
      (⟨out.1, r.1⟩, r.2)

/-- A run of events through the controller, with the events emitted. -/
def System.run (cfg : Config) (pr : Profile) : System → List SystemEvent → System × List Event
  | sys, [] => (sys, [])
  | sys, e :: events =>
      let r := sys.step cfg pr e
      let rest := r.1.run cfg pr events
      (rest.1, r.2 ++ rest.2)

/-- The packets the driver receives over a run of events, with their supplies. -/
def System.inputs (pr : Profile) : Framer → List SystemEvent → List PacketInput
  | _, [] => []
  | s, .byte b :: events => inputs pr (interruptOccurred pr s b).1 events
  | s, .ready supply :: events =>
      PacketInput.ofSupply supply 0 (packetReady pr s).2 ++ inputs pr (packetReady pr s).1 events

/-! ### Composition -/

@[simp]
theorem PacketInput.ofSupply_packet (supply : Nat → Env × AlpsFields) (packets : List (List UInt8)) :
    ∀ n, (PacketInput.ofSupply supply n packets).map PacketInput.packet = packets := by
  induction packets with
  | nil => exact fun _ => rfl
  | cons packet packets ih => exact fun n => congrArg (packet :: ·) (ih (n + 1))

/-- The driver receives exactly the packets `dispatched` hands over. -/
theorem System.inputs_packet (pr : Profile) (events : List SystemEvent) :
    ∀ s, (System.inputs pr s events).map PacketInput.packet = dispatched pr s (events.map SystemEvent.toFramer) := by
  induction events with
  | nil => exact fun _ => rfl
  | cons e events ih =>
      intro s
      cases e with
      | byte b => exact ih _
      | ready supply =>
          simp only [System.inputs, List.map_append, PacketInput.ofSupply_packet, ih]
          rfl

theorem System.inputs_bytes (pr : Profile) (bs : List UInt8) (events : List SystemEvent) :
    ∀ s, System.inputs pr s (bs.map SystemEvent.byte ++ events) = System.inputs pr (runBytes pr s bs) events := by
  induction bs with
  | nil => exact fun _ => rfl
  | cons b bs ih => exact fun s => ih _

theorem Driver.run_append (cfg : Config) (pr : Profile) (is js : List PacketInput) :
    ∀ d : Driver, d.run cfg pr (is ++ js) =
      (((d.run cfg pr is).1.run cfg pr js).1, (d.run cfg pr is).2 ++ ((d.run cfg pr is).1.run cfg pr js).2) := by
  induction is with
  | nil => exact fun _ => rfl
  | cons i is ih =>
      intro d
      rw [List.cons_append]
      simp only [Driver.run, ih, List.append_assoc]

theorem Driver.run_fst (cfg : Config) (pr : Profile) (is : List PacketInput) :
    ∀ d : Driver, (d.run cfg pr is).1 = is.foldl (fun d i => (d.step cfg pr i).1) d := by
  induction is with
  | nil => exact fun _ => rfl
  | cons i is ih => exact fun d => ih _

/-- The controller runs the framer over the events and the driver over the packets
    the framer hands over, in order. -/
theorem System.run_eq (cfg : Config) (pr : Profile) (events : List SystemEvent) :
    ∀ sys : System, sys.run cfg pr events =
      (⟨runEvents pr sys.framer (events.map SystemEvent.toFramer),
        (sys.driver.run cfg pr (System.inputs pr sys.framer events)).1⟩,
       (sys.driver.run cfg pr (System.inputs pr sys.framer events)).2) := by
  induction events with
  | nil => exact fun _ => rfl
  | cons e events ih =>
      intro sys
      cases e with
      | byte b =>
          simp only [System.run, System.step, ih]
          rfl
      | ready supply =>
          simp only [System.run, System.step, ih, System.inputs, Driver.run_append]
          rfl

/-- Under the profile's packet size, from an idle framer and under any interleaving of
    bytes and `packetReady` runs whose frames none starts like a bare packet, the driver
    runs over the packets the framer hands over and over nothing else: its state is the
    driver's run over them, they are frames the bytes complete, in order and each once,
    and one more `packetReady` hands over every one of them. -/
theorem system_runs_framed_packets (cfg : Config) (pr : Profile) (h3 : 3 < pr.pktsize) (sys : System)
    (h0 : sys.framer.packetByteCount = 0) (he : sys.framer.ringBuffer.headIdx = sys.framer.ringBuffer.tailIdx)
    (events : List SystemEvent)
    (hnb : ∀ f ∈ framesOf pr sys.framer (FramerEvent.bytesOf (events.map SystemEvent.toFramer)),
      isBareStart (f.headD 0) = false) :
    (sys.run cfg pr events).1.driver =
      (System.inputs pr sys.framer events).foldl (fun d i => (d.step cfg pr i).1) sys.driver ∧
    Driver.Reaches cfg pr sys.driver (sys.run cfg pr events).1.driver ∧
    (System.inputs pr sys.framer events).map PacketInput.packet <+:
      framesOf pr sys.framer (FramerEvent.bytesOf (events.map SystemEvent.toFramer)) ∧
    ∀ supply, (System.inputs pr sys.framer (events ++ [.ready supply])).map PacketInput.packet =
      framesOf pr sys.framer (FramerEvent.bytesOf (events.map SystemEvent.toFramer)) := by
  have hs : FramerInv pr sys.framer := .of_count_zero (by omega) h0
  have hdriver : (sys.run cfg pr events).1.driver =
      (System.inputs pr sys.framer events).foldl (fun d i => (d.step cfg pr i).1) sys.driver := by
    rw [System.run_eq, Driver.run_fst]
  obtain ⟨-, rest, heq, -⟩ := dispatched_holds h3 _ hs (RingBuffer.holds_nil he) hnb
  refine ⟨hdriver, by rw [hdriver]; exact Driver.Reaches.refl.foldl _, ?delivered, fun supply => ?drained⟩
  case delivered =>
    rw [System.inputs_packet]
    exact ⟨rest, heq.symm.trans (List.nil_append _)⟩
  case drained =>
    have hmap : (events ++ [SystemEvent.ready supply]).map SystemEvent.toFramer = events.map SystemEvent.toFramer ++ [FramerEvent.ready] :=
      List.map_append _ _ _
    rw [System.inputs_packet, hmap, dispatched_ready h3 _ hs (RingBuffer.holds_nil he) hnb, List.nil_append]

/-! ### Packets that arrive whole -/

/-- A packet the framer completes whole from an empty packet: a sync byte that does
    not start like a bare packet, then continuation bytes other than `0x80` up to the
    packet size. -/
def Profile.WholeFrame (p : Profile) : List UInt8 → Bool
  | [] => false
  | b0 :: rest => p.isSync b0 && !isBareStart b0 && rest.length + 1 == p.pktsize && rest.all (· != 0x80)

theorem Profile.wholeFrame_cons {p : Profile} {b0 : UInt8} {rest : List UInt8} :
    p.WholeFrame (b0 :: rest) = true ↔
      p.isSync b0 = true ∧ isBareStart b0 = false ∧ rest.length + 1 = p.pktsize ∧ ∀ b ∈ rest, b ≠ 0x80 := by
  simp [Profile.WholeFrame, and_assoc]

theorem framesOf_wholeFrame {p : Profile} (h3 : 3 < p.pktsize) {f : List UInt8} (hf : p.WholeFrame f = true)
    {s : Framer} (h0 : s.packetByteCount = 0) :
    framesOf p s f = [f] ∧ (runBytes p s f).packetByteCount = 0 ∧ isBareStart (f.headD 0) = false := by
  cases f with
  | nil => cases hf
  | cons b0 rest =>
      obtain ⟨hsync, hbare, hlen, hno⟩ := Profile.wholeFrame_cons.1 hf
      have hrest : rest ≠ [] := by rintro rfl; simp at hlen; omega
      obtain ⟨hframes, hcount⟩ := framesOf_sync_frame p h0 hsync hbare (by omega) hrest hno
      exact ⟨hframes, hcount, hbare⟩

/-- Bytes append to the queue the buffer holds the frames they complete. -/
theorem runBytes_holds {p : Profile} (h3 : 3 < p.pktsize) (bs : List UInt8) :
    ∀ {s : Framer} {q : List (List UInt8)}, FramerInv p s → s.ringBuffer.Holds p q →
      (∀ f ∈ framesOf p s bs, isBareStart (f.headD 0) = false) →
      (runBytes p s bs).ringBuffer.Holds p (q ++ framesOf p s bs) := by
  induction bs with
  | nil => exact fun _ h _ => by simpa [framesOf] using h
  | cons b bs ih =>
      intro s q hs h hnb
      rw [framesOf_cons, List.forall_mem_append] at hnb
      rw [framesOf_cons, ← List.append_assoc]
      exact ih (interruptOccurred_inv b h3 hs).1 (interruptOccurred_holds h3 b hs h hnb.1) hnb.2

/-- Packets that each arrive whole at an idle framer and are drained by a
    `packetReady` run of their own reach the driver one per run, in order, each with
    the first supply of its run. -/
theorem System.inputs_ofPackets {pr : Profile} (h3 : 3 < pr.pktsize)
    (ps : List (List UInt8 × (Nat → Env × AlpsFields))) (hw : ∀ x ∈ ps, pr.WholeFrame x.1 = true) :
    ∀ {s : Framer}, s.packetByteCount = 0 → s.ringBuffer.headIdx = s.ringBuffer.tailIdx →
      System.inputs pr s (SystemEvent.ofPackets ps) = ps.map fun x => ⟨(x.2 0).1, (x.2 0).2, x.1⟩ := by
  induction ps with
  | nil => exact fun _ _ => rfl
  | cons x ps ih =>
      intro s h0 he
      obtain ⟨f, supply⟩ := x
      obtain ⟨hframes, hcount, hbare⟩ := framesOf_wholeFrame h3 (hw (f, supply) (.head _)) h0
      have hholds := runBytes_holds h3 f (.of_count_zero (by omega) h0) (RingBuffer.holds_nil he)
        (by rw [hframes]; simpa using hbare)
      rw [List.nil_append, hframes] at hholds
      have hnext := @ih (fun x hx => hw x (.tail _ hx)) { runBytes pr s f with
        ringBuffer := { (runBytes pr s f).ringBuffer with tailIdx := (runBytes pr s f).ringBuffer.headIdx } } hcount rfl
      simp only [SystemEvent.ofPackets, System.inputs_bytes, System.inputs, packetReady_holds (by omega) hholds,
        PacketInput.ofSupply, hnext, List.map_cons, List.singleton_append]

/-! ### A Pinnacle stream -/

/-- What the driver supplies beside the `n`-th packet of a run: 50 ms apart, from one
    second into the session. -/
def tapSupply (n : Nat) : Env × AlpsFields := (envAt (1000000000 + 50000000 * n.toUInt64), default)

/-- The two packets of the tap, byte by byte, with a `packetReady` run inside the
    first and one after the second. -/
def pinnacleTapStream : List SystemEvent :=
  [.byte 0x8f, .byte 0x10, .byte 0x08, .ready tapSupply, .byte 0x00, .byte 0x00, .byte 0x30,
   .byte 0x8f, .byte 0x10, .byte 0x08, .byte 0x00, .byte 0x00, .byte 0x00, .ready tapSupply]

/-- The controller of a Pinnacle pad at the session start. -/
def pinnacleSystem : System := ⟨freshFramer, pinnacleStart⟩

theorem system_runs_framed_packets_pinnacle :
    3 < (withPacketSize pinnacleProfile).pktsize ∧ pinnacleSystem.framer.packetByteCount = 0 ∧
    pinnacleSystem.framer.ringBuffer.headIdx = pinnacleSystem.framer.ringBuffer.tailIdx ∧
    (∀ f ∈ framesOf (withPacketSize pinnacleProfile) pinnacleSystem.framer
        (FramerEvent.bytesOf (pinnacleTapStream.map SystemEvent.toFramer)), isBareStart (f.headD 0) = false) ∧
    ((pinnacleSystem.run tapConfig (withPacketSize pinnacleProfile) pinnacleTapStream).1.driver =
      (System.inputs (withPacketSize pinnacleProfile) pinnacleSystem.framer pinnacleTapStream).foldl
        (fun d i => (d.step tapConfig (withPacketSize pinnacleProfile) i).1) pinnacleSystem.driver ∧
    Driver.Reaches tapConfig (withPacketSize pinnacleProfile) pinnacleSystem.driver
      (pinnacleSystem.run tapConfig (withPacketSize pinnacleProfile) pinnacleTapStream).1.driver ∧
    (System.inputs (withPacketSize pinnacleProfile) pinnacleSystem.framer pinnacleTapStream).map PacketInput.packet <+:
      framesOf (withPacketSize pinnacleProfile) pinnacleSystem.framer
        (FramerEvent.bytesOf (pinnacleTapStream.map SystemEvent.toFramer)) ∧
    ∀ supply, (System.inputs (withPacketSize pinnacleProfile) pinnacleSystem.framer
        (pinnacleTapStream ++ [.ready supply])).map PacketInput.packet =
      framesOf (withPacketSize pinnacleProfile) pinnacleSystem.framer
        (FramerEvent.bytesOf (pinnacleTapStream.map SystemEvent.toFramer))) :=
  have hnb : ∀ f ∈ framesOf (withPacketSize pinnacleProfile) pinnacleSystem.framer
      (FramerEvent.bytesOf (pinnacleTapStream.map SystemEvent.toFramer)), isBareStart (f.headD 0) = false := by
    decide
  ⟨by decide, rfl, rfl, hnb,
    system_runs_framed_packets tapConfig _ (by decide) pinnacleSystem rfl rfl pinnacleTapStream hnb⟩

/-- The reports of a Pinnacle pad to `identify`: E6 `00 00 64`, E7 `73 03 0a` and EC
    `88 07 9d`, every exchange complete. -/
def pinnacleReports : Transport := fun n request =>
  { commandsCount := request.length
    inOrOut := fun i => if i < 6 then 0 else
      (([[0x00, 0x00, 0x64], [0x73, 0x03, 0x0a], [0x88, 0x07, 0x9d]] : List (List UInt8)).getD n []).getD
        (i - 6) 0 }

/-- The profile `identify` selects for the Pinnacle pad. -/
def pinnacleIdentified : Profile := (identify initialModelData ⟨pinnacleReports, 0, []⟩).1.2

end AlpsGlidePoint
