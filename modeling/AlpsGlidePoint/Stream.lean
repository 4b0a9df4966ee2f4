import AlpsGlidePoint.Init
import AlpsGlidePoint.Framer

/-! # The byte stream under an identified profile

Every profile `identify` accepts has bit 7 set in its sync byte and mask, while a
bare PS/2 packet starts with bit 7 clear: no byte carries both signatures. With the
framer invariant this gives the shape of the framed stream. The dispatcher does not
follow it: a bare frame takes a whole slot from the framer but only three bytes from
`packetReady`, and the tail leaves the slot boundaries.
-/

namespace AlpsGlidePoint

/-- Every run of `m` returns a value that satisfies `P`. -/
def Returns {α : Type} (P : α → Prop) (m : PS2 α) : Prop := ∀ b, P (m b).1

namespace Returns

variable {α β : Type} {P : β → Prop}

theorem pure {a : β} (h : P a) : Returns P (Pure.pure a : PS2 β) := fun _ => h

theorem bind {m : PS2 α} {f : α → PS2 β} (hf : ∀ a, Returns P (f a)) : Returns P (m >>= f) :=
  fun b => hf (m b).1 (m b).2

theorem ite {c : Prop} [Decidable c] {m m' : PS2 β} (hm : Returns P m) (hm' : Returns P m') :
    Returns P (if c then m else m') := by
  split <;> assumption

end Returns

/-- A profile whose sync byte and mask have bit 7 set. -/
def Profile.SyncHigh (p : Profile) : Prop := p.byte0 &&& 0x80 = 0x80 ∧ p.mask0 &&& 0x80 = 0x80

/-- Every profile `identify` reports as a success has bit 7 set in its sync byte and
    mask: the table rows, the v5 and Pinnacle defaults and the Rushmore profile. -/
theorem identify_sync (p : Profile) :
    Returns (fun r => r.1 = .success → r.2.SyncHigh) (identify p) := by
  unfold identify
  repeat' first
    | (refine Returns.pure fun h => ?_; cases h)
    | refine Returns.bind fun _ => ?_
    | refine Returns.ite ?_ ?_
    | split
  all_goals first | exact matchTable_sync ‹_› | exact setDefaults_sync _

/-- No row of the model table is a v3 or v5 pad. -/
theorem alpsModelData_not_v3 : ∀ m ∈ alpsModelData, m.protoVersion ≠ .v3 ∧ m.protoVersion ≠ .v5 := by
  decide

/-- No profile the model table gives parses with `processPacketV3`. -/
theorem matchTable_not_v3 {p q : Profile} {e7 ec : Report} (h : matchTable p e7 ec = some q) :
    q.processPacket ≠ some .processPacketV3 := by
  obtain ⟨m, hm, rfl⟩ := Option.map_eq_some'.1 h
  have hv := alpsModelData_not_v3 m (List.mem_of_find?_eq_some hm)
  generalize m.protoVersion = v at hv ⊢
  cases v <;> simp [setDefaults] at hv ⊢

/-- Every profile `identify` reports as a success that parses with `processPacketV3`
    (a Pinnacle, Rushmore or Dolphin pad) is not a v4 pad, and its sync signature
    accepts `0xcf`: under the packet size `deviceSpecificInit` gives it, a six-byte
    packet starting with `0xcf` is a sync frame. -/
theorem identify_v3_sync (p : Profile) :
    Returns (fun r => r.1 = .success → r.2.processPacket = some .processPacketV3 →
      r.2.isSync 0xcf = true ∧ r.2.protoVersion ≠ .v4) (identify p) := by
  unfold identify
  repeat' first
    | (refine Returns.pure fun h => ?_; cases h)
    | refine Returns.bind fun _ => ?_
    | refine Returns.ite ?_ ?_
    | split
  all_goals first
    | exact fun h => absurd h (matchTable_not_v3 ‹_›)
    | exact fun _ => by simp only [setDefaults, Profile.isSync]; decide

private theorem uint8_and_assoc (x y z : UInt8) : x &&& y &&& z = x &&& (y &&& z) :=
  UInt8.toNat.inj (by simp only [UInt8.and_toNat, Nat.and_assoc])

/-- Under a profile with bit 7 set in its sync byte and mask, a byte with the sync
    signature has bit 7 set and so does not start like a bare packet. -/
theorem Profile.SyncHigh.not_bare {p : Profile} (hp : p.SyncHigh) {x : UInt8}
    (hx : p.isSync x = true) : isBareStart x = false := by
  have high : x &&& 0x80 = 0x80 := calc
    x &&& 0x80 = x &&& (p.mask0 &&& 0x80) := by rw [hp.2]
    _ = p.byte0 &&& 0x80 := by rw [← uint8_and_assoc, eq_of_beq hx]
    _ = 0x80 := hp.1
  rw [isBareStart, beq_eq_false_iff_ne]
  intro bare
  have low := congrArg (· &&& (0x80 : UInt8)) bare
  simp only [uint8_and_assoc] at low
  rw [show (0xc8 : UInt8) &&& 0x80 = 0x80 from rfl, high] at low
  exact absurd low (by decide)

/-- The shape of the framed stream: for a profile `identify` accepts, with the packet
    size `deviceSpecificInit` gives it, and every input fed from an empty packet, the
    cursor stays below the packet size, the completed frames are disjoint in-order
    blocks of the input, each a sync frame of `pktsize` bytes or a bare frame of
    three, and no byte has both signatures. -/
theorem identified_framer_structure {p q : Profile} {b : Bus} (hid : (identify p b).1 = (.success, q))
    (s : Framer) (h0 : s.packetByteCount = 0) (input : List UInt8) :
    (runBytes (withPacketSize q) s input).packetByteCount < (withPacketSize q).pktsize ∧
    Segments (framesOf (withPacketSize q) s input) input ∧
    (∀ f ∈ framesOf (withPacketSize q) s input, (withPacketSize q).FrameShape f) ∧
    (∀ x, (withPacketSize q).isSync x = true → isBareStart x = false) := by
  have hsync : q.SyncHigh := by simpa [hid] using identify_sync p b
  have h3 : 3 < (withPacketSize q).pktsize := by unfold withPacketSize; split <;> simp
  have hs : FramerInv (withPacketSize q) s := .of_count_zero (by omega) h0
  refine ⟨(runBytes_inv h3 hs input).count_lt, ?_, framesOf_shape h3 hs input, fun x => hsync.not_bare⟩
  simpa [pending_nil_of_count s h0] using framesOf_segments (withPacketSize q) s input

/-- The session start of the driver: `modelData` and the framer zeroed. -/
def initialModelData : Profile := ⟨.v1, 0, 0, 0, 0, 0, 0, 0, [], 0, 0, none, none, none⟩

def freshFramer : Framer := ⟨0, ⟨fun _ => 0, 0, 0⟩⟩

/-- The reports of a v4 pad to `identify`: E6 `00 00 64`, E7 `73 02 64` and EC
    `00 00 8a`, every exchange complete. -/
def v4Reports : Transport := fun n request =>
  { commandsCount := request.length
    inOrOut := fun i => if i < 6 then 0 else
      (([[0x00, 0x00, 0x64], [0x73, 0x02, 0x64], [0x00, 0x00, 0x8a]] : List (List UInt8)).getD n []).getD
        (i - 6) 0 }

theorem identified_framer_structure_v4 :
    (identify initialModelData ⟨v4Reports, 0, []⟩).1 =
      (.success, (identify initialModelData ⟨v4Reports, 0, []⟩).1.2) ∧
    (runBytes (withPacketSize (identify initialModelData ⟨v4Reports, 0, []⟩).1.2) freshFramer
      [0x8f, 0x08]).packetByteCount < 8 :=
  ⟨by decide, (@identified_framer_structure initialModelData
    (identify initialModelData ⟨v4Reports, 0, []⟩).1.2 ⟨v4Reports, 0, []⟩ (by decide) freshFramer rfl
    [0x8f, 0x08]).1⟩

/-! ### Framer and dispatcher disagree -/

/-- A bare frame `08 00 00`, then a v4 packet `8f 00 … 00`. -/
def bareThenPacket : List UInt8 := [0x08, 0x00, 0x00, 0x8f, 0, 0, 0, 0, 0, 0, 0]

/-- Under the v4 profile `identify` selects, the framer completes the bare frame and
    then the sync frame, in slots 0 and 8; `packetReady` skips three bytes for the
    bare frame, then three unwritten ones, and stops with the tail at byte 9: the
    sync frame never reaches `process_packet`. -/
theorem bare_frame_drops_next_packet :
    (identify initialModelData ⟨v4Reports, 0, []⟩).1.1 = .success ∧
    (withPacketSize (identify initialModelData ⟨v4Reports, 0, []⟩).1.2).pktsize = 8 ∧
    framesOf (withPacketSize (identify initialModelData ⟨v4Reports, 0, []⟩).1.2) freshFramer
      bareThenPacket = [[0x08, 0, 0], [0x8f, 0, 0, 0, 0, 0, 0, 0]] ∧
    dispatched (withPacketSize (identify initialModelData ⟨v4Reports, 0, []⟩).1.2) freshFramer
      (bareThenPacket.map .byte ++ [.ready]) = [] ∧
    (packetReady (withPacketSize (identify initialModelData ⟨v4Reports, 0, []⟩).1.2)
      (runBytes (withPacketSize (identify initialModelData ⟨v4Reports, 0, []⟩).1.2) freshFramer
        bareThenPacket)).1.ringBuffer.tailIdx = 9 := by
  decide

/-! ### Continuation bytes with bit 7 set -/

/-- Only `0x80` aborts a packet: under every profile `setDefaults` produces, with the
    packet size `deviceSpecificInit` gives it, the sync byte, then `0x81` and clear
    bytes up to the packet size, complete one frame whose byte 1 has bit 7 set. -/
theorem continuation_high_bit_completes_frame (q : Profile) (r : RingBuffer) :
    (withPacketSize (setDefaults q)).isSync (setDefaults q).byte0 = true ∧ (0x81 : UInt8) &&& 0x80 = 0x80 ∧
    framesOf (withPacketSize (setDefaults q)) ⟨0, r⟩
        ((setDefaults q).byte0 :: 0x81 :: List.replicate ((withPacketSize (setDefaults q)).pktsize - 2) 0) =
      [(setDefaults q).byte0 :: 0x81 :: List.replicate ((withPacketSize (setDefaults q)).pktsize - 2) 0] := by
  have hk : 2 ≤ (withPacketSize (setDefaults q)).pktsize := by
    unfold withPacketSize; dsimp only; split <;> decide
  have hsync : (withPacketSize (setDefaults q)).isSync (setDefaults q).byte0 = true ∧
      isBareStart (setDefaults q).byte0 = false := by
    cases q with | mk v => cases v <;> simp only [setDefaults, withPacketSize, Profile.isSync] <;> decide
  have hno : ∀ b ∈ (0x81 : UInt8) :: List.replicate ((withPacketSize (setDefaults q)).pktsize - 2) 0, b ≠ 0x80 := by
    intro b hb
    rcases List.mem_cons.1 hb with rfl | hb
    · decide
    · rw [(List.mem_replicate.1 hb).2]; decide
  exact ⟨hsync.1, rfl, (@framesOf_sync_frame _ ⟨0, r⟩ rfl _ hsync.1 hsync.2 _ (by simp only [List.length_cons, List.length_replicate]; omega)
    (List.cons_ne_nil _ _) hno).1⟩

end AlpsGlidePoint
