import AlpsGlidePoint.Stream

/-! # Delivery of frames

The interrupt context (`interruptOccurred`, one byte at a time) and the work loop
(`packetReady`) share the ring buffer. Between its tail and its head the buffer holds
the frames completed and not yet dispatched, back to back (`RingBuffer.Holds`): a
byte appends the frame it completes, if any, and a run of `packetReady` hands every
queued frame to `process_packet` and leaves the tail at the head.

Hence, as long as no frame starts like a bare PS/2 packet, the two contexts agree
under every interleaving of bytes and `packetReady` runs: the packets dispatched are
the frames completed, in order and each once, and one more `packetReady` after the
last byte leaves none behind.
-/

namespace AlpsGlidePoint

namespace RingBuffer

theorem bytes_add (r : RingBuffer) (start m n : Nat) :
    r.bytes start (m + n) = r.bytes start m ++ r.bytes (start + m) n := by
  simp only [bytes, List.range_add, List.map_append, List.map_map, Function.comp_def, Nat.add_assoc]

@[simp] theorem bytes_length (r : RingBuffer) (start len : Nat) : (r.bytes start len).length = len := by
  simp [bytes]

/-- A write at or above the end of a region leaves the region alone. -/
theorem bytes_writeHead (r : RingBuffer) {start len : Nat} (i : Nat) (b : UInt8)
    (h : start + len ≤ r.headIdx + i) : (r.writeHead i b).bytes start len = r.bytes start len := by
  simp only [bytes, writeHead, List.map_inj_left, List.mem_range]
  exact fun j hj => Function.update_noteq (by omega) _ _

theorem tail_zero (r : RingBuffer) {len : Nat} (h : 0 < len) : r.tail 0 = (r.bytes r.tailIdx len).headD 0 := by
  obtain ⟨len, rfl⟩ := Nat.exists_eq_add_of_lt h
  simp [tail, bytes, List.range_succ_eq_map]

/-- The queue the buffer holds: between the tail and the head, the frames `q` back to
    back, each of `pktsize` bytes and starting with the sync signature. -/
structure Holds (p : Profile) (r : RingBuffer) (q : List (List UInt8)) : Prop where
  frames : ∀ f ∈ q, f.length = p.pktsize ∧ p.isSync (f.headD 0) = true
  head : r.headIdx = r.tailIdx + q.length * p.pktsize
  region : r.bytes r.tailIdx (q.length * p.pktsize) = q.flatten

theorem holds_nil {p : Profile} {r : RingBuffer} (h : r.headIdx = r.tailIdx) : r.Holds p [] :=
  ⟨nofun, by simpa using h, by simp [bytes]⟩

/-- The front frame of a queue is the first `pktsize` bytes past the tail, and the rest
    of the queue is held once the tail has passed it. -/
theorem Holds.pop {p : Profile} {r : RingBuffer} {f : List UInt8} {q : List (List UInt8)}
    (h : r.Holds p (f :: q)) :
    r.bytes r.tailIdx p.pktsize = f ∧ (r.advanceTail p.pktsize).Holds p q := by
  have hsize : (f :: q).length * p.pktsize = p.pktsize + q.length * p.pktsize := by
    rw [List.length_cons, Nat.succ_mul, Nat.add_comm]
  have hsplit := h.region
  rw [hsize, bytes_add, List.flatten_cons] at hsplit
  obtain ⟨hf, hq⟩ := List.append_inj hsplit (by rw [bytes_length, (h.frames f (.head _)).1])
  refine ⟨hf, fun g hg => h.frames g (.tail _ hg), ?_, hq⟩
  simp only [advanceTail, h.head, hsize]
  omega

/-- Past the end of the queue, a write keeps it, and completing a frame of `pktsize`
    bytes there appends that frame. -/
theorem Holds.push {p : Profile} {r : RingBuffer} {q : List (List UInt8)} (h : r.Holds p q)
    (n : Nat) (b : UInt8) :
    (r.writeHead n b).Holds p q ∧
      (p.pktsize = n + 1 → p.isSync (((r.writeHead n b).bytes r.headIdx (n + 1)).headD 0) = true →
        ((r.writeHead n b).advanceHead p.pktsize).Holds p (q ++ [(r.writeHead n b).bytes r.headIdx (n + 1)])) := by
  have hkeep : (r.writeHead n b).bytes r.tailIdx (q.length * p.pktsize) = q.flatten :=
    (bytes_writeHead r n b (by rw [h.head]; omega)).trans h.region
  refine ⟨⟨h.frames, h.head, hkeep⟩, fun hsize hsync => ⟨?_, ?_, ?_⟩⟩
  · simp only [List.mem_append, List.mem_singleton]
    rintro g (hg | rfl)
    · exact h.frames g hg
    · exact ⟨by rw [bytes_length, hsize], hsync⟩
  · simp only [advanceHead, writeHead, List.length_append, List.length_singleton, Nat.succ_mul, h.head]
    omega
  · have hlen : (q ++ [(r.writeHead n b).bytes r.headIdx (n + 1)]).length * p.pktsize =
        q.length * p.pktsize + p.pktsize := by
      rw [List.length_append, List.length_singleton, Nat.succ_mul]
    rw [hlen, bytes_add, List.flatten_append, List.flatten_singleton]
    show (r.writeHead n b).bytes r.tailIdx _ ++
      (r.writeHead n b).bytes (r.tailIdx + q.length * p.pktsize) p.pktsize = _
    rw [hkeep, ← h.head, hsize]

end RingBuffer

/-! ### The work loop -/

/-- With the buffer holding `q` and one round of fuel per frame besides the exit test,
    the loop dispatches exactly `q` and leaves the tail at the head. -/
theorem packetReadyLoop_holds {p : Profile} (hp : 0 < p.pktsize) (q : List (List UInt8)) :
    ∀ {r : RingBuffer} {fuel : Nat}, r.Holds p q → q.length < fuel →
      packetReadyLoop p fuel r = ({ r with tailIdx := r.headIdx }, q) := by
  induction q with
  | nil =>
      intro r fuel h hf
      obtain ⟨fuel, rfl⟩ := Nat.exists_eq_succ_of_ne_zero (Nat.pos_iff_ne_zero.1 hf)
      have he : r.headIdx = r.tailIdx := by simpa using h.head
      have hc : ¬ p.pktsize ≤ r.count := by simp only [RingBuffer.count, he]; omega
      simp only [packetReadyLoop, if_neg hc]
      obtain ⟨buf, hd, tl⟩ := r
      dsimp only at he
      subst he
      rfl
  | cons f q ih =>
      intro r fuel h hf
      obtain ⟨fuel, rfl⟩ := Nat.exists_eq_succ_of_ne_zero (Nat.pos_iff_ne_zero.1 (Nat.zero_lt_of_lt hf))
      obtain ⟨hfront, hrest⟩ := h.pop
      have hc : p.pktsize ≤ r.count := by
        simp only [RingBuffer.count, h.head, List.length_cons, Nat.succ_mul]
        omega
      have hsync : p.isSync (r.tail 0) = true := by
        rw [r.tail_zero hp, hfront]
        exact (h.frames f (.head _)).2
      have hnext := @ih (r.advanceTail p.pktsize) fuel hrest (by simp only [List.length_cons] at hf; omega)
      simp only [packetReadyLoop, if_pos hc, if_pos hsync, hfront, hnext]
      rfl

theorem packetReady_holds {p : Profile} (hp : 0 < p.pktsize) {s : Framer} {q : List (List UInt8)}
    (h : s.ringBuffer.Holds p q) :
    packetReady p s = ({ s with ringBuffer := { s.ringBuffer with tailIdx := s.ringBuffer.headIdx } }, q) := by
  have hq : q.length < s.ringBuffer.count + 1 := by
    have : q.length ≤ q.length * p.pktsize := Nat.le_mul_of_pos_right _ hp
    simp only [RingBuffer.count, h.head]
    omega
  simp only [packetReady, packetReadyLoop_holds hp q h hq]

/-! ### The interrupt context -/

/-- What one call does to the ring buffer: nothing, a write in the head slot, or, when
    it completes a packet, the write and the head advanced by the packet size. -/
theorem interruptOccurred_ringBuffer (p : Profile) (s : Framer) (b : UInt8) :
    ((interruptOccurred p s b).2 = .packetBuffering ∧
      ((interruptOccurred p s b).1.ringBuffer = s.ringBuffer ∨
        (interruptOccurred p s b).1.ringBuffer = s.ringBuffer.writeHead s.packetByteCount b)) ∨
    ((interruptOccurred p s b).2 = .packetReady ∧
      (interruptOccurred p s b).1.ringBuffer =
        (s.ringBuffer.writeHead s.packetByteCount b).advanceHead p.pktsize) := by
  unfold interruptOccurred
  dsimp only
  split_ifs <;> simp

theorem framesOf_cons (p : Profile) (s : Framer) (b : UInt8) (bs : List UInt8) :
    framesOf p s (b :: bs) = framesOf p s [b] ++ framesOf p (interruptOccurred p s b).1 bs := by
  simp only [framesOf]
  split <;> simp

/-- One byte appends to the queue the frame it completes, if that frame does not start
    like a bare packet. -/
theorem interruptOccurred_holds {p : Profile} (h3 : 3 < p.pktsize) {s : Framer} {q : List (List UInt8)}
    (b : UInt8) (hs : FramerInv p s) (h : s.ringBuffer.Holds p q)
    (hnb : ∀ f ∈ framesOf p s [b], isBareStart (f.headD 0) = false) :
    (interruptOccurred p s b).1.ringBuffer.Holds p (q ++ framesOf p s [b]) := by
  have hshape := framesOf_shape h3 hs [b]
  obtain ⟨hkeep, hpush⟩ := h.push s.packetByteCount b
  simp only [framesOf] at hnb hshape ⊢
  rcases interruptOccurred_ringBuffer p s b with ⟨hres, hr | hr⟩ | ⟨hres, hr⟩
  · simpa [hres, hr] using h
  · simpa [hres, hr] using hkeep
  · simp only [hres, hr, List.mem_singleton, forall_eq] at hnb hshape ⊢
    rcases hshape with ⟨hlen, hsync⟩ | ⟨-, hbare⟩
    · exact hpush (by simpa using hlen.symm) hsync
    · rw [hnb] at hbare; cases hbare

/-! ### Every interleaving -/

/-- `packetReady` moves the tail only, which no call of the interrupt context reads. -/
theorem interruptOccurred_withTail (p : Profile) (s : Framer) (b : UInt8) (t : Nat) :
    interruptOccurred p { s with ringBuffer := { s.ringBuffer with tailIdx := t } } b =
      ({ (interruptOccurred p s b).1 with
          ringBuffer := { (interruptOccurred p s b).1.ringBuffer with tailIdx := t } },
        (interruptOccurred p s b).2) := by
  simp only [interruptOccurred, RingBuffer.writeHead, RingBuffer.head, RingBuffer.advanceHead]
  split_ifs <;> rfl

theorem framesOf_withTail (p : Profile) (t : Nat) (input : List UInt8) : ∀ s : Framer,
    framesOf p { s with ringBuffer := { s.ringBuffer with tailIdx := t } } input = framesOf p s input := by
  induction input with
  | nil => exact fun _ => rfl
  | cons b bs ih =>
      intro s
      simp only [framesOf, interruptOccurred_withTail, ih]
      rfl

theorem dispatched_append (p : Profile) (events more : List FramerEvent) :
    ∀ s : Framer, dispatched p s (events ++ more) = dispatched p s events ++ dispatched p (runEvents p s events) more := by
  induction events with
  | nil => exact fun _ => rfl
  | cons e events ih =>
      intro s
      cases e with
      | byte b => exact ih _
      | ready =>
          show (packetReady p s).2 ++ dispatched p (packetReady p s).1 (events ++ more) = _
          rw [ih, ← List.append_assoc]; rfl

/-- Over any run of events the framer keeps its invariant, and the queue the buffer
    held and the frames the run's bytes complete are the packets dispatched and then
    the queue the buffer holds after the run. -/
theorem dispatched_holds {p : Profile} (h3 : 3 < p.pktsize) (events : List FramerEvent) :
    ∀ {s : Framer} {q : List (List UInt8)}, FramerInv p s → s.ringBuffer.Holds p q →
      (∀ f ∈ framesOf p s (FramerEvent.bytesOf events), isBareStart (f.headD 0) = false) →
      FramerInv p (runEvents p s events) ∧ ∃ rest, q ++ framesOf p s (FramerEvent.bytesOf events) =
        dispatched p s events ++ rest ∧ (runEvents p s events).ringBuffer.Holds p rest := by
  induction events with
  | nil => exact fun hs h _ => ⟨hs, _, by simp [framesOf, FramerEvent.bytesOf, dispatched], h⟩
  | cons e events ih =>
      intro s q hs h hnb
      cases e with
      | byte b =>
          have hbytes : FramerEvent.bytesOf (.byte b :: events) = b :: FramerEvent.bytesOf events := rfl
          rw [hbytes, framesOf_cons, List.forall_mem_append] at hnb
          obtain ⟨hinv, rest, heq, hrest⟩ :=
            ih (interruptOccurred_inv b h3 hs).1 (interruptOccurred_holds h3 b hs h hnb.1) hnb.2
          exact ⟨hinv, rest, by rw [hbytes, framesOf_cons, ← List.append_assoc]; exact heq, hrest⟩
      | ready =>
          have hbytes : FramerEvent.bytesOf (.ready :: events) = FramerEvent.bytesOf events := rfl
          rw [hbytes] at hnb ⊢
          have hnext := @ih { s with ringBuffer := { s.ringBuffer with tailIdx := s.ringBuffer.headIdx } } []
            ⟨hs.count_lt, hs.start⟩ (RingBuffer.holds_nil rfl) (by rwa [framesOf_withTail])
          rw [framesOf_withTail, List.nil_append] at hnext
          obtain ⟨hinv, rest, heq, hrest⟩ := hnext
          simp only [dispatched, runEvents, packetReady_holds (by omega) h]
          exact ⟨hinv, rest, by rw [heq, List.append_assoc], hrest⟩

/-- Over any run of events, with one more `packetReady` at the end, the packets
    dispatched are the queue the buffer held and then every frame the run's bytes
    complete. -/
theorem dispatched_ready {p : Profile} (h3 : 3 < p.pktsize) (events : List FramerEvent)
    {s : Framer} {q : List (List UInt8)} (hs : FramerInv p s) (h : s.ringBuffer.Holds p q)
    (hnb : ∀ f ∈ framesOf p s (FramerEvent.bytesOf events), isBareStart (f.headD 0) = false) :
    dispatched p s (events ++ [.ready]) = q ++ framesOf p s (FramerEvent.bytesOf events) := by
  obtain ⟨-, rest, heq, hrest⟩ := dispatched_holds h3 events hs h hnb
  rw [heq, dispatched_append]
  simp [dispatched, packetReady_holds (by omega) hrest]

/-- From a framer with no packet in progress and an empty ring buffer, under any
    interleaving of bytes and `packetReady` runs whose frames none starts like a bare
    packet, `process_packet` receives only frames the bytes complete, in order and
    each once, and after one more `packetReady` it has received every one of them;
    between its tail and its head the ring buffer holds, back to back, the frames
    completed and not yet dispatched. -/
theorem packetReady_delivers_frames (p : Profile) (h3 : 3 < p.pktsize) (s : Framer)
    (h0 : s.packetByteCount = 0) (he : s.ringBuffer.headIdx = s.ringBuffer.tailIdx)
    (events : List FramerEvent)
    (hnb : ∀ f ∈ framesOf p s (FramerEvent.bytesOf events), isBareStart (f.headD 0) = false) :
    dispatched p s events <+: framesOf p s (FramerEvent.bytesOf events) ∧
      dispatched p s (events ++ [.ready]) = framesOf p s (FramerEvent.bytesOf events) ∧
      (runEvents p s events).ringBuffer.Holds p
        ((framesOf p s (FramerEvent.bytesOf events)).drop (dispatched p s events).length) := by
  have hs : FramerInv p s := .of_count_zero (by omega) h0
  obtain ⟨-, rest, heq, hrest⟩ := dispatched_holds h3 events hs (RingBuffer.holds_nil he) hnb
  rw [List.nil_append] at heq
  refine ⟨⟨rest, heq.symm⟩, ?_, by rwa [heq, List.drop_left]⟩
  simpa using dispatched_ready h3 events hs (RingBuffer.holds_nil he) hnb

/-- Two Pinnacle packets, with a `packetReady` run inside each. -/
def interleavedPackets : List FramerEvent :=
  [.byte 0x8f, .byte 1, .byte 2, .ready, .byte 3, .byte 4, .byte 5,
   .byte 0x8f, .ready, .byte 6, .byte 7, .byte 8, .byte 9, .byte 10]

theorem packetReady_delivers_interleaved :
    3 < (withPacketSize pinnacleProfile).pktsize ∧ freshFramer.packetByteCount = 0 ∧
      freshFramer.ringBuffer.headIdx = freshFramer.ringBuffer.tailIdx ∧
      (∀ f ∈ framesOf (withPacketSize pinnacleProfile) freshFramer (FramerEvent.bytesOf interleavedPackets),
        isBareStart (f.headD 0) = false) ∧
      (dispatched (withPacketSize pinnacleProfile) freshFramer interleavedPackets <+:
          framesOf (withPacketSize pinnacleProfile) freshFramer (FramerEvent.bytesOf interleavedPackets) ∧
        dispatched (withPacketSize pinnacleProfile) freshFramer (interleavedPackets ++ [.ready]) =
          framesOf (withPacketSize pinnacleProfile) freshFramer (FramerEvent.bytesOf interleavedPackets) ∧
        (runEvents (withPacketSize pinnacleProfile) freshFramer interleavedPackets).ringBuffer.Holds
          (withPacketSize pinnacleProfile)
          ((framesOf (withPacketSize pinnacleProfile) freshFramer (FramerEvent.bytesOf interleavedPackets)).drop
            (dispatched (withPacketSize pinnacleProfile) freshFramer interleavedPackets).length)) :=
  have hnb : ∀ f ∈ framesOf (withPacketSize pinnacleProfile) freshFramer (FramerEvent.bytesOf interleavedPackets),
      isBareStart (f.headD 0) = false := by decide
  ⟨by decide, rfl, rfl, hnb,
    packetReady_delivers_frames _ (by decide) freshFramer rfl rfl interleavedPackets hnb⟩

end AlpsGlidePoint
