import AlpsGlidePoint.Profile
import Mathlib.Logic.Function.Basic

/-! # Packet framing

`interruptOccurred` receives the byte stream one byte at a time and assembles it in
the head slot of the ring buffer; `packetReady` later drains the buffer, handing
every packet whose first byte carries the profile's sync signature to
`process_packet` and skipping the others as bare PS/2 packets.

The framer's abstraction is `pending`, the bytes of the packet in progress. Every
call either drops the byte, drops the pending bytes, or appends the byte, and a
packet is complete when `pending` reaches the packet size or, earlier, three bytes
that start like a bare PS/2 packet.
-/

namespace AlpsGlidePoint

/-- Modelled from the spec: `RingBuffer` (declared in the controller's header, not
    in the source) as a byte FIFO that never fills. `headIdx` and `tailIdx` count
    the bytes produced and consumed; the store is unbounded. -/
structure RingBuffer where
  buf : Nat → UInt8
  headIdx : Nat
  tailIdx : Nat

namespace RingBuffer

def count (r : RingBuffer) : Nat := r.headIdx - r.tailIdx

def advanceHead (r : RingBuffer) (n : Nat) : RingBuffer := { r with headIdx := r.headIdx + n }

def advanceTail (r : RingBuffer) (n : Nat) : RingBuffer := { r with tailIdx := r.tailIdx + n }

/-- `head()[i] = b`. -/
def writeHead (r : RingBuffer) (i : Nat) (b : UInt8) : RingBuffer :=
  { r with buf := Function.update r.buf (r.headIdx + i) b }

/-- `head()[i]`. -/
def head (r : RingBuffer) (i : Nat) : UInt8 := r.buf (r.headIdx + i)

/-- `tail()[i]`. -/
def tail (r : RingBuffer) (i : Nat) : UInt8 := r.buf (r.tailIdx + i)

/-- The `len` bytes of the store from `start`. -/
def bytes (r : RingBuffer) (start len : Nat) : List UInt8 :=
  (List.range len).map fun j => r.buf (start + j)

end RingBuffer

/-- `PS2InterruptResult`. -/
inductive PS2InterruptResult where
  | packetBuffering | packetReady
  deriving DecidableEq, Repr

def kPacketLengthSmall : Nat := 3

/-- The framer's state: `_packetByteCount` and `_ringBuffer`. -/
structure Framer where
  packetByteCount : Nat
  ringBuffer : RingBuffer

/-- `(data & 0xc8) == 0x08`: the first byte of a bare PS/2 packet. -/
def isBareStart (b : UInt8) : Bool := b &&& 0xc8 == 0x08

/-- `(data & mask0) == byte0`: the profile's sync signature. -/
def Profile.isSync (p : Profile) (b : UInt8) : Bool := b &&& p.mask0 == p.byte0

/-- `interruptOccurred`. -/
def interruptOccurred (p : Profile) (s : Framer) (data : UInt8) : Framer × PS2InterruptResult :=
  if s.packetByteCount = 0 ∧ !isBareStart data ∧ !p.isSync data then
    (s, .packetBuffering)
  else if 1 ≤ s.packetByteCount ∧ data = 0x80 then
    ({ s with packetByteCount := 0 }, .packetBuffering)
  else
    let r := s.ringBuffer.writeHead s.packetByteCount data
    let n := s.packetByteCount + 1
    if p.pktsize = n ∨ (kPacketLengthSmall = n ∧ isBareStart (r.head 0)) then
      (⟨0, r.advanceHead p.pktsize⟩, .packetReady)
    else
      (⟨n, r⟩, .packetBuffering)

/-- The `while` loop of `packetReady`, with the packets it passes to `process_packet`
    (each as the `pktsize` bytes it reads). The loop consumes at least one byte per
    round, so `count + 1` rounds of fuel always reach its exit test. -/
def packetReadyLoop (p : Profile) : Nat → RingBuffer → RingBuffer × List (List UInt8)
  | 0, r => (r, [])
  | fuel + 1, r =>
      if p.pktsize ≤ r.count then
        if p.isSync (r.tail 0) then
          let next := packetReadyLoop p fuel (r.advanceTail p.pktsize)
          (next.1, r.bytes r.tailIdx p.pktsize :: next.2)
        else
          packetReadyLoop p fuel (r.advanceTail kPacketLengthSmall)
      else (r, [])

/-- `packetReady`: drain the ring buffer. -/
def packetReady (p : Profile) (s : Framer) : Framer × List (List UInt8) :=
  let out := packetReadyLoop p (s.ringBuffer.count + 1) s.ringBuffer
  ({ s with ringBuffer := out.1 }, out.2)

/-- The packet in progress: the bytes written to the head slot so far. -/
def Framer.pending (s : Framer) : List UInt8 := s.ringBuffer.bytes s.ringBuffer.headIdx s.packetByteCount

/-- The frames the calls complete over an input, each read back from its slot. -/
def framesOf (p : Profile) : Framer → List UInt8 → List (List UInt8)
  | _, [] => []
  | s, b :: bs =>
      let next := interruptOccurred p s b
      match next.2 with
      | .packetReady => next.1.ringBuffer.bytes s.ringBuffer.headIdx (s.packetByteCount + 1) :: framesOf p next.1 bs
      | .packetBuffering => framesOf p next.1 bs

/-- The framer's state after an input. -/
def runBytes (p : Profile) (s : Framer) (input : List UInt8) : Framer :=
  input.foldl (fun s b => (interruptOccurred p s b).1) s

/-! ### One call -/

theorem bytes_update_succ (buf : Nat → UInt8) (h n : Nat) (b : UInt8) :
    (RingBuffer.bytes ⟨Function.update buf (h + n) b, h, 0⟩ h (n + 1)) =
      RingBuffer.bytes ⟨buf, h, 0⟩ h n ++ [b] := by
  simp only [RingBuffer.bytes, List.range_succ, List.map_append, List.map_cons, List.map_nil,
    Function.update_same, List.append_cancel_right_eq, List.map_inj_left, List.mem_range]
  intro j hj
  exact Function.update_noteq (by omega) _ _

theorem bytes_buf (r : RingBuffer) (start len : Nat) :
    r.bytes start len = RingBuffer.bytes ⟨r.buf, start, 0⟩ start len := rfl

/-- What one call does to the framer, read through `pending`. -/
inductive CallEffect (p : Profile) (s : Framer) (data : UInt8) : Framer × PS2InterruptResult → Prop
  /-- A byte that starts no packet is dropped. -/
  | drop : s.packetByteCount = 0 → isBareStart data = false → p.isSync data = false →
      CallEffect p s data (s, .packetBuffering)
  /-- A continuation byte `0x80` drops the pending bytes. -/
  | abort (s' : Framer) : 1 ≤ s.packetByteCount → data = 0x80 → s'.pending = [] →
      s'.packetByteCount = 0 → CallEffect p s data (s', .packetBuffering)
  /-- The byte is appended and the packet is not yet complete. -/
  | append (s' : Framer) : (s.packetByteCount = 0 → isBareStart data = true ∨ p.isSync data = true) →
      s'.pending = s.pending ++ [data] →
      s'.packetByteCount = s.packetByteCount + 1 → p.pktsize ≠ s'.packetByteCount →
      ¬(s'.packetByteCount = 3 ∧ isBareStart ((s.pending ++ [data]).headD 0) = true) →
      CallEffect p s data (s', .packetBuffering)
  /-- The byte completes the packet `s.pending ++ [data]`, left in the old head slot. -/
  | complete (s' : Framer) : (s.packetByteCount = 0 → isBareStart data = true ∨ p.isSync data = true) →
      (p.pktsize = s.packetByteCount + 1 ∨
      (s.packetByteCount + 1 = 3 ∧ isBareStart ((s.pending ++ [data]).headD 0) = true)) →
      s'.ringBuffer.bytes s.ringBuffer.headIdx (s.packetByteCount + 1) = s.pending ++ [data] →
      s'.packetByteCount = 0 → s'.pending = [] → CallEffect p s data (s', .packetReady)

theorem pending_nil_of_count (s : Framer) (h : s.packetByteCount = 0) : s.pending = [] := by
  simp [Framer.pending, RingBuffer.bytes, h]

theorem interruptOccurred_effect (p : Profile) (s : Framer) (data : UInt8) :
    CallEffect p s data (interruptOccurred p s data) := by
  obtain ⟨n, r⟩ := s
  have hw : (r.writeHead n data).bytes r.headIdx (n + 1) = (⟨n, r⟩ : Framer).pending ++ [data] :=
    bytes_update_succ r.buf r.headIdx n data
  have hhead : (r.writeHead n data).head 0 = ((⟨n, r⟩ : Framer).pending ++ [data]).headD 0 := by
    cases n with
    | zero => simp [RingBuffer.head, RingBuffer.writeHead, Framer.pending, RingBuffer.bytes]
    | succ n =>
        simp [RingBuffer.head, RingBuffer.writeHead, Framer.pending, RingBuffer.bytes,
          List.range_succ_eq_map, Function.update_noteq]
  unfold interruptOccurred
  split
  · rename_i h
    simp only [Bool.not_eq_true'] at h
    exact .drop h.1 h.2.1 h.2.2
  rename_i hstart
  have accepted : n = 0 → isBareStart data = true ∨ p.isSync data = true := fun h0 => by
    cases hb : isBareStart data <;> cases hsync : p.isSync data <;> simp_all
  split
  · rename_i h
    exact .abort _ h.1 h.2 (pending_nil_of_count _ rfl) rfl
  dsimp only
  split
  · rename_i _ h
    refine .complete _ accepted ?_ hw rfl (pending_nil_of_count _ rfl)
    rw [← hhead]
    rcases h with h | h
    · exact .inl h
    · exact .inr ⟨h.1.symm, h.2⟩
  · rename_i _ h
    refine .append _ accepted hw rfl ?_ ?_
    · exact fun e => h (.inl e)
    · rw [← hhead]
      unfold kPacketLengthSmall at h
      exact fun e => h (.inr ⟨e.1.symm, e.2⟩)

/-! ### Whole inputs -/

/-- `Segments frames input`: the frames occur in the input in order, each as a block
    of consecutive bytes, and no two share a byte. -/
inductive Segments : List (List UInt8) → List UInt8 → Prop
  | nil (input : List UInt8) : Segments [] input
  | skip (b : UInt8) {frames input} : Segments frames input → Segments frames (b :: input)
  | frame (f : List UInt8) {frames input} : Segments frames input → Segments (f :: frames) (f ++ input)

theorem Segments.skipAll {frames input} (pre : List UInt8) (h : Segments frames input) :
    Segments frames (pre ++ input) := by
  induction pre with
  | nil => exact h
  | cons b pre ih => exact .skip b ih

theorem framesOf_segments (p : Profile) (s : Framer) (input : List UInt8) :
    Segments (framesOf p s input) (s.pending ++ input) := by
  induction input generalizing s with
  | nil => exact .nil _
  | cons b input ih =>
      unfold framesOf
      have e := interruptOccurred_effect p s b
      generalize interruptOccurred p s b = res at e ⊢
      cases e with
      | drop h =>
          rw [pending_nil_of_count s h]
          exact .skip b (by simpa [pending_nil_of_count s h] using ih s)
      | abort s' _ _ hp =>
          have step := ih s'
          rw [hp, List.nil_append] at step
          simpa using Segments.skipAll (s.pending ++ [b]) step
      | append s' _ hp =>
          simpa [hp] using ih s'
      | complete s' _ _ hf _ hp =>
          have step := ih s'
          rw [hp, List.nil_append] at step
          simpa [hf] using Segments.frame (s.pending ++ [b]) step

/-! ### The framer invariant -/

theorem pending_length (s : Framer) : s.pending.length = s.packetByteCount := by
  simp [Framer.pending, RingBuffer.bytes]

/-- A completed frame as the framer can produce it: `pktsize` bytes starting with the
    sync signature, or three bytes starting like a bare PS/2 packet. -/
def Profile.FrameShape (p : Profile) (f : List UInt8) : Prop :=
  (f.length = p.pktsize ∧ p.isSync (f.headD 0) = true) ∨ (f.length = 3 ∧ isBareStart (f.headD 0) = true)

/-- The cursor stays below the packet size, a packet in progress starts with an
    accepted byte, and one that starts like a bare packet has fewer than three bytes. -/
structure FramerInv (p : Profile) (s : Framer) : Prop where
  count_lt : s.packetByteCount < p.pktsize
  start : ∀ b ∈ s.pending.head?, (isBareStart b = true ∨ p.isSync b = true) ∧
    (isBareStart b = true → s.packetByteCount < 3)

theorem FramerInv.of_count_zero {p : Profile} {s : Framer} (hp : 0 < p.pktsize)
    (h : s.packetByteCount = 0) : FramerInv p s :=
  ⟨h ▸ hp, by simp [pending_nil_of_count s h]⟩

/-- The first byte of the packet being extended, with what the invariant says of it. -/
theorem FramerInv.first {p : Profile} {s : Framer} {data : UInt8} (hs : FramerInv p s)
    (accepted : s.packetByteCount = 0 → isBareStart data = true ∨ p.isSync data = true) :
    ((s.pending ++ [data]).headD 0 = data ∨ s.packetByteCount ≠ 0) ∧
    (isBareStart ((s.pending ++ [data]).headD 0) = true ∨ p.isSync ((s.pending ++ [data]).headD 0) = true) ∧
    (isBareStart ((s.pending ++ [data]).headD 0) = true → s.packetByteCount < 3) := by
  cases hpend : s.pending with
  | nil =>
      have h0 : s.packetByteCount = 0 := by simpa [hpend] using (pending_length s).symm
      exact ⟨.inl rfl, accepted h0, fun _ => by omega⟩
  | cons b rest =>
      have h0 : s.packetByteCount ≠ 0 := by simp [← pending_length s, hpend]
      exact ⟨.inr h0, (hs.start b (by simp [hpend])).1, (hs.start b (by simp [hpend])).2⟩

/-- One call keeps the invariant, and a packet it completes has the frame shape. -/
theorem interruptOccurred_inv {p : Profile} {s : Framer} (data : UInt8) (h3 : 3 < p.pktsize)
    (hs : FramerInv p s) :
    FramerInv p (interruptOccurred p s data).1 ∧
      ((interruptOccurred p s data).2 = .packetReady → p.FrameShape (s.pending ++ [data])) := by
  have e := interruptOccurred_effect p s data
  generalize interruptOccurred p s data = res at e ⊢
  cases e with
  | drop => exact ⟨hs, nofun⟩
  | abort s' _ _ _ h0 => exact ⟨.of_count_zero (by omega) h0, nofun⟩
  | append s' accepted hp hc hne hbare =>
      obtain ⟨-, hacc, hlt⟩ := hs.first accepted
      dsimp only
      refine ⟨⟨by have := hs.count_lt; omega, ?_⟩, nofun⟩
      intro b hb
      rw [hp] at hb
      have hb' : b = (s.pending ++ [data]).headD 0 := by
        cases h : s.pending with
        | nil => simp_all
        | cons a rest => simp_all
      subst hb'
      exact ⟨hacc, fun hbare' => by have := hlt hbare'; simp_all; omega⟩
  | complete s' accepted hdone _ h0 _ =>
      obtain ⟨-, hacc, hlt⟩ := hs.first accepted
      refine ⟨.of_count_zero (by omega) h0, fun _ => ?_⟩
      have hlen : (s.pending ++ [data]).length = s.packetByteCount + 1 := by simp [pending_length]
      rcases hdone with hsize | ⟨h3', hbare⟩
      · rcases hacc with hbare | hsync
        · have := hlt hbare; omega
        · exact .inl ⟨by omega, hsync⟩
      · exact .inr ⟨by omega, hbare⟩

theorem runBytes_inv {p : Profile} (h3 : 3 < p.pktsize) {s : Framer} (hs : FramerInv p s)
    (input : List UInt8) : FramerInv p (runBytes p s input) := by
  induction input generalizing s with
  | nil => exact hs
  | cons b input ih => exact ih (interruptOccurred_inv b h3 hs).1

theorem framesOf_shape {p : Profile} (h3 : 3 < p.pktsize) {s : Framer} (hs : FramerInv p s)
    (input : List UInt8) : ∀ f ∈ framesOf p s input, p.FrameShape f := by
  induction input generalizing s with
  | nil => simp [framesOf]
  | cons b input ih =>
      have step := interruptOccurred_inv b h3 hs
      unfold framesOf
      have e := interruptOccurred_effect p s b
      generalize interruptOccurred p s b = res at e step ⊢
      cases e with
      | complete s' _ _ hf _ _ =>
          simp only [List.mem_cons, forall_eq_or_imp, hf]
          exact ⟨step.2 rfl, ih step.1⟩
      | drop | abort | append => exact ih step.1

/-! ### Continuation bytes -/

/-- Past a first byte that does not start like a bare packet, the framer appends
    every continuation byte but `0x80`, whatever its bit 7, until the packet size:
    such a run completes exactly one frame and leaves no packet in progress. -/
theorem framesOf_continuation (p : Profile) {s : Framer} (hs : 1 ≤ s.packetByteCount)
    (hfirst : ∀ b ∈ s.pending.head?, isBareStart b = false) {rest : List UInt8}
    (hlen : s.packetByteCount + rest.length = p.pktsize) (hrest : rest ≠ []) (hno : ∀ b ∈ rest, b ≠ 0x80) :
    framesOf p s rest = [s.pending ++ rest] ∧ (runBytes p s rest).packetByteCount = 0 := by
  induction rest generalizing s with
  | nil => exact absurd rfl hrest
  | cons x xs ih =>
    obtain ⟨a, pre, hpre⟩ : ∃ a pre, s.pending = a :: pre :=
      List.exists_cons_of_ne_nil fun h => by have := pending_length s; simp [h] at this; omega
    have hhead : (s.pending ++ [x]).headD 0 = a := by rw [hpre]; rfl
    have ha : isBareStart a = false := hfirst a (by simp [hpre])
    have hrun : runBytes p s (x :: xs) = runBytes p (interruptOccurred p s x).1 xs := rfl
    rw [hrun]
    unfold framesOf
    have e := interruptOccurred_effect p s x
    generalize interruptOccurred p s x = res at e ⊢
    cases e with
    | drop h => omega
    | abort _ _ h => exact absurd h (hno x (.head _))
    | append s' _ hp hc hne _ =>
      have hxs : xs ≠ [] := fun h => hne (by simp [h] at hlen; omega)
      obtain ⟨hf, hc'⟩ := @ih s' (by omega) (by simp [hp, hpre]; exact ha) (by simp at hlen; omega) hxs
        (fun b hb => hno b (.tail _ hb))
      dsimp only
      rw [hf, hp, List.append_assoc, List.singleton_append]
      exact ⟨rfl, hc'⟩
    | complete s' _ hdone hf h0 hp =>
      have hsize : p.pktsize = s.packetByteCount + 1 := by
        rcases hdone with h | ⟨-, h⟩
        · exact h
        · rw [hhead, ha] at h; cases h
      obtain rfl : xs = [] := List.eq_nil_of_length_eq_zero (by simp at hlen; omega)
      dsimp only
      rw [hf]
      exact ⟨rfl, h0⟩

/-- From an empty packet, a sync byte that does not start like a bare packet and a
    run of continuation bytes without `0x80` that fills the packet complete exactly
    one frame and leave no packet in progress. -/
theorem framesOf_sync_frame (p : Profile) {s : Framer} (h0 : s.packetByteCount = 0) {b0 : UInt8}
    (hsync : p.isSync b0 = true) (hbare : isBareStart b0 = false) {rest : List UInt8}
    (hlen : 1 + rest.length = p.pktsize) (hrest : rest ≠ []) (hno : ∀ b ∈ rest, b ≠ 0x80) :
    framesOf p s (b0 :: rest) = [b0 :: rest] ∧ (runBytes p s (b0 :: rest)).packetByteCount = 0 := by
  have hrun : runBytes p s (b0 :: rest) = runBytes p (interruptOccurred p s b0).1 rest := rfl
  rw [hrun]
  unfold framesOf
  have e := interruptOccurred_effect p s b0
  generalize interruptOccurred p s b0 = res at e ⊢
  cases e with
  | drop _ _ h => rw [hsync] at h; cases h
  | abort _ h => omega
  | append s' _ hp hc _ _ =>
    obtain ⟨hf, hc'⟩ := @framesOf_continuation p s' (by omega)
      (by simp [hp, pending_nil_of_count s h0]; exact hbare) rest (by omega) hrest hno
    dsimp only
    rw [hf, hp, pending_nil_of_count s h0]
    exact ⟨rfl, hc'⟩
  | complete s' _ hdone _ _ _ =>
    rcases hdone with h | ⟨h, -⟩
    · rw [h0] at h; have := List.length_pos.2 hrest; omega
    · omega

/-! ### Framer and dispatcher together -/

/-- What reaches the framer: a byte in the interrupt context, or a run of
    `packetReady` in the work loop. -/
inductive FramerEvent where
  | byte (b : UInt8)
  | ready
  deriving DecidableEq, Repr

/-- The bytes of a run of events. -/
def FramerEvent.bytesOf (events : List FramerEvent) : List UInt8 :=
  events.filterMap fun | .byte b => some b | .ready => none

/-- The packets `process_packet` receives over a run of events, in order. -/
def dispatched (p : Profile) : Framer → List FramerEvent → List (List UInt8)
  | _, [] => []
  | s, .byte b :: events => dispatched p (interruptOccurred p s b).1 events
  | s, .ready :: events => (packetReady p s).2 ++ dispatched p (packetReady p s).1 events

/-- The framer after a run of events. -/
def runEvents (p : Profile) : Framer → List FramerEvent → Framer
  | s, [] => s
  | s, .byte b :: events => runEvents p (interruptOccurred p s b).1 events
  | s, .ready :: events => runEvents p (packetReady p s).1 events

end AlpsGlidePoint
