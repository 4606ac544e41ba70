import Mathlib.Algebra.Order.Floor.Div
import ProgramTree.Outline.Delivery

/-!
# What a sink receives

A sink with limited room takes a prefix of what is offered to it, in calls that each take at most
a chunk. Its state is therefore given by two numbers, the calls made and the bytes accepted. One
call either fails, or moves the second number on by a chunk, but not past the bytes there are and
the bytes that fit. So after a number of calls without a failure that many chunks were accepted,
and the delivery ends in one of three ways: everything was accepted, the failing call was reached,
or a call found no room.

The calls that accept something are as many as it takes to fill the smaller of the two amounts
with chunks, which is their quotient rounded up; with chunks of no bytes there are none.
-/

namespace ProgramTree

/-- The sink after a number of calls in which it accepted the first bytes of a text. -/
def Sink.fed (sink : Sink) (bytes : List UInt8) (calls accepted : Nat) : Sink :=
  { sink with calls := calls, received := (bytes.take accepted).toArray }

/-- The bytes of a text that a sink without contents can take. -/
def Sink.share (sink : Sink) (bytes : List UInt8) : Nat :=
  min bytes.length sink.capacity

/-- The calls of a delivery in which a sink without contents accepts something. -/
def Sink.acceptingCalls (sink : Sink) (bytes : List UInt8) : Nat :=
  sink.share bytes ⌈/⌉ sink.chunk

/-! ## One call -/

/-- A sink has received as many bytes as it has accepted. -/
theorem Sink.room_fed (sink : Sink) {bytes : List UInt8} {accepted : Nat}
    (haccepted : accepted ≤ bytes.length) (calls : Nat) :
    (sink.fed bytes calls accepted).room = sink.capacity - accepted := by
  simp [Sink.fed, Sink.room, Nat.min_eq_left haccepted]

/-- The failing call changes nothing but the number of calls. -/
theorem Sink.offer_fed_of_fails (sink : Sink) (bytes : List UInt8) {calls : Nat}
    (hcall : calls + 1 = sink.failCall) (accepted : Nat) :
    (sink.fed bytes calls accepted).offer (bytes.drop accepted) =
      (.error .callFailed, sink.fed bytes (calls + 1) accepted) :=
  if_pos hcall

/-- Any other call accepts what is offered, up to a chunk and up to the room left. -/
theorem Sink.offer_of_ne_failCall {sink : Sink} (hcall : sink.calls + 1 ≠ sink.failCall)
    (bytes : List UInt8) :
    sink.offer bytes = (.ok (bytes.take (min sink.chunk sink.room)).length,
      { sink with
        calls := sink.calls + 1
        received := sink.received ++ bytes.take (min sink.chunk sink.room) }) :=
  if_neg hcall

/-- A call that does not fail accepts one chunk more, or what is left of the share. -/
theorem Sink.offer_fed (sink : Sink) {bytes : List UInt8} {calls accepted : Nat}
    (hcall : calls + 1 ≠ sink.failCall) (haccepted : accepted ≤ sink.share bytes) :
    (sink.fed bytes calls accepted).offer (bytes.drop accepted) =
      (.ok (min (accepted + sink.chunk) (sink.share bytes) - accepted),
        sink.fed bytes (calls + 1) (min (accepted + sink.chunk) (sink.share bytes))) := by
  have hlength : accepted ≤ bytes.length := haccepted.trans (Nat.min_le_left _ _)
  have hcapacity : accepted ≤ sink.capacity := haccepted.trans (Nat.min_le_right _ _)
  have hshare : sink.share bytes = min bytes.length sink.capacity := rfl
  -- What is taken of the remaining bytes continues the prefix that was accepted before.
  have hcontinued : bytes.take accepted ++
      (bytes.drop accepted).take (min sink.chunk (sink.capacity - accepted)) =
        bytes.take (min (accepted + sink.chunk) (sink.share bytes)) := by
    rw [← List.take_add, List.take_eq_take_iff]
    omega
  have hamount :
      ((bytes.drop accepted).take (min sink.chunk (sink.capacity - accepted))).length =
        min (accepted + sink.chunk) (sink.share bytes) - accepted := by
    rw [List.length_take, List.length_drop]
    omega
  rw [Sink.offer_of_ne_failCall hcall, Sink.room_fed sink hlength]
  simp only [Sink.fed, hamount, List.toArray_appendList, hcontinued]

/-! ## One round of a delivery -/

/-- A delivery ends with a call that fails. -/
theorem Sink.deliver_of_offer_error {sink after : Sink} {bytes : List UInt8} {error : SinkError}
    (hbytes : bytes ≠ []) (h : sink.offer bytes = (.error error, after)) :
    sink.deliver bytes = (.error error, after) := by
  obtain ⟨byte, rest, rfl⟩ := List.exists_cons_of_ne_nil hbytes
  rw [Sink.deliver, h]

/-- A delivery ends with a call that accepts nothing. -/
theorem Sink.deliver_of_offer_zero {sink after : Sink} {bytes : List UInt8} (hbytes : bytes ≠ [])
    (h : sink.offer bytes = (.ok 0, after)) :
    sink.deliver bytes = (.error .nothingAccepted, after) := by
  obtain ⟨byte, rest, rfl⟩ := List.exists_cons_of_ne_nil hbytes
  rw [Sink.deliver, h]

/-- A delivery goes on with the bytes that a call left. -/
theorem Sink.deliver_of_offer_pos {sink after : Sink} {bytes : List UInt8} {accepted : Nat}
    (hbytes : bytes ≠ []) (h : sink.offer bytes = (.ok accepted, after)) (hpos : 0 < accepted) :
    sink.deliver bytes = after.deliver (bytes.drop accepted) := by
  obtain ⟨byte, rest, rfl⟩ := List.exists_cons_of_ne_nil hbytes
  obtain ⟨others, rfl⟩ := Nat.exists_eq_succ_of_ne_zero hpos.ne'
  rw [Sink.deliver, h]
  rfl

/-- Bytes are left while fewer were accepted than there are. -/
theorem drop_ne_nil_of_lt {bytes : List UInt8} {accepted : Nat} (h : accepted < bytes.length) :
    bytes.drop accepted ≠ [] :=
  mt List.drop_eq_nil_iff.mp (Nat.not_le_of_lt h)

/-- When all bytes were accepted the delivery is done. -/
theorem Sink.deliver_fed_of_all (sink : Sink) (bytes : List UInt8) (calls : Nat) :
    (sink.fed bytes calls bytes.length).deliver (bytes.drop bytes.length) =
      (.ok (), sink.fed bytes calls bytes.length) := by
  rw [List.drop_length, Sink.deliver]

/-- When bytes are left and the next call fails, the delivery ends with it. -/
theorem Sink.deliver_fed_of_fails (sink : Sink) {bytes : List UInt8} {calls accepted : Nat}
    (hleft : accepted < bytes.length) (hcall : calls + 1 = sink.failCall) :
    (sink.fed bytes calls accepted).deliver (bytes.drop accepted) =
      (.error .callFailed, sink.fed bytes (calls + 1) accepted) :=
  Sink.deliver_of_offer_error (drop_ne_nil_of_lt hleft)
    (sink.offer_fed_of_fails bytes hcall accepted)

/-- When bytes are left but none can be accepted, the delivery ends with the next call. -/
theorem Sink.deliver_fed_of_stuck (sink : Sink) {bytes : List UInt8} {calls accepted : Nat}
    (hleft : accepted < bytes.length) (hcall : calls + 1 ≠ sink.failCall)
    (haccepted : accepted ≤ sink.share bytes)
    (hstuck : sink.chunk = 0 ∨ accepted = sink.share bytes) :
    (sink.fed bytes calls accepted).deliver (bytes.drop accepted) =
      (.error .nothingAccepted, sink.fed bytes (calls + 1) accepted) := by
  have hsame : min (accepted + sink.chunk) (sink.share bytes) = accepted := by omega
  have hoffer := sink.offer_fed hcall haccepted
  rw [hsame, Nat.sub_self] at hoffer
  exact Sink.deliver_of_offer_zero (drop_ne_nil_of_lt hleft) hoffer

/-- While the share is not used up, a call accepts one chunk more of it. -/
theorem Sink.deliver_fed_step (sink : Sink) {bytes : List UInt8} {calls accepted : Nat}
    (hcall : calls + 1 ≠ sink.failCall) (hchunk : 0 < sink.chunk)
    (hleft : accepted < sink.share bytes) :
    (sink.fed bytes calls accepted).deliver (bytes.drop accepted) =
      (sink.fed bytes (calls + 1) (min (accepted + sink.chunk) (sink.share bytes))).deliver
        (bytes.drop (min (accepted + sink.chunk) (sink.share bytes))) := by
  have hbytes : accepted < bytes.length := Nat.lt_of_lt_of_le hleft (Nat.min_le_left _ _)
  have hoffer := sink.offer_fed hcall (Nat.le_of_lt hleft)
  rw [Sink.deliver_of_offer_pos (drop_ne_nil_of_lt hbytes) hoffer (by omega), List.drop_drop]
  congr 2
  omega

/-! ## A whole delivery -/

/-- A call accepts something if the calls before it have not used up the share. -/
theorem Sink.lt_acceptingCalls_iff {sink : Sink} {bytes : List UInt8} {count : Nat} :
    count < sink.acceptingCalls bytes ↔
      0 < sink.chunk ∧ sink.chunk * count < sink.share bytes := by
  rcases Nat.eq_zero_or_pos sink.chunk with hzero | hpos
  · simp [Sink.acceptingCalls, hzero]
  · rw [Sink.acceptingCalls, ← not_le, ceilDiv_le_iff_le_mul hpos, not_le]
    exact ⟨fun h => ⟨hpos, h⟩, fun h => h.2⟩

/-- After a number of accepting calls without a failure that many chunks were accepted. -/
theorem Sink.deliver_after_calls (sink : Sink) (bytes : List UInt8) (count : Nat)
    (hcount : count ≤ sink.acceptingCalls bytes)
    (hcalls : ¬ (1 ≤ sink.failCall ∧ sink.failCall ≤ count)) :
    (sink.fed bytes 0 0).deliver bytes =
      (sink.fed bytes count (min (sink.chunk * count) (sink.share bytes))).deliver
        (bytes.drop (min (sink.chunk * count) (sink.share bytes))) := by
  induction count with
  | zero => simp
  | succ count ih =>
    obtain ⟨hchunk, hleft⟩ := Sink.lt_acceptingCalls_iff.mp hcount
    have hnext : min (sink.chunk * count + sink.chunk) (sink.share bytes) =
        min (sink.chunk * (count + 1)) (sink.share bytes) := by rw [Nat.mul_succ]
    rw [ih (by omega) (by omega), Nat.min_eq_left (Nat.le_of_lt hleft),
      sink.deliver_fed_step (by omega) hchunk hleft, hnext]

/-- The accepting calls accept the whole share, or nothing if the chunks are empty. -/
theorem Sink.min_chunk_mul_acceptingCalls (sink : Sink) (bytes : List UInt8) :
    min (sink.chunk * sink.acceptingCalls bytes) (sink.share bytes) =
      if sink.chunk = 0 then 0 else sink.share bytes := by
  split
  · rename_i hzero
    rw [hzero, Nat.zero_mul, Nat.zero_min]
  · rename_i hchunk
    have hfilled : ¬ sink.chunk * sink.acceptingCalls bytes < sink.share bytes := fun h =>
      Nat.lt_irrefl _ (Sink.lt_acceptingCalls_iff.mpr ⟨Nat.pos_of_ne_zero hchunk, h⟩)
    exact Nat.min_eq_right (Nat.le_of_not_lt hfilled)

/-- Bytes that do not fit are left after all accepting calls. -/
theorem Sink.min_chunk_mul_acceptingCalls_lt {sink : Sink} {bytes : List UInt8}
    (hbytes : bytes.length ≠ 0) (hexcess : sink.chunk = 0 ∨ sink.capacity < bytes.length) :
    min (sink.chunk * sink.acceptingCalls bytes) (sink.share bytes) < bytes.length := by
  have hshare : sink.share bytes = min bytes.length sink.capacity := rfl
  rw [sink.min_chunk_mul_acceptingCalls]
  split <;> omega

/-- The failing call ends the delivery if it comes among the accepting calls, or right after them
while bytes are left. -/
theorem Sink.deliver_of_fails (sink : Sink) {bytes : List UInt8} (hbytes : bytes.length ≠ 0)
    (hfails : 1 ≤ sink.failCall ∧ sink.failCall ≤ sink.acceptingCalls bytes ∨
      sink.failCall = sink.acceptingCalls bytes + 1 ∧
        (sink.chunk = 0 ∨ sink.capacity < bytes.length)) :
    (sink.fed bytes 0 0).deliver bytes =
      (.error .callFailed, sink.fed bytes sink.failCall
        (min (sink.chunk * (sink.failCall - 1)) (sink.share bytes))) := by
  have hcall : sink.failCall - 1 + 1 = sink.failCall := by omega
  have hleft : min (sink.chunk * (sink.failCall - 1)) (sink.share bytes) < bytes.length := by
    rcases hfails with ⟨hfirst, hlast⟩ | ⟨hnext, hexcess⟩
    · obtain ⟨-, hshare⟩ := Sink.lt_acceptingCalls_iff.mp (hcall.trans_le hlast)
      exact (Nat.min_le_left _ _).trans_lt (hshare.trans_le (Nat.min_le_left _ _))
    · rw [hnext, Nat.add_sub_cancel]
      exact Sink.min_chunk_mul_acceptingCalls_lt hbytes hexcess
  rw [sink.deliver_after_calls bytes (sink.failCall - 1) (by omega) (by omega),
    sink.deliver_fed_of_fails hleft hcall, hcall]

/-- Bytes that fit are all accepted, unless the failing call comes before. -/
theorem Sink.deliver_of_fits (sink : Sink) {bytes : List UInt8} (hchunk : 0 < sink.chunk)
    (hfits : bytes.length ≤ sink.capacity)
    (hcalls : ¬ (1 ≤ sink.failCall ∧ sink.failCall ≤ sink.acceptingCalls bytes)) :
    (sink.fed bytes 0 0).deliver bytes =
      (.ok (), sink.fed bytes (sink.acceptingCalls bytes) bytes.length) := by
  have hshare : sink.share bytes = bytes.length := Nat.min_eq_left hfits
  rw [sink.deliver_after_calls bytes _ (Nat.le_refl _) hcalls, sink.min_chunk_mul_acceptingCalls,
    if_neg hchunk.ne', hshare, sink.deliver_fed_of_all]

/-- Bytes that do not fit bring about one more call, which accepts nothing unless it fails. -/
theorem Sink.deliver_of_excess (sink : Sink) {bytes : List UInt8} (hbytes : bytes.length ≠ 0)
    (hexcess : sink.chunk = 0 ∨ sink.capacity < bytes.length)
    (hcalls : ¬ (1 ≤ sink.failCall ∧ sink.failCall ≤ sink.acceptingCalls bytes + 1)) :
    (sink.fed bytes 0 0).deliver bytes =
      (.error .nothingAccepted, sink.fed bytes (sink.acceptingCalls bytes + 1)
        (if sink.chunk = 0 then 0 else sink.share bytes)) := by
  have hleft := Sink.min_chunk_mul_acceptingCalls_lt hbytes hexcess
  rw [sink.deliver_after_calls bytes _ (Nat.le_refl _) (by omega)]
  rw [sink.min_chunk_mul_acceptingCalls] at hleft ⊢
  apply sink.deliver_fed_of_stuck hleft (by omega)
  · split <;> omega
  · split <;> omega

/-! ## Delivering a printed tree -/

/-- Delivering a tree that can be printed is delivering the bytes of its text. -/
theorem deliverTree_of_render_eq_ok {node : Option Node} {level : UInt64} {text : String}
    (h : render node level = .ok text) {sink after : Sink} {outcome : Except SinkError Unit}
    (hdeliver : sink.deliver (utf8Bytes text) = (outcome, after)) :
    deliverTree sink node level = (outcome.mapError .refused, after) := by
  rw [deliverTree, h]
  simp only [hdeliver]

/-- A sink receives a prefix of the bytes of a printed tree, with an exact outcome.

A text without bytes is delivered without a call. Any other is delivered exactly when the chunks
are not empty, its bytes fit and the failing call is none of those it takes, which are as many as
the chunks; then all its bytes are accepted. Otherwise the failing call ends the delivery if it
comes among the calls that could accept something, or right after them when bytes are left, and
the chunks of the calls before it were accepted. If it does not, the delivery ends with the first
call that finds no room, or with the first call when the chunks are empty. -/
theorem deliverTree_accepts_prefix {node : Option Node} {level : UInt64} {text : String}
    (hrender : render node level = .ok text) (capacity chunk failCall : Nat) :
    let bytes := utf8Bytes text
    let sink : Sink := { capacity, chunk, failCall }
    let answer := deliverTree sink node level
    let accepting := min bytes.length capacity ⌈/⌉ chunk
    (bytes.length = 0 → answer = (.ok (), sink)) ∧
    (bytes.length ≠ 0 →
      (answer.1 = .ok () ↔ 0 < chunk ∧ bytes.length ≤ capacity ∧
        ¬ (1 ≤ failCall ∧ failCall ≤ bytes.length ⌈/⌉ chunk)) ∧
      (answer.1 = .ok () →
        answer.2 = sink.fed bytes (bytes.length ⌈/⌉ chunk) bytes.length) ∧
      (answer.1 ≠ .ok () →
        if 1 ≤ failCall ∧ failCall ≤ accepting ∨
            failCall = accepting + 1 ∧ (chunk = 0 ∨ capacity < bytes.length) then
          answer = (.error (.refused .callFailed), sink.fed bytes failCall
            (min (min bytes.length capacity) (chunk * (failCall - 1))))
        else
          answer = (.error (.refused .nothingAccepted), sink.fed bytes (accepting + 1)
            (if chunk = 0 then 0 else min bytes.length capacity)))) := by
  intro bytes sink answer accepting
  have hanswer {outcome : Except SinkError Unit} {after : Sink}
      (h : (sink.fed bytes 0 0).deliver bytes = (outcome, after)) :
      answer = (outcome.mapError .refused, after) := deliverTree_of_render_eq_ok hrender h
  have hallCalls : bytes.length ≤ capacity → accepting = bytes.length ⌈/⌉ chunk := fun hfits => by
    rw [show accepting = min bytes.length capacity ⌈/⌉ chunk from rfl, Nat.min_eq_left hfits]
  refine ⟨fun hnone => ?_, fun hbytes => ?_⟩
  · have hempty : bytes = [] := List.length_eq_zero_iff.mp hnone
    have hdone : (sink.fed bytes 0 0).deliver bytes = (.ok (), sink) := by
      rw [hempty, Sink.deliver]
      rfl
    exact hanswer hdone
  by_cases hfails : 1 ≤ failCall ∧ failCall ≤ accepting ∨
      failCall = accepting + 1 ∧ (chunk = 0 ∨ capacity < bytes.length)
  · have hfailed := hanswer (sink.deliver_of_fails hbytes hfails)
    have hrefused : answer.1 ≠ .ok () := by simp [hfailed, Except.mapError]
    refine ⟨⟨fun h => absurd h hrefused, ?_⟩, fun h => absurd h hrefused, fun _ => ?_⟩
    · rintro ⟨hchunk, hfits, hcalls⟩
      rw [← hallCalls hfits] at hcalls
      omega
    · rw [if_pos hfails, hfailed, Nat.min_comm]
      rfl
  by_cases hfits : 0 < chunk ∧ bytes.length ≤ capacity
  · have hcalls : ¬ (1 ≤ failCall ∧ failCall ≤ accepting) := fun h => hfails (.inl h)
    have hdone := hanswer (sink.deliver_of_fits hfits.1 hfits.2 hcalls)
    have haccepted : answer.1 = .ok () := by rw [hdone, Except.mapError]
    rw [← hallCalls hfits.2]
    refine ⟨⟨fun _ => ⟨hfits.1, hfits.2, hcalls⟩, fun _ => haccepted⟩, fun _ => ?_,
      fun h => absurd haccepted h⟩
    rw [hdone]
    rfl
  · have hexcess : chunk = 0 ∨ capacity < bytes.length := by omega
    have hcalls : ¬ (1 ≤ failCall ∧ failCall ≤ accepting + 1) := by omega
    have hended := hanswer (sink.deliver_of_excess hbytes hexcess hcalls)
    have hrefused : answer.1 ≠ .ok () := by simp [hended, Except.mapError]
    refine ⟨⟨fun h => absurd h hrefused, fun h => absurd ⟨h.1, h.2.1⟩ hfits⟩,
      fun h => absurd h hrefused, fun _ => ?_⟩
    rw [if_neg hfails, hended]
    rfl

/-- The room ends inside a character, and the sink fails on the call that would have found none. -/
theorem deliverTree_accepts_prefix_of_character :
    render (some (Node.reference "é")) 0 = .ok "Var: é\n" ∧
      deliverTree { capacity := 6, chunk := 4, failCall := 3 } (some (Node.reference "é")) 0 =
        (.error (.refused .callFailed),
          { capacity := 6, chunk := 4, failCall := 3, calls := 3
            received := #[0x56, 0x61, 0x72, 0x3a, 0x20, 0xc3] }) := by
  have hrender : render (some (Node.reference "é")) 0 = .ok "Var: é\n" := rfl
  obtain ⟨-, hnonempty⟩ := deliverTree_accepts_prefix hrender 6 4 3
  obtain ⟨haccepted, -, hrefused⟩ := hnonempty (by decide)
  have hfailed := hrefused (mt haccepted.mp (by decide))
  exact ⟨hrender, (if_pos (by decide)).mp hfailed⟩

end ProgramTree
