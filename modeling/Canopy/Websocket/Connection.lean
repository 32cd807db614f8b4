/-
# The callbacks of the WebSocket demo's connection

`demos/websocket/server/ws_client_connection.cpp` runs a wslay server context
over a coroutine stream.  `run` copies what the stream received into
`read_buffer_`, sets `read_buffer_pos_` to `0` and calls `wslay_event_recv`,
which pulls the bytes through `recv_callback`; `wslay_event_send` pushes frames
out through `send_callback`.

| callback | lines | what it does |
| --- | --- | --- |
| `recv_callback` | 177-195 | copies `min(len, available)` bytes at the cursor, or sets `WSLAY_ERR_WOULDBLOCK` |
| `send_callback` | 141-174 | fails at once on a closed stream, else passes the frame to `stream_->send`; a failure other than `would_block` marks the stream closed |

Over any sequence of calls after a receive, `recv_callback` never copies more
than wslay asked for, and the bytes it hands out are the received ones, in
order, each once, all of them once it has reported that it would block
(`recvCalls_received`).  `send_callback` gives the stream the frames up to the
first failed send and none after it (`sendCalls_sends`).

What wslay does between the callbacks, and `on_msg_recv_callback`, which
dispatches on wslay's opcodes and on the result of `rpc::from_protobuf`, are
left out: both are libraries outside `src/`.
-/

import Mathlib.Data.List.Basic

namespace Canopy
namespace Websocket

/-! ### `recv_callback` -/

/-- The bytes `run` last received (`read_buffer_`) and the cursor
`read_buffer_pos_`, which never passes their end. -/
structure ReadBuffer where
  bytes : List UInt8
  pos : Nat
  pos_le : pos ≤ bytes.length

/-- `read_buffer_.assign(recv_span.begin(), recv_span.end())` and
`read_buffer_pos_ = 0` in `run`. -/
def ReadBuffer.received (data : List UInt8) : ReadBuffer := ⟨data, 0, Nat.zero_le _⟩

/-- What `recv_callback` returns to wslay: the bytes it copied into wslay's
buffer (their number is the return value), or `-1` after
`wslay_event_set_error(ctx, WSLAY_ERR_WOULDBLOCK)`. -/
inductive RecvResult where
  | copied (data : List UInt8)
  | wouldBlock
  deriving DecidableEq, Repr

/-- The bytes a result hands to wslay. -/
def RecvResult.data : RecvResult → List UInt8
  | copied d => d
  | wouldBlock => []

/-- `recv_callback` with wslay asking for `len` bytes. -/
def recvCallback (b : ReadBuffer) (len : Nat) : RecvResult × ReadBuffer :=
  if b.pos < b.bytes.length then
    (.copied ((b.bytes.drop b.pos).take (min len (b.bytes.length - b.pos))),
      ⟨b.bytes, b.pos + min len (b.bytes.length - b.pos), by have := b.pos_le; omega⟩)
  else (.wouldBlock, b)

/-- Successive calls of `recv_callback`, wslay asking for the lengths `lens`. -/
def recvCalls : ReadBuffer → List Nat → List RecvResult × ReadBuffer
  | b, [] => ([], b)
  | b, len :: lens =>
    ((recvCallback b len).1 :: (recvCalls (recvCallback b len).2 lens).1, (recvCalls (recvCallback b len).2 lens).2)

section Recv

variable (b : ReadBuffer) (len : Nat)

@[simp] theorem recvCallback_bytes : (recvCallback b len).2.bytes = b.bytes := by
  unfold recvCallback; split <;> rfl

/-- **One call.**  The bytes handed out are those after the cursor, up to where
it moves; there are at most `len` of them, and the callback reports that it
would block only when the cursor is at the end. -/
theorem recvCallback_spec :
    (recvCallback b len).1.data = (b.bytes.drop b.pos).take ((recvCallback b len).2.pos - b.pos) ∧
      b.pos ≤ (recvCallback b len).2.pos ∧ (recvCallback b len).1.data.length ≤ len ∧
      ((recvCallback b len).1 = .wouldBlock → (recvCallback b len).2.pos = b.bytes.length) := by
  unfold recvCallback
  split
  · refine ⟨by simp [RecvResult.data], by simp, ?_, fun h => by cases h⟩
    simp only [RecvResult.data, List.length_take, List.length_drop]
    omega
  · have := b.pos_le
    exact ⟨by simp [RecvResult.data], le_rfl, by simp [RecvResult.data], fun _ => by dsimp only; omega⟩

end Recv

/-- **Every call.**  Over successive calls, the bytes handed out are those after
the starting cursor, in order, up to where it ends; each call hands out at most
the length asked, and once one reports that it would block, the cursor is at
the end. -/
theorem recvCalls_spec : ∀ (lens : List Nat) (b : ReadBuffer),
    (recvCalls b lens).1.flatMap RecvResult.data = (b.bytes.drop b.pos).take ((recvCalls b lens).2.pos - b.pos) ∧
      b.pos ≤ (recvCalls b lens).2.pos ∧ (recvCalls b lens).2.bytes = b.bytes ∧
      (∀ p ∈ (recvCalls b lens).1.zip lens, p.1.data.length ≤ p.2) ∧
      (.wouldBlock ∈ (recvCalls b lens).1 → (recvCalls b lens).2.pos = b.bytes.length)
  | [], b => ⟨by simp [recvCalls], le_rfl, rfl, by simp [recvCalls], by simp [recvCalls]⟩
  | len :: lens, b => by
    obtain ⟨hd, hle, hlen, hwb⟩ := recvCallback_spec b len
    obtain ⟨ihd, ihle, ihb, ihlen, ihwb⟩ := recvCalls_spec lens (recvCallback b len).2
    rw [recvCallback_bytes] at ihd ihb ihwb
    refine ⟨?_, hle.trans ihle, ihb, ?_, ?_⟩
    · obtain ⟨k, hk⟩ : ∃ k, (recvCallback b len).2.pos = b.pos + k := ⟨_, (Nat.add_sub_cancel' hle).symm⟩
      obtain ⟨k', hk'⟩ : ∃ k', (recvCalls (recvCallback b len).2 lens).2.pos = (recvCallback b len).2.pos + k' :=
        ⟨_, (Nat.add_sub_cancel' ihle).symm⟩
      simp only [recvCalls]
      have hsum : b.pos + k + k' - b.pos = k + k' := by omega
      rw [List.flatMap_cons, hd, ihd, hk', hk, ← List.drop_drop, hsum, Nat.add_sub_cancel_left,
        Nat.add_sub_cancel_left, List.take_add]
    · simp only [recvCalls, List.zip_cons_cons, List.mem_cons]
      rintro p (rfl | hp)
      exacts [hlen, ihlen p hp]
    · simp only [recvCalls, List.mem_cons]
      rintro (h | h)
      · have hlast := (recvCalls (recvCallback b len).2 lens).2.pos_le
        rw [ihb] at hlast
        have := hwb h.symm
        omega
      · exact ihwb h

/-- **No byte lost, repeated or overrun.**  After `run` stores what the stream
received, the calls of `recv_callback` hand wslay the received bytes up to the
cursor, in order, each call no more than it asked for; once a call has reported
that it would block, they have handed out every received byte. -/
theorem recvCalls_received (data : List UInt8) (lens : List Nat) :
    (recvCalls (.received data) lens).1.flatMap RecvResult.data = data.take (recvCalls (.received data) lens).2.pos ∧
      (∀ p ∈ (recvCalls (.received data) lens).1.zip lens, p.1.data.length ≤ p.2) ∧
      (.wouldBlock ∈ (recvCalls (.received data) lens).1 →
        (recvCalls (.received data) lens).1.flatMap RecvResult.data = data) := by
  obtain ⟨hd, -, -, hlen, hwb⟩ := recvCalls_spec lens (.received data)
  simp only [ReadBuffer.received, List.drop_zero, Nat.sub_zero] at hd hwb
  exact ⟨hd, hlen, fun h => hd.trans (by rw [hwb h, List.take_length])⟩

/-- Three bytes, wslay asking for two at a time. -/
example : (recvCalls (.received [1, 2, 3]) [2, 2, 2]).1 = [.copied [1, 2], .copied [3], .wouldBlock] := by
  decide

/-! ### `send_callback` -/

/-- What `stream_->send` reports: `ok` with the number of bytes it left unsent,
`would_block`, or another status. -/
inductive SendStatus where
  | ok (remaining : Nat)
  | wouldBlock
  | failed
  deriving DecidableEq, Repr

/-- What `send_callback` returns to wslay: the number of bytes sent, or `-1`
after setting `WSLAY_ERR_WOULDBLOCK` or `WSLAY_ERR_CALLBACK_FAILURE`. -/
inductive SendResult where
  | sent (count : Nat)
  | wouldBlock
  | callbackFailure
  deriving DecidableEq, Repr

/-- The stream as the callbacks see it: whether `set_closed` was called on it,
and the frames passed to `send`, in order. -/
structure Stream where
  closed : Bool
  sends : List (List UInt8)

/-- `send_callback` on the bytes `data` of a frame, the stream reporting `status`
if it is called. -/
def sendCallback (s : Stream) (data : List UInt8) (status : SendStatus) : SendResult × Stream :=
  if s.closed then (.callbackFailure, s)
  else match status with
    | .ok remaining => (.sent (data.length - remaining), { s with sends := s.sends ++ [data] })
    | .wouldBlock => (.wouldBlock, { s with sends := s.sends ++ [data] })
    | .failed => (.callbackFailure, { closed := true, sends := s.sends ++ [data] })

/-- Successive calls of `send_callback`, each with its frame and what the stream
reports. -/
def sendCalls : Stream → List (List UInt8 × SendStatus) → List SendResult × Stream
  | s, [] => ([], s)
  | s, c :: calls =>
    ((sendCallback s c.1 c.2).1 :: (sendCalls (sendCallback s c.1 c.2).2 calls).1,
      (sendCalls (sendCallback s c.1 c.2).2 calls).2)

/-- On a closed stream every call fails at once, and the stream is left as it is. -/
theorem sendCalls_of_closed {s : Stream} (h : s.closed = true) :
    ∀ calls : List (List UInt8 × SendStatus), sendCalls s calls = (calls.map fun _ => .callbackFailure, s)
  | [] => rfl
  | c :: calls => by
    simp only [sendCalls, sendCallback, h, if_true, sendCalls_of_closed h calls, List.map_cons]

theorem sendCallback_open {s : Stream} {data : List UInt8} {status : SendStatus} (h : s.closed = false)
    (hf : status ≠ .failed) : (sendCallback s data status).2 = { s with sends := s.sends ++ [data] } := by
  cases status <;> simp_all [sendCallback]

theorem sendCalls_open : ∀ (calls : List (List UInt8 × SendStatus)) (s : Stream), s.closed = false →
    (sendCalls s calls).2 =
        ⟨calls.any (·.2 == .failed), s.sends ++ (calls.take (calls.findIdx (·.2 == .failed) + 1)).map Prod.fst⟩ ∧
      ∀ r ∈ (sendCalls s calls).1.drop (calls.findIdx (·.2 == .failed) + 1), r = .callbackFailure
  | [], s, h => by simp [sendCalls, ← h]
  | (data, status) :: calls, s, h => by
    by_cases hf : status = .failed
    · subst hf
      have hc := sendCalls_of_closed (s := ⟨true, s.sends ++ [data]⟩) rfl calls
      simp only [sendCalls, sendCallback, h, Bool.false_eq_true, if_false, hc, List.findIdx_cons]
      simp
    · obtain ⟨ih, ihr⟩ := sendCalls_open calls { s with sends := s.sends ++ [data] } h
      have hb : (status == .failed) = false := by simpa using hf
      simp only [sendCalls, sendCallback_open h hf, List.findIdx_cons, hb, cond_false, List.any_cons,
        Bool.false_or, List.take_succ_cons, List.map_cons, List.drop_succ_cons, ih]
      exact ⟨by simp, ihr⟩

/-- **Nothing is sent after a failure.**  From an open stream, `send_callback`
passes the stream the frames up to the first whose send failed and none after
it; the stream is marked closed exactly when one failed, and every call after
that one fails with `WSLAY_ERR_CALLBACK_FAILURE`. -/
theorem sendCalls_sends (calls : List (List UInt8 × SendStatus)) :
    (sendCalls ⟨false, []⟩ calls).2.sends = (calls.take (calls.findIdx (·.2 == .failed) + 1)).map Prod.fst ∧
      ((sendCalls ⟨false, []⟩ calls).2.closed = true ↔ ∃ c ∈ calls, c.2 = .failed) ∧
      ∀ r ∈ (sendCalls ⟨false, []⟩ calls).1.drop (calls.findIdx (·.2 == .failed) + 1), r = .callbackFailure := by
  obtain ⟨h, hr⟩ := sendCalls_open calls ⟨false, []⟩ rfl
  rw [h]
  exact ⟨List.nil_append _, by simp, hr⟩

end Websocket
end Canopy
