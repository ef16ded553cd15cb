import Mathlib.Data.List.Basic

/-!
This module contains the buffer in which the data of a stream socket is collected, and the reception
of data into it. `recv` delivers any number of the bytes that are waiting in the socket.
-/

namespace PrplMesh

open List

@[ext]
structure BufferImpl (size : Nat) where
  -- up to the length of the contents, the bytes behind it are zero
  data : List UInt8
  length_le : data.length ≤ size
  deriving DecidableEq

namespace BufferImpl

variable {size : Nat}

def length (buffer : BufferImpl size) : Nat :=
  buffer.data.length

def empty : BufferImpl size where
  data := []
  length_le := Nat.zero_le size

variable (bs : List UInt8)

def full : BufferImpl bs.length where
  data := bs
  length_le := Nat.le_refl _

def append (buffer : BufferImpl size) : Bool × BufferImpl size :=
  if h : buffer.length + bs.length > size then
    (false, buffer)
  else
    (true,
      { data := buffer.data ++ bs
        length_le := by
          rw [length_append]
          exact Nat.le_of_not_gt h })

def shift (count : Nat) (buffer : BufferImpl size) : Bool × BufferImpl size :=
  if count > buffer.length then
    (false, buffer)
  else
    (true,
      { data := buffer.data.drop count
        length_le := by
          have := buffer.length_le
          rw [length_drop]
          omega })

@[simp]
theorem data_empty : (empty : BufferImpl size).data = [] := rfl

@[simp]
theorem data_full : (full bs).data = bs := rfl

theorem append_of_le {bs : List UInt8} {buffer : BufferImpl size}
    (h : buffer.length + bs.length ≤ size)
    : (append bs buffer).1 ∧ (append bs buffer).2.data = buffer.data ++ bs := by
  unfold append
  have hle : ¬buffer.length + bs.length > size := Nat.not_lt.mpr h
  simp only [hle, ↓reduceDIte, and_self]

theorem data_shift {count : Nat} {buffer : BufferImpl size} (h : count ≤ buffer.length)
    : (shift count buffer).2.data = buffer.data.drop count := by
  unfold shift
  have hle : ¬count > buffer.length := Nat.not_lt.mpr h
  simp only [hle, ↓reduceIte]

end BufferImpl

namespace SocketConnectionImpl

variable (count : Nat) (socket : List UInt8) {size : Nat} (buffer : BufferImpl size)

/--
There are some bytes waiting in the socket, `recv` delivers `count` of them but not more than
requested. The result is negative if there is nothing to deliver.
-/
def receive : Int × List UInt8 × BufferImpl size :=
  if buffer.length ≥ size then
    (-1, socket, buffer)
  else
    let bs := socket.take (min count (size - buffer.length))
    if bs = [] then
      (-1, socket, buffer)
    else
      (bs.length, socket.drop bs.length,
        { data := buffer.data ++ bs
          length_le := by
            have := buffer.length_le
            simp only [length_append, length_take, bs]
            unfold BufferImpl.length
            omega })

def received : List UInt8 :=
  socket.take (min count (size - buffer.length))

section Receive

variable {count} {socket} {buffer}

theorem received_of_full (h : buffer.length ≥ size) : received count socket buffer = [] := by
  unfold received
  rw [Nat.sub_eq_zero_of_le h]
  simp

variable (count socket buffer) in
theorem data_receive
    : (receive count socket buffer).2.2.data = buffer.data ++ received count socket buffer := by
  unfold receive
  split
  next h => simp [received_of_full h]
  next h =>
    dsimp
    split
    next hnil => simp [received, hnil]
    next hnil => rfl

variable (count socket buffer) in
theorem received_append_socket_receive
    : received count socket buffer ++ (receive count socket buffer).2.1 = socket := by
  unfold receive
  split
  next h => simp [received_of_full h]
  next h =>
  dsimp
  split
  next hnil => simp [received, hnil]
  next hnil =>
  change received count socket buffer
    ++ socket.drop (received count socket buffer).length = socket
  unfold received
  rw [length_take]
  by_cases hle : min count (size - buffer.length) ≤ socket.length
  . rw [Nat.min_eq_left hle, take_append_drop]
  . rw [take_of_length_le (by omega), drop_eq_nil_of_le (by omega)]
    simp

theorem receive_of_received_eq_nil (h : received count socket buffer = [])
    : receive count socket buffer = (-1, socket, buffer) := by
  unfold receive
  split
  . rfl
  . dsimp
    split
    . rfl
    next hne => exact absurd h hne

theorem receive_pos_iff
    : 0 < (receive count socket buffer).1 ↔ received count socket buffer ≠ [] := by
  unfold receive
  split
  next h => simp [received_of_full h]
  next h =>
    dsimp
    split
    next hnil => simp [received, hnil]
    next hnil =>
      simp only [received, hnil, not_false_eq_true, iff_true]
      have := length_pos_iff.mpr hnil
      omega

theorem received_eq_nil_of_nonpos (h : (receive count socket buffer).1 ≤ 0)
    : received count socket buffer = [] := by
  by_contra hne
  exact absurd (receive_pos_iff.mpr hne) (Int.not_lt.mpr h)

end Receive

end SocketConnectionImpl

end PrplMesh
