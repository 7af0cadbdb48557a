import SnakeSocks.Lib.Bytes

/-!
# Length-prefixed frames

A frame is the length of its body as `k` bytes in network order and then the body. `deframe` cuts a byte stream into
bodies; on a stream made of whole frames it gives them back.
-/

namespace Frames

open ByteLib

def frame (k : Nat) (body : Bytes) : Bytes := beBytes k body.length ++ body

/-- The first body of a stream and what is behind it. -/
def unframe (k : Nat) (bs : Bytes) : Option (Bytes × Bytes) :=
  let n := beNat (bs.take k)
  if k + n ≤ bs.length then some (slice bs k n, bs.drop (k + n)) else none

/-- At most `fuel` bodies. -/
def deframeAux (k : Nat) : Nat → Bytes → List Bytes
  | 0, _ => []
  | fuel + 1, bs =>
    match unframe k bs with
    | some (body, rest) => body :: deframeAux k fuel rest
    | none => []

/-- The bodies of a stream. With a header of at least one byte there are at most as many as there are bytes. -/
def deframe (k : Nat) (bs : Bytes) : List Bytes := deframeAux k bs.length bs

def stream (k : Nat) (bodies : List Bytes) : Bytes := (bodies.map (frame k)).flatten

section
variable {k : Nat} {body : Bytes}

@[simp] theorem length_frame (k : Nat) (body : Bytes) : (frame k body).length = k + body.length := by
  simp [frame]

@[simp] theorem stream_nil (k : Nat) : stream k [] = [] := rfl

theorem stream_cons (k : Nat) (body : Bytes) (bodies : List Bytes) :
    stream k (body :: bodies) = frame k body ++ stream k bodies := rfl

theorem stream_append (k : Nat) (as bs : List Bytes) : stream k (as ++ bs) = stream k as ++ stream k bs := by
  simp [stream]

theorem stream_singleton (k : Nat) (body : Bytes) : stream k [body] = frame k body := by
  simp [stream]

theorem take_frame (k : Nat) (body rest : Bytes) : (frame k body ++ rest).take k = beBytes k body.length := by
  rw [frame, List.append_assoc, List.take_left' (by simp)]

theorem drop_frame (k : Nat) (body rest : Bytes) : (frame k body ++ rest).drop k = body ++ rest := by
  rw [frame, List.append_assoc, List.drop_left' (by simp)]

theorem unframe_frame (h : body.length < 256 ^ k) (rest : Bytes) :
    unframe k (frame k body ++ rest) = some (body, rest) := by
  have hn : beNat ((frame k body ++ rest).take k) = body.length := by
    rw [take_frame, beNat_beBytes k _ h]
  have hle : k + body.length ≤ (frame k body ++ rest).length := by simp
  simp only [unframe, hn, if_pos hle, slice]
  rw [← List.drop_drop, drop_frame, List.take_left, List.drop_left]

theorem deframeAux_stream (hk : 0 < k) (bodies : List Bytes) (hb : ∀ b ∈ bodies, b.length < 256 ^ k) (fuel : Nat)
    (hf : bodies.length ≤ fuel) : deframeAux k fuel (stream k bodies) = bodies := by
  induction bodies generalizing fuel with
  | nil =>
    cases fuel with
    | zero => rfl
    | succ fuel =>
      have hne : k ≠ 0 := by omega
      simp [deframeAux, unframe, beNat, leNat, hne]
  | cons body bodies ih =>
    cases fuel with
    | zero => simp at hf
    | succ fuel =>
      have ht := ih (fun b hm => hb b (by simp [hm])) fuel (by simpa using hf)
      rw [stream_cons, deframeAux, unframe_frame (hb body (by simp))]
      simp only [ht]

theorem length_le_length_stream (hk : 0 < k) (bodies : List Bytes) : bodies.length ≤ (stream k bodies).length := by
  induction bodies with
  | nil => simp
  | cons body bodies ih =>
    simp only [stream_cons, List.length_append, List.length_cons, length_frame]
    omega

/-- A stream of whole frames is cut where it was put together. -/
theorem deframe_stream (hk : 0 < k) {bodies : List Bytes} (hb : ∀ b ∈ bodies, b.length < 256 ^ k) :
    deframe k (stream k bodies) = bodies :=
  deframeAux_stream hk bodies hb _ (length_le_length_stream hk bodies)

end

end Frames
