import SnakeSocks.Lib.CMem
import SnakeSocks.Lib.Effects

/-!
# Socket helpers of `rlib/sys/sio.hpp`

| here | there |
| --- | --- |
| `recvn`, `recvnEx`   | `sockIO::recvn` (`sio.hpp:507`), `recvn_ex` (`:597`) |
| `sendn`, `sendnEx`   | `sockIO::sendn` (`sio.hpp:529`), `sendn_ex` (`:602`) |

The peer and the kernel are a script of what each call finds, so a theorem over all scripts is a theorem
over every byte stream and every way the calls split it. A local array is a list of cells that may be
unwritten, and a `recv` stores straight into it.
-/

namespace SnakeSocks.Sio

open ByteLib CMem
open Effects (bind_of_ok bind_of_error of_bind_eq_ok)

/-! ## The connection -/

/-- What one `recv` finds: waiting bytes (none at all is an orderly end), or a signal. When the script is
used up every further call fails. -/
inductive RecvEv where
  | data (bs : Bytes)
  | eintr
deriving DecidableEq

/-- What one `send` does: take `n` bytes, or report a signal. -/
inductive SendEv where
  | wrote (n : Nat)
  | eintr
deriving DecidableEq

/-- A connected socket: the script of both directions and the bytes sent so far. -/
structure Sock where
  inp : List RecvEv
  outp : List SendEv
  sent : Bytes

/-- How a function ends early: undefined behaviour, or a C++ exception. -/
inductive Stop where
  | fault (f : Fault)
  | exn (what : String)
deriving DecidableEq

/-- Native code over one connection; the socket survives an exception. -/
abbrev Prog := EStateM Stop Sock

def liftMem {α : Type} (x : Except Fault α) : Prog α := fun s =>
  match x with
  | .ok a => .ok a s
  | .error f => .error (.fault f) s

/-- `die` (`syserr.hpp`). -/
def die {α : Type} (msg : String) : Prog α := fun s => .error (.exn msg) s

/-! ## `recvn` -/

/-- `recvn`: loop until `nleft` bytes are stored at `off`. `none` is the return value -1. -/
def recvn : List RecvEv → Cells → Nat → Nat → Except Fault (Option (Cells × List RecvEv))
  | evs, blk, _, 0 => .ok (some (blk, evs))
  | [], _, _, _ + 1 => .ok none
  | .eintr :: evs, blk, off, n + 1 => recvn evs blk off (n + 1)
  | .data bs :: evs, blk, off, n + 1 =>
    if bs = [] then .ok none
    else if bs.length ≤ n + 1 then do
      let blk ← store blk off (bs.map some)
      recvn evs blk (off + bs.length) (n + 1 - bs.length)
    else do
      -- the kernel keeps what does not fit in this call
      let blk ← store blk off ((bs.take (n + 1)).map some)
      return some (blk, .data (bs.drop (n + 1)) :: evs)

/-- `recvn_ex`. The text of `strerror` is left out of the message. -/
def recvnEx (blk : Cells) (off n : Nat) : Prog Cells := fun s =>
  match recvn s.inp blk off n with
  | .ok (some (blk, rest)) => .ok blk { s with inp := rest }
  | .ok none => .error (.exn "recvn failed.") { s with inp := [] }
  | .error f => .error (.fault f) s

/-- The bytes a script delivers before it ends. -/
def delivered : List RecvEv → Bytes
  | [] => []
  | .eintr :: evs => delivered evs
  | .data bs :: evs => if bs = [] then [] else bs ++ delivered evs

/-- Enough bytes and enough room: `recvn` stores exactly the next `n` bytes. -/
theorem recvn_ok : ∀ (evs : List RecvEv) (blk : Cells) (off n : Nat), n ≤ (delivered evs).length →
    off + n ≤ blk.length → ∃ rest, delivered rest = (delivered evs).drop n ∧
      recvn evs blk off n = .ok (some (splice blk off (((delivered evs).take n).map some), rest))
  | evs, blk, off, 0, _, _ => ⟨evs, by simp, by simp [recvn, splice]⟩
  | [], _, _, n + 1, h, _ => by simp [delivered] at h
  | .eintr :: evs, blk, off, n + 1, h, hb => by
    obtain ⟨rest, hr, he⟩ := recvn_ok evs blk off (n + 1) (by simpa [delivered] using h) hb
    exact ⟨rest, by simpa [delivered] using hr, by simpa [recvn, delivered] using he⟩
  | .data bs :: evs, blk, off, n + 1, h, hb => by
    by_cases hz : bs = []
    · simp [delivered, hz] at h
    have hd : delivered (.data bs :: evs) = bs ++ delivered evs := by simp [delivered, hz]
    rw [hd] at h ⊢
    by_cases hle : bs.length ≤ n + 1
    · -- the whole chunk is taken, the loop goes on behind it
      have hst : store blk off (bs.map some) = .ok (splice blk off (bs.map some)) :=
        store_ok (by simp; omega)
      have hl : (splice blk off (bs.map some)).length = blk.length := length_splice (by simp; omega)
      obtain ⟨rest, hr, he⟩ := recvn_ok evs (splice blk off (bs.map some)) (off + bs.length)
        (n + 1 - bs.length) (by simp at h; omega) (by omega)
      refine ⟨rest, ?_, ?_⟩
      · rw [hr, List.drop_append, List.drop_of_length_le hle, List.nil_append]
      · rw [recvn, if_neg hz, if_pos hle, hst, ok_bind, he, List.take_append, List.take_of_length_le hle,
          List.map_append, ← splice_splice (by omega), List.length_map]
    · have hst : store blk off ((bs.take (n + 1)).map some) = .ok (splice blk off ((bs.take (n + 1)).map some)) :=
        store_ok (by simp; omega)
      have hne : bs.drop (n + 1) ≠ [] := by
        intro h0
        have := congrArg List.length h0
        simp at this
        omega
      refine ⟨.data (bs.drop (n + 1)) :: evs, ?_, ?_⟩
      · rw [delivered, if_neg hne, List.drop_append_of_le_length (by omega)]
      · rw [recvn, if_neg hz, if_neg hle, hst, List.take_append_of_le_length (by omega)]
        rfl

/-- Too few bytes, but room for them: the call fails. -/
theorem recvn_eof : ∀ (evs : List RecvEv) (blk : Cells) (off n : Nat), (delivered evs).length < n →
    off + (delivered evs).length ≤ blk.length → recvn evs blk off n = .ok none
  | _, _, _, 0, h, _ => by simp at h
  | [], _, _, _ + 1, _, _ => by simp [recvn]
  | .eintr :: evs, blk, off, n + 1, h, hb => by
    have ih := recvn_eof evs blk off (n + 1) (by simpa [delivered] using h) (by simpa [delivered] using hb)
    simpa [recvn] using ih
  | .data bs :: evs, blk, off, n + 1, h, hb => by
    by_cases hz : bs = []
    · simp [recvn, hz]
    have hd : delivered (.data bs :: evs) = bs ++ delivered evs := by simp [delivered, hz]
    rw [hd, List.length_append] at h hb
    have hst : store blk off (bs.map some) = .ok (splice blk off (bs.map some)) := store_ok (by simp; omega)
    have hl : (splice blk off (bs.map some)).length = blk.length := length_splice (by simp; omega)
    have ih := recvn_eof evs (splice blk off (bs.map some)) (off + bs.length) (n + 1 - bs.length) (by omega)
      (by omega)
    rw [recvn, if_neg hz, if_pos (by omega), hst, ok_bind, ih]

/-- More bytes than room: some call stores past the end. -/
theorem recvn_overrun : ∀ (evs : List RecvEv) (blk : Cells) (off n : Nat),
    blk.length < off + n → blk.length < off + (delivered evs).length → off ≤ blk.length →
    recvn evs blk off n = .error .writeOutside
  | _, _, _, 0, h, _, ho => by omega
  | [], _, _, _ + 1, _, h, ho => by simp [delivered] at h; omega
  | .eintr :: evs, blk, off, n + 1, hn, h, ho => by
    have ih := recvn_overrun evs blk off (n + 1) hn (by simpa [delivered] using h) ho
    simpa [recvn] using ih
  | .data bs :: evs, blk, off, n + 1, hn, h, ho => by
    by_cases hz : bs = []
    · simp [delivered, hz] at h; omega
    have hd : delivered (.data bs :: evs) = bs ++ delivered evs := by simp [delivered, hz]
    rw [hd, List.length_append] at h
    rw [recvn, if_neg hz]
    by_cases hle : bs.length ≤ n + 1
    · rw [if_pos hle]
      by_cases hfit : off + bs.length ≤ blk.length
      · have hl : (splice blk off (bs.map some)).length = blk.length := length_splice (by simp; omega)
        have ih := recvn_overrun evs (splice blk off (bs.map some)) (off + bs.length) (n + 1 - bs.length)
          (by omega) (by omega) (by omega)
        rw [store_ok (by simp; omega), ok_bind, ih]
      · rw [store, if_neg (by simp; omega)]
        rfl
    · rw [if_neg hle, store, if_neg (by simp; omega)]
      rfl

/-! ## `sendn` -/

/-- `sendn`: the bytes that went out, and the rest of the script unless the call returned -1. -/
def sendn : List SendEv → Bytes → Bytes × Option (List SendEv)
  | evs, [] => ([], some evs)
  | [], _ :: _ => ([], none)
  | .eintr :: evs, b :: bs => sendn evs (b :: bs)
  | .wrote 0 :: _, _ :: _ => ([], none)
  | .wrote (k + 1) :: evs, b :: bs =>
    let r := sendn evs (bs.drop k)
    (b :: bs.take k ++ r.1, r.2)

def sendnEx (bs : Bytes) : Prog Unit := fun s =>
  match sendn s.outp bs with
  | (w, some rest) => .ok () { s with outp := rest, sent := s.sent ++ w }
  | (w, none) => .error (.exn "sendn failed.") { s with outp := [], sent := s.sent ++ w }

/-- The script takes `n` bytes. -/
def takes : List SendEv → Nat → Bool
  | _, 0 => true
  | [], _ + 1 => false
  | .eintr :: evs, n + 1 => takes evs (n + 1)
  | .wrote 0 :: _, _ + 1 => false
  | .wrote (k + 1) :: evs, n + 1 => takes evs (n - k)

theorem sendn_ok : ∀ (evs : List SendEv) (bs : Bytes), takes evs bs.length = true →
    ∃ rest, sendn evs bs = (bs, some rest)
  | evs, [], _ => ⟨evs, by simp [sendn]⟩
  | [], _ :: _, h => by simp [takes] at h
  | .eintr :: evs, b :: bs, h => by
    obtain ⟨rest, hr⟩ := sendn_ok evs (b :: bs) (by simpa [takes] using h)
    exact ⟨rest, by simpa [sendn] using hr⟩
  | .wrote 0 :: _, _ :: _, h => by simp [takes] at h
  | .wrote (k + 1) :: evs, b :: bs, h => by
    obtain ⟨rest, hr⟩ := sendn_ok evs (bs.drop k) (by simpa [takes] using h)
    exact ⟨rest, by simp [sendn, hr]⟩

theorem sendn_fails : ∀ (evs : List SendEv) (bs : Bytes), takes evs bs.length = false →
    ∃ w, sendn evs bs = (w, none) ∧ w.length < bs.length
  | evs, [], h => by simp [takes] at h
  | [], _ :: _, _ => ⟨[], by simp [sendn]⟩
  | .eintr :: evs, b :: bs, h => by
    obtain ⟨w, hw, hl⟩ := sendn_fails evs (b :: bs) (by simpa [takes] using h)
    exact ⟨w, by simpa [sendn] using hw, hl⟩
  | .wrote 0 :: _, _ :: _, _ => ⟨[], by simp [sendn]⟩
  | .wrote (k + 1) :: evs, b :: bs, h => by
    obtain ⟨w, hw, hl⟩ := sendn_fails evs (bs.drop k) (by simpa [takes] using h)
    refine ⟨b :: bs.take k ++ w, by simp [sendn, hw], ?_⟩
    simp at hl ⊢
    omega

/-! ## Running native code -/

section
variable {α β : Type} {f : α → Prog β} {s : Sock}

theorem liftMem_bind_ok {m : Except Fault α} {a : α} (h : m = .ok a) : (liftMem m >>= f) s = f a s := by
  subst h
  exact bind_of_ok rfl

theorem liftMem_eq_ok {x : Except Fault α} {a : α} {s' : Sock} (h : liftMem x s = .ok a s') : x = .ok a := by
  cases x with
  | ok b =>
    cases h
    rfl
  | error f => cases h

theorem liftMem_bind_error {m : Except Fault α} {e : Fault} (h : m = .error e) :
    (liftMem m >>= f) s = .error (.fault e) s := by
  subst h
  exact bind_of_error rfl

end

/-- The run ended in undefined behaviour. -/
def Faults {α : Type} : EStateM.Result Stop Sock α → Prop
  | .error (.fault _) _ => True
  | _ => False

theorem eq_fault_of_faults {α : Type} {r : EStateM.Result Stop Sock α} (h : Faults r) : ∃ f s, r = .error (.fault f) s := by
  match r, h with
  | .error (.fault f) s, _ => exact ⟨f, s, rfl⟩

theorem faults_bind {α β : Type} {x : Prog α} {f : α → Prog β} {s : Sock} (h : Faults (x s)) :
    Faults ((x >>= f) s) := by
  cases hx : x s with
  | ok a s' => rw [hx] at h; exact h.elim
  | error e s' =>
    rw [hx] at h
    rw [bind_of_error hx]
    cases e with
    | fault m => trivial
    | exn m => exact h

/-- `recvn_ex` behind the bytes already received: enough bytes and room, too few bytes, or too little room. -/
theorem recvnEx_ok (bs : Bytes) (k n : Nat) {s : Sock} {d : Bytes} (hd : delivered s.inp = d) (h : n ≤ d.length)
    (hk : n ≤ k) :
    ∃ s', recvnEx (filled bs k) bs.length n s = .ok (filled (bs ++ d.take n) (k - n)) s' ∧
      delivered s'.inp = d.drop n ∧ s'.outp = s.outp ∧ s'.sent = s.sent := by
  subst hd
  obtain ⟨rest, hr, he⟩ := recvn_ok s.inp (filled bs k) bs.length n h (by simpa using hk)
  refine ⟨{ s with inp := rest }, ?_, hr, rfl, rfl⟩
  have hl : ((delivered s.inp).take n).length = n := by simpa using h
  rw [recvnEx, he, splice_filled, hl]

theorem recvnEx_eof (bs : Bytes) (k n : Nat) {s : Sock} {d : Bytes} (hd : delivered s.inp = d) (h : d.length < n)
    (hk : d.length ≤ k) :
    ∃ s', recvnEx (filled bs k) bs.length n s = .error (.exn "recvn failed.") s' := by
  subst hd
  have he := recvn_eof s.inp (filled bs k) bs.length n h (by simpa using hk)
  exact ⟨{ s with inp := [] }, by rw [recvnEx, he]⟩

theorem recvnEx_overrun (bs : Bytes) (k n : Nat) {s : Sock} {d : Bytes} (hd : delivered s.inp = d)
    (h : k < d.length) (hk : k < n) :
    ∃ s', recvnEx (filled bs k) bs.length n s = .error (.fault .writeOutside) s' := by
  subst hd
  have he := recvn_overrun s.inp (filled bs k) bs.length n (by simpa using hk) (by simpa using h) (by simp)
  exact ⟨s, by rw [recvnEx, he]⟩

theorem sendnEx_ok {bs : Bytes} {s : Sock} (h : takes s.outp bs.length = true) :
    ∃ s', sendnEx bs s = .ok () s' ∧ s'.inp = s.inp ∧ s'.sent = s.sent ++ bs := by
  obtain ⟨rest, hr⟩ := sendn_ok s.outp bs h
  exact ⟨{ s with outp := rest, sent := s.sent ++ bs }, by rw [sendnEx, hr], rfl, rfl⟩

theorem sendnEx_fails {bs : Bytes} {s : Sock} (h : takes s.outp bs.length = false) :
    ∃ s' w, sendnEx bs s = .error (.exn "sendn failed.") s' ∧ s'.sent = s.sent ++ w ∧ w.length < bs.length := by
  obtain ⟨w, hw, hl⟩ := sendn_fails s.outp bs h
  exact ⟨{ s with outp := [], sent := s.sent ++ w }, w, by rw [sendnEx, hw], rfl, hl⟩

end SnakeSocks.Sio
