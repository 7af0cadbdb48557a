import SnakeSocks.Lib.Owned
import SnakeSocks.Module.Aes
import SnakeSocks.Native.Calls

/-!
# The agreement about `malloc` and `free`

| here | there |
| --- | --- |
| `ServerModule`, `ClientModule` | the functions a module exports (`stdafx.h:59-79`) |
| `ServerAgreement`, `ClientAgreement` | "Agreement about malloc and free to binary_safe_string::str" (`stdafx.h:42-55`, `:71-72`) |
| `simpleServer`, `simpleClient` | `simple_proxy.c` |
| `seServer`, `seClient` | `se_proxy.c`, with the blocks of `AESEncrypt` and `AESDecrypt` (`aes.c:13-75`) |

A string passed to `encode`, `decode` or `server_make_auth_reply` changes hands, and so does the string that is returned;
`client_deal_auth_reply` only borrows its argument. Between two calls a module may keep one block in `additional_info`,
which the closing call releases. Whatever else it has allocated is `scratch`: nobody has a pointer to it any more.

The bytes a function works out are an outcome like any other (`authReply`, `encoded`, `decoded`); what is modelled here is
which blocks it takes and gives. A module writes to every block it allocates, so it does not survive a `malloc` that
returns `NULL`.
-/

namespace SnakeSocks.Heap

open ByteLib CMem Effects Ledger Owned

abbrev Block := Nat

/-- `none` is `NULL`. -/
abbrev Ptr := Option Block

/-- Who waits for the bytes of a packet. -/
inductive Receiver where
  | packet
  | authReply
  | dnsReply
  | data
deriving DecidableEq

inductive Call where
  | malloc (n : Nat)
  | free (p : Ptr)
  /-- `recvn` and the reads of `readall`, by the block they fill. -/
  | recvInto (who : Receiver) (p : Ptr) (fd n : Nat)
  | readInto (p : Ptr) (fd : Nat)
  /-- What a function of the module works out. -/
  | authQuery
  | authOk (reply : BinarySafeString)
  | authReply (query : BinarySafeString)
  | encoded (cq : ClientQuery)
  | decoded (data : BinarySafeString)
  | other (c : Native.Call)

abbrev Outcome : Call → Type
  | .malloc _ => Ptr
  | .free _ => Unit
  | .recvInto _ _ _ n => Option { bs : Bytes // bs.length = n }
  -- no more than the first buffer, see `Native/Readall.lean`
  | .readInto _ _ => Option { bs : Bytes // bs.length ≤ 1024 }
  | .authQuery => BinarySafeString
  -- the length of the session key, if the reply is accepted
  | .authOk _ => Option Nat
  -- the reply and `is_closing`
  | .authReply _ => BinarySafeString × Bool
  | .encoded _ => BinarySafeString
  | .decoded _ => ClientQuery
  | .other c => Native.Outcome c

abbrev Event := Sigma Outcome

inductive Lost where
  /-- A block that is not there is written to; the first byte of an empty string is read. -/
  | nullPointer
  | readOutside
  | native (l : Native.Lost)

/-- `additional_info` of the connection, beside what the session itself keeps. -/
structure Store (σ : Type) where
  inner : σ
  additionalInfo : Ptr

abbrev Prog (σ : Type) := Eff Outcome (Store σ) String Lost

def heapChange : Event → Change Block
  | ⟨.malloc _, some b⟩ => .opens b
  | ⟨.free (some b), _⟩ => .closes b
  | _ => .keeps

structure ServerModule (σ : Type) where
  makeAuthReply : Ptr → BinarySafeString → Prog σ (Ptr × BinarySafeString × Bool)
  encode : Ptr → ClientQuery → Prog σ (Ptr × BinarySafeString)
  decode : Ptr → BinarySafeString → Prog σ (Ptr × ClientQuery)
  connectionClose : Prog σ Unit

structure ClientModule (σ : Type) where
  makeAuthQuery : Prog σ (Ptr × BinarySafeString)
  dealAuthReply : BinarySafeString → Prog σ Bool
  encode : Ptr → ClientQuery → Prog σ (Ptr × BinarySafeString)
  decode : Ptr → BinarySafeString → Prog σ (Ptr × ClientQuery)
  connectionClose : Prog σ Unit

/-! ## The two modules -/

section
variable {σ : Type} (env : Env Outcome)

/-- `malloc` of a block that is written to. -/
def mallocd (n : Nat) : Prog σ Ptr := do
  match ← perform env (.malloc n) with
  | some b => return some b
  | none => lose .nullPointer

def setAdditionalInfo (p : Ptr) : Prog σ Unit := do
  let s ← getStore
  setStore { s with additionalInfo := p }

/-- The second half of all four decoders. A packet that is not correct has no payload either, and is freed too. -/
def unpackPayload (str : Ptr) (query : ClientQuery) : Prog σ (Ptr × ClientQuery) := do
  if query.payload.length ≠ 0 then
    let payload ← mallocd env query.payload.length.toNat
    let _ ← perform env (.free str)
    return (payload, query)
  else
    let _ ← perform env (.free str)
    return (none, query)

def simpleEncode (payload : Ptr) (cq : ClientQuery) : Prog σ (Ptr × BinarySafeString) := do
  let data ← mallocd env (28 + cq.payload.length.toNat - 1)
  let bss ← perform env (.encoded cq)
  let _ ← perform env (.free payload)
  return (data, bss)

def simpleDecode (str : Ptr) (data : BinarySafeString) : Prog σ (Ptr × ClientQuery) := do
  let query ← perform env (.decoded data)
  unpackPayload env str query

def simpleServer : ServerModule σ where
  makeAuthReply str _ := do
    let bss ← mallocd env 1
    let _ ← perform env (.free str)
    return (bss, .ofBlock [1], false)
  encode := simpleEncode env
  decode := simpleDecode env
  connectionClose := pure ()

def simpleClient : ClientModule σ where
  makeAuthQuery := do
    let query ← perform env .authQuery
    let str ← mallocd env query.length.toNat
    return (str, query)
  dealAuthReply reply :=
    match reply.bytes with
    | [] => lose .readOutside
    | ok :: _ => pure (decide (ok ≠ 0))
  encode := simpleEncode env
  decode := simpleDecode env
  connectionClose := pure ()

def aesEncrypt (srclen : Nat) : Prog σ Unit := do
  let rkey ← mallocd env 16
  let rsrc ← mallocd env (Aes.roundUp srclen 16)
  let _ ← perform env (.free rsrc)
  perform env (.free rkey)

def aesDecrypt : Prog σ Unit := do
  let rkey ← mallocd env 16
  perform env (.free rkey)

def seEncode (payload : Ptr) (cq : ClientQuery) : Prog σ (Ptr × BinarySafeString) := do
  let overallSize := 28 + cq.payload.length.toNat - 1
  let data ← mallocd env overallSize
  let encresult ← mallocd env (Aes.roundUp overallSize 16)
  aesEncrypt env overallSize
  let bss ← perform env (.encoded cq)
  let _ ← perform env (.free data)
  let _ ← perform env (.free payload)
  return (encresult, bss)

def seDecode (str : Ptr) (data : BinarySafeString) : Prog σ (Ptr × ClientQuery) := do
  let tmpresult ← mallocd env data.length.toNat
  aesDecrypt env
  let query ← perform env (.decoded data)
  let _ ← perform env (.free str)
  unpackPayload env tmpresult query

/-- `if(conn->additional_info != NULL) free(conn->additional_info)`. -/
def seConnectionClose : Prog σ Unit := do
  let s ← getStore
  match s.additionalInfo with
  | some b => perform env (.free (some b))
  | none => return ()

/-- `request` and `tmpenc` are not freed. -/
def seServer : ServerModule σ where
  makeAuthReply str data := do
    let _request ← mallocd env data.length.toNat
    aesDecrypt env
    let (reply, isClosing) ← perform env (.authReply data)
    if isClosing then
      let _ ← perform env (.free str)
      let bss ← mallocd env 1
      return (bss, reply, true)
    else
      let _tmpenc ← mallocd env 512
      let bss ← mallocd env reply.length.toNat
      aesEncrypt env reply.length.toNat
      let ainfo ← mallocd env 512
      setAdditionalInfo ainfo
      let _ ← perform env (.free str)
      return (bss, reply, false)
  encode := seEncode env
  decode := seDecode env
  connectionClose := seConnectionClose env

/-- `result` is not freed. -/
def seClient : ClientModule σ where
  makeAuthQuery := do
    setAdditionalInfo none
    let query ← perform env .authQuery
    let str ← mallocd env query.length.toNat
    aesEncrypt env 10
    return (str, query)
  dealAuthReply reply := do
    let _result ← mallocd env reply.length.toNat
    aesDecrypt env
    match ← perform env (.authOk reply) with
    | some tmplen =>
      let ainfo ← mallocd env (16 + tmplen)
      setAdditionalInfo ainfo
      return true
    | none => return false
  encode := seEncode env
  decode := seDecode env
  connectionClose := seConnectionClose env

end

/-! ## Blocks and calls of a part of a session -/

/-- Everything but `malloc` and `free`. -/
def isMark : Event → Bool
  | ⟨.malloc _, _⟩ | ⟨.free _, _⟩ => false
  | _ => true

def marks (u : List Event) : List Event := u.filter isMark

/-- `Spends`, by the calls of `x` other than `malloc` and `free`. -/
def Runs {σ α : Type} (x : Prog σ α) (w : World Outcome (Store σ)) (a : List Block)
    (Q : Except (Halt String Lost) α → Store σ → List Event → List Block → Prop) : Prop :=
  Spends (Moves heapChange) x w a fun r s u b => Q r s (marks u) b

/-- `x` does not throw, and if it comes back `Q` holds. -/
def Returns {α : Type} (Q : α → Prop) : Except (Halt String Lost) α → Prop
  | .ok v => Q v
  | .error (.raised _) => False
  | .error (.lost _) => True

section
variable {σ α β : Type} {env : Env Outcome} {w : World Outcome (Store σ)} {a : List Block}
  {P : Except (Halt String Lost) β → Store σ → List Event → List Block → Prop}

theorem marks_append (u v : List Event) : marks (u ++ v) = marks u ++ marks v := List.filter_append _ _

theorem Runs.bind {x : Prog σ α} {f : α → Prog σ β}
    {Q : Except (Halt String Lost) α → Store σ → List Event → List Block → Prop} (hx : Runs x w a Q)
    (hok : ∀ v w' m b, Q (.ok v) w'.store m b → Runs (f v) w' b fun r s m' c => P r s (m ++ m') c)
    (herr : ∀ e s m b, Q (.error e) s m b → P (.error e) s m b) : Runs (x >>= f) w a P := by
  refine Spends.bind hx (fun v w' u b hq => ?_) (fun e s u b hq => herr e s (marks u) b hq)
  refine Spends.imp (hok v w' (marks u) b hq) fun r s u' c hp => ?_
  rwa [marks_append]

theorem Runs.framed {x : Prog σ α} {Q : Except (Halt String Lost) α → Store σ → List Event → List Block → Prop}
    (hx : Runs x w a Q) (fr : List Block) : Runs x w (a ++ fr) fun r s m b => ∃ b', b = b' ++ fr ∧ Q r s m b' :=
  Spends.frame hx fr

/-- A part that ends with the blocks and the store it began with. -/
theorem Runs.quiet_bind {x : Prog σ α} {f : α → Prog σ β}
    (hx : Runs x w a fun r s m b => Returns (fun _ => s = w.store ∧ m = [] ∧ b = a) r)
    (hlost : ∀ l s m c, P (.error (.lost l)) s m c) (h : ∀ v w', w'.store = w.store → Runs (f v) w' a P) :
    Runs (x >>= f) w a P := by
  refine hx.bind ?_ ?_
  · rintro v w' m b ⟨hs, rfl, rfl⟩
    exact h v w' hs
  · intro e s m b hq
    cases e with
    | raised e => cases hq
    | lost l => exact hlost l s m b

theorem runs_pure {v : β} (h : P (.ok v) w.store [] a) : Runs (pure v) w a P := spends_pure h

theorem runs_malloc_bind {n : Nat} {f : Ptr → Prog σ β}
    (h : ∀ p w', w'.store = w.store → Runs (f p) w' (p.toList ++ a) P) : Runs (perform env (.malloc n) >>= f) w a P := by
  refine Spends.bind (spends_perform (Q := fun r s u b => s = w.store ∧ ∃ p : Ptr, r = .ok p ∧ marks u = [] ∧
    b = p.toList ++ a) ⟨Option.toList (env w.trace (.malloc n)) ++ a, ⟨rfl, _, rfl, rfl, rfl⟩, ?_⟩) ?_ ?_
  · cases env w.trace (.malloc n) with
    | none => exact moves_keeps rfl
    | some b => exact moves_opens rfl
  · rintro p w' u b ⟨hs, p', hp, hu, rfl⟩
    cases hp
    refine Spends.imp (h p w' hs) fun r s u' c hq => ?_
    rwa [marks_append, hu, List.nil_append]
  · rintro e s u b ⟨-, p, hp, -⟩
    cases hp

theorem runs_mallocd_bind {n : Nat} {f : Ptr → Prog σ β} (hlost : ∀ l s m c, P (.error (.lost l)) s m c)
    (h : ∀ b w', w'.store = w.store → Runs (f (some b)) w' (b :: a) P) : Runs (mallocd env n >>= f) w a P := by
  rw [mallocd, bind_assoc]
  refine runs_malloc_bind fun p w' hs => ?_
  cases p with
  | none => exact spends_lose (hlost _ _ _ _)
  | some b => exact h b w' hs

theorem runs_free_bind {p : Ptr} {a' : List Block} {f : Unit → Prog σ β} (ha : a.Perm (p.toList ++ a'))
    (h : ∀ w', w'.store = w.store → Runs (f ()) w' a' P) : Runs (perform env (.free p) >>= f) w a P := by
  refine Spends.perm ?_ ha.symm
  refine Spends.bind (spends_perform (Q := fun r s u b => s = w.store ∧ r = .ok () ∧ marks u = [] ∧ b = a')
    ⟨a', ⟨rfl, rfl, rfl, rfl⟩, ?_⟩) ?_ ?_
  · cases p with
    | none => exact moves_keeps rfl
    | some b => exact moves_closes rfl
  · rintro - w' u b ⟨hs, -, hu, rfl⟩
    refine Spends.imp (h w' hs) fun r s u' c hq => ?_
    rwa [marks_append, hu, List.nil_append]
  · rintro e s u b ⟨-, hp, -⟩
    cases hp

/-- Any other call. -/
theorem runs_mark_bind {c : Call} {f : Outcome c → Prog σ β} (hm : ∀ r, isMark ⟨c, r⟩ = true)
    (h : ∀ r w', w'.store = w.store → Runs (f r) w' a fun r' s m b => P r' s (⟨c, r⟩ :: m) b) :
    Runs (perform env c >>= f) w a P := by
  have hk : ∀ r, heapChange ⟨c, r⟩ = .keeps := by
    intro r
    have := hm r
    cases c <;> first | rfl | cases this
  refine Spends.bind (spends_perform (Q := fun r s u b => s = w.store ∧ ∃ v, r = .ok v ∧ u = [⟨c, v⟩] ∧ b = a)
    ⟨a, ⟨rfl, _, rfl, rfl, rfl⟩, moves_keeps (hk _)⟩) ?_ ?_
  · rintro v w' u b ⟨hs, v', hv, rfl, rfl⟩
    cases hv
    refine Spends.imp (h v w' hs) fun r s u' c hq => ?_
    rwa [marks_append, marks, List.filter_cons_of_pos (hm v), List.filter_nil]
  · rintro e s u b ⟨-, v, hv, -⟩
    cases hv

theorem runs_getStore_bind {f : Store σ → Prog σ β} (h : Runs (f w.store) w a P) : Runs (getStore >>= f) w a P := by
  unfold Runs Spends at h ⊢
  exact h.congr rfl

theorem runs_setAdditionalInfo_bind {p : Ptr} {f : Unit → Prog σ β}
    (h : ∀ w', w'.store = { w.store with additionalInfo := p } → Runs (f ()) w' a P) :
    Runs (setAdditionalInfo p >>= f) w a P := by
  rw [setAdditionalInfo, bind_assoc]
  refine runs_getStore_bind (Spends.bind (spends_setStore (Q := fun r s u b => r = .ok () ∧
    s = { w.store with additionalInfo := p } ∧ u = [] ∧ b = a) ⟨rfl, rfl, rfl, rfl⟩) ?_ ?_)
  · rintro - w' u b ⟨-, hs, rfl, rfl⟩
    exact h w' hs
  · rintro e s u b ⟨hv, -⟩
    cases hv

end

/-! ## Code that has nothing on the heap -/

def embed (e : Native.Event) : Event := ⟨.other e.1, e.2⟩

/-- A part of a session from `Native/Calls.lean`, as it is. -/
def lift {σ α : Type} (env : Env Outcome) (x : Env Native.Outcome → Native.Session σ α) : Prog σ α := fun w =>
  match x (fun t c => env (w.trace ++ t.map embed) (.other c)) ⟨w.store.inner, []⟩ with
  | .ok a w' => .ok a ⟨{ w.store with inner := w'.store }, w.trace ++ w'.trace.map embed⟩
  | .error (.raised e) w' => .error (.raised e) ⟨{ w.store with inner := w'.store }, w.trace ++ w'.trace.map embed⟩
  | .error (.lost l) w' =>
    .error (.lost (.native l)) ⟨{ w.store with inner := w'.store }, w.trace ++ w'.trace.map embed⟩

section
variable {σ α : Type} {env : Env Outcome} {w : World Outcome (Store σ)} {a : List Block} {p : Native.Event → Prop}

theorem moves_embed (v : List Native.Event) : Moves heapChange a (v.map embed) a := by
  induction v with
  | nil => exact moves_nil (.refl _)
  | cons e v ih => exact (moves_keeps (e := embed e) rfl).trans ih

theorem marks_embed (v : List Native.Event) : marks (v.map embed) = v.map embed := by
  refine List.filter_eq_self.2 fun e he => ?_
  obtain ⟨e, -, rfl⟩ := List.mem_map.1 he
  rfl

theorem lift_spends {x : Env Native.Outcome → Native.Session σ α} (hx : ∀ env', Only p (x env')) :
    Spends (Moves heapChange) (lift env x) w a fun _ s u b =>
      s.additionalInfo = w.store.additionalInfo ∧ b = a ∧ ∃ v : List Native.Event, u = v.map embed ∧ ∀ e ∈ v, p e := by
  have h := hx (fun t c => env (w.trace ++ t.map embed) (.other c)) ⟨w.store.inner, []⟩
  have hpost : ∀ v : List Native.Event, (∀ e ∈ v, p e) → ∃ b, (b = a ∧ ∃ v' : List Native.Event,
      v.map embed = v'.map embed ∧ ∀ e ∈ v', p e) ∧ Moves heapChange a (v.map embed) b :=
    fun v hv => ⟨a, ⟨rfl, v, rfl, hv⟩, moves_embed v⟩
  unfold Spends
  cases hr : x (fun t c => env (w.trace ++ t.map embed) (.other c)) ⟨w.store.inner, []⟩ with
  | ok v w' =>
    obtain ⟨u, ht, hu⟩ := h.ok hr
    obtain ⟨b, hb, hm⟩ := hpost u hu
    have hl : lift env x w = .ok v ⟨{ w.store with inner := w'.store }, w.trace ++ w'.trace.map embed⟩ := by
      rw [lift, hr]
    exact (ends_of_ok hl).2 ⟨u.map embed, by rw [ht]; rfl, b, ⟨rfl, hb⟩, hm⟩
  | error e w' =>
    obtain ⟨u, ht, hu⟩ := h.error hr
    obtain ⟨b, hb, hm⟩ := hpost u hu
    cases e with
    | raised e =>
      have hl : lift env x w =
          .error (.raised e) ⟨{ w.store with inner := w'.store }, w.trace ++ w'.trace.map embed⟩ := by rw [lift, hr]
      exact (ends_of_error hl).2 ⟨u.map embed, by rw [ht]; rfl, b, ⟨rfl, hb⟩, hm⟩
    | lost l =>
      have hl : lift env x w =
          .error (.lost (.native l)) ⟨{ w.store with inner := w'.store }, w.trace ++ w'.trace.map embed⟩ := by
        rw [lift, hr]
      exact (ends_of_error hl).2 ⟨u.map embed, by rw [ht]; rfl, b, ⟨rfl, hb⟩, hm⟩

theorem lift_runs {x : Env Native.Outcome → Native.Session σ α} (hx : ∀ env', Only p (x env')) :
    Runs (lift env x) w a fun _ s m b =>
      s.additionalInfo = w.store.additionalInfo ∧ b = a ∧ ∃ v : List Native.Event, m = v.map embed ∧ ∀ e ∈ v, p e := by
  refine Spends.imp (lift_spends hx) fun r s u b h => ?_
  obtain ⟨hs, hb, v, rfl, hv⟩ := h
  exact ⟨hs, hb, v, marks_embed v, hv⟩

end

/-! ## What is never freed -/

/-- `x` came back, with a value or an exception. -/
def Settled {α : Type} : Except (Halt String Lost) α → Prop
  | .error (.lost _) => False
  | _ => True

section
variable {σ α β : Type} (left : Event → Nat) (q : Event → Prop)

def total (m : List Event) : Nat := (m.map left).sum

/-- `k` blocks and `left e` more for each of the calls `m`; `additional_info` is `ai` as before. -/
structure Leftover (ai : Ptr) (k : Nat) (s : Store σ) (m : List Event) (b : List Block) : Prop where
  info : s.additionalInfo = ai
  calls : ∀ e ∈ m, q e
  count : b.length = k + total left m

def LeftAs (ai : Ptr) (k : Nat) (r : Except (Halt String Lost) α) (s : Store σ) (m : List Event) (b : List Block) : Prop :=
  Settled r → Leftover left q ai k s m b

/-- What `x` has allocated and not freed can be told from its other calls. -/
def Leaves (x : Prog σ α) : Prop := ∀ w, Runs x w [] (LeftAs left q w.store.additionalInfo 0)

/-- A value comes with the blocks `given`, an exception with what it leaves. -/
def Brings (given : α → List Block) (ai : Ptr) (r : Except (Halt String Lost) α) (s : Store σ) (m : List Event)
    (b : List Block) : Prop :=
  match r with
  | .ok v => s.additionalInfo = ai ∧ (∀ e ∈ m, q e) ∧ total left m = 0 ∧ b = given v
  | .error (.raised _) => Leftover left q ai 0 s m b
  | .error (.lost _) => True

variable {left q} {env : Env Outcome} {ai : Ptr} {k : Nat}

theorem total_append (m m' : List Event) : total left (m ++ m') = total left m + total left m' := by simp [total]

/-- `malloc` and `free` themselves leave nothing. -/
theorem total_marks (hl : ∀ e, isMark e = false → left e = 0) (u : List Event) : total left (marks u) = total left u := by
  induction u with
  | nil => rfl
  | cons e u ih =>
    rw [total, total, List.map_cons, List.sum_cons]
    cases he : isMark e with
    | true =>
      rw [marks, List.filter_cons_of_pos he, List.map_cons, List.sum_cons]
      exact congrArg (left e + ·) ih
    | false =>
      rw [marks, List.filter_cons_of_neg (by rw [he]; exact Bool.false_ne_true), hl e he, Nat.zero_add]
      exact ih

theorem leftover_nil {s : Store σ} {b : List Block} (hs : s.additionalInfo = ai) (hb : b.length = k) :
    Leftover left q ai k s [] b :=
  ⟨hs, by simp, hb⟩

theorem Leftover.append {s : Store σ} {m m' : List Event} {c : List Block} (hm : ∀ e ∈ m, q e)
    (h : Leftover left q ai (k + total left m) s m' c) : Leftover left q ai k s (m ++ m') c where
  info := h.info
  calls e he := (List.mem_append.1 he).elim (hm e) (h.calls e)
  count := by rw [h.count, total_append, Nat.add_assoc]

theorem Leftover.cons {e : Event} {s : Store σ} {m : List Event} {c : List Block} (he : q e)
    (h : Leftover left q ai (k + left e) s m c) : Leftover left q ai k s (e :: m) c where
  info := h.info
  calls := List.forall_mem_cons.2 ⟨he, h.calls⟩
  count := by rw [h.count, total, total, List.map_cons, List.sum_cons, Nat.add_assoc]

theorem Leftover.frame {s : Store σ} {m : List Event} {b a : List Block} (h : Leftover left q ai 0 s m b)
    (ha : a.length = k) : Leftover left q ai k s m (b ++ a) where
  info := h.info
  calls := h.calls
  count := by
    rw [List.length_append, h.count, ha]
    omega

/-- Blocks that are there already stay. -/
theorem Leaves.runs {x : Prog σ α} (hx : Leaves left q x) {w : World Outcome (Store σ)} {a : List Block}
    (ha : a.length = k) : Runs x w a (LeftAs left q w.store.additionalInfo k) := by
  refine Spends.imp ((hx w).frame a) fun r s u b h => ?_
  obtain ⟨b, rfl, hb⟩ := h
  exact fun hr => (hb hr).frame ha

theorem Leaves.bind {x : Prog σ α} {f : α → Prog σ β} (hx : Leaves left q x) (hf : ∀ v, Leaves left q (f v)) :
    Leaves left q (x >>= f) := by
  intro w
  refine (hx w).bind (fun v w' m b h => ?_) (fun e s m b h => ?_)
  · have hb := h trivial
    refine Spends.imp ((hf v).runs hb.count) fun r s u c hc hr => ?_
    rw [hb.info] at hc
    exact (hc hr).append hb.calls
  · cases e with
    | raised e => exact fun _ => h trivial
    | lost l => exact False.elim

theorem leaves_pure (v : α) : Leaves left q (pure v : Prog σ α) := fun _ => runs_pure fun _ => leftover_nil rfl rfl

theorem leaves_raise (e : String) : Leaves left q (raise e : Prog σ α) :=
  fun _ => spends_raise fun _ => leftover_nil rfl rfl

theorem leaves_lose (l : Lost) : Leaves left q (lose l : Prog σ α) := fun _ => spends_lose False.elim

theorem leaves_getStore : Leaves left q (getStore : Prog σ (Store σ)) :=
  fun _ => spends_getStore fun _ => leftover_nil rfl rfl

/-- A call that allocates nothing. -/
theorem leaves_mark {c : Call} (hm : ∀ r, isMark ⟨c, r⟩ = true) (hq : ∀ r, q ⟨c, r⟩) (hl : ∀ r, left ⟨c, r⟩ = 0) :
    Leaves left q (perform env c : Prog σ (Outcome c)) := by
  intro w
  rw [← bind_pure (perform env c)]
  refine runs_mark_bind hm fun r w' s' => runs_pure fun _ => ⟨by rw [s'], ?_, ?_⟩
  · exact List.forall_mem_singleton.2 (hq r)
  · simp [total, hl]

theorem total_embed {v : List Native.Event} (hl : ∀ e ∈ v, left (embed e) = 0) : total left (v.map embed) = 0 := by
  refine List.sum_eq_zero_iff_forall_eq_nat.2 ?_
  simp only [List.map_map, List.forall_mem_map]
  exact hl

theorem leaves_lift {p : Native.Event → Prop} {x : Env Native.Outcome → Native.Session σ α} (hx : ∀ env', Only p (x env'))
    (hp : ∀ e, p e → q (embed e) ∧ left (embed e) = 0) : Leaves left q (lift env x) := by
  intro w
  refine Spends.imp (lift_runs hx) fun r s u b h _ => ?_
  obtain ⟨hs, rfl, v, hv, hpv⟩ := h
  rw [hv]
  refine ⟨hs, List.forall_mem_map.2 fun e he => (hp e (hpv e he)).1, ?_⟩
  rw [total_embed fun e he => (hp e (hpv e he)).2]
  rfl

/-- Calls of `lift` in front. -/
theorem lift_bind {p : Native.Event → Prop} {x : Env Native.Outcome → Native.Session σ α} {f : α → Prog σ β}
    {w : World Outcome (Store σ)} {a : List Block}
    {P : Except (Halt String Lost) β → Store σ → List Event → List Block → Prop} (hx : ∀ env', Only p (x env'))
    (hp : ∀ e, p e → q (embed e) ∧ left (embed e) = 0)
    (hok : ∀ v w' m, w'.store.additionalInfo = w.store.additionalInfo → (∀ e ∈ m, q e) → total left m = 0 →
      Runs (f v) w' a fun r s m' c => P r s (m ++ m') c)
    (hraised : ∀ e s m, s.additionalInfo = w.store.additionalInfo → (∀ e ∈ m, q e) → total left m = 0 →
      P (.error (.raised e)) s m a)
    (hlost : ∀ l s m b, P (.error (.lost l)) s m b) : Runs (lift env x >>= f) w a P := by
  have hcalls : ∀ {v : List Native.Event}, (∀ e ∈ v, p e) →
      (∀ e ∈ v.map embed, q e) ∧ total left (v.map embed) = 0 := fun hv =>
    ⟨List.forall_mem_map.2 fun e he => (hp e (hv e he)).1, total_embed fun e he => (hp e (hv e he)).2⟩
  refine (lift_runs hx).bind ?_ ?_
  · rintro v w' m b ⟨hs, rfl, u, rfl, hu⟩
    exact hok v w' _ hs (hcalls hu).1 (hcalls hu).2
  · rintro e s m b ⟨hs, rfl, u, rfl, hu⟩
    cases e with
    | raised e => exact hraised e s _ hs (hcalls hu).1 (hcalls hu).2
    | lost l => exact hlost l s _ _

theorem Runs.brings_bind {x : Prog σ α} {f : α → Prog σ β} {given : α → List Block} {w : World Outcome (Store σ)}
    (hx : Runs x w [] (Brings left q given ai))
    (hf : ∀ v w', w'.store.additionalInfo = ai → Runs (f v) w' (given v) (LeftAs left q ai 0)) :
    Runs (x >>= f) w [] (LeftAs left q ai 0) := by
  refine hx.bind (fun v w' m b h => ?_) (fun e s m b h => ?_)
  · obtain ⟨hs, hm, hz, rfl⟩ := h
    refine Spends.imp (hf v w' hs) fun r s u c hc hr => ?_
    refine (show Leftover left q ai (0 + total left m) s (marks u) c from ?_).append hm
    rw [hz]
    exact hc hr
  · cases e with
    | raised e => exact fun _ => h
    | lost l => exact False.elim

theorem Leaves.deferring {cleanup : Prog σ Unit} {x : Prog σ α} (hc : Leaves left q cleanup) (hx : Leaves left q x) :
    Leaves left q (deferring cleanup x) := by
  intro w
  refine Spends.deferring (hx w) ?_ ?_ ?_
  · intro v w' u b h
    have hb := h trivial
    refine Spends.imp ((hc.bind fun _ => leaves_pure v).runs hb.count) fun r s u' c hcl hr => ?_
    rw [hb.info] at hcl
    rw [marks_append]
    exact (hcl hr).append hb.calls
  · intro e w' u b h
    have hb := h trivial
    refine Spends.imp ((hc.bind fun _ => (leaves_raise e : Leaves left q (raise e : Prog σ α))).runs hb.count)
      fun r s u' c hcl hr => ?_
    rw [hb.info] at hcl
    rw [marks_append]
    exact (hcl hr).append hb.calls
  · exact fun l s u b _ => False.elim

/-- A block that a scope guard frees, among others. -/
theorem Leaves.freeing {x : Prog σ α} (hx : Leaves left q x) {p : Ptr} {w : World Outcome (Store σ)} {a : List Block} :
    Runs (Effects.deferring (perform env (.free p)) x) w (p.toList ++ a) fun r s m b => Settled r →
      ∃ b', b = b' ++ a ∧ Leftover left q w.store.additionalInfo 0 s m b' := by
  refine Spends.guarded ((hx w).frame (p.toList ++ a)) ?_ fun l s u b _ => False.elim
  rintro r w' u _ hr ⟨b, rfl, hb⟩
  have hswap : (b ++ (p.toList ++ a)).Perm (p.toList ++ (b ++ a)) := by
    rw [← List.append_assoc, ← List.append_assoc]
    exact List.perm_append_comm.append_right a
  rw [← bind_pure (perform env (.free p))]
  refine Spends.imp (runs_free_bind (P := fun rc s m c => rc = .ok () ∧ s = w'.store ∧ m = [] ∧ c = b ++ a) hswap
    fun w₁ s₁ => runs_pure ⟨rfl, s₁, rfl, rfl⟩) fun rc s u' c h => ?_
  obtain ⟨hrc, rfl, hm, rfl⟩ := h
  refine ⟨hrc, fun hs => ?_⟩
  rw [marks_append, hm, List.append_nil]
  exact ⟨b, rfl, hb hs⟩

end

/-! ## The agreement -/

/-- `encode`: the payload goes, the packet comes. -/
def Encodes {σ : Type} (encode : Ptr → ClientQuery → Prog σ (Ptr × BinarySafeString)) : Prop :=
  ∀ payload cq w, Runs (encode payload cq) w payload.toList fun r s m b =>
    Returns (fun v => s = w.store ∧ m = [⟨.encoded cq, v.2⟩] ∧ v.1.isSome ∧ b = v.1.toList) r

/-- `decode`: the packet goes, the payload comes, if there is one. -/
def Decodes {σ : Type} (decode : Ptr → BinarySafeString → Prog σ (Ptr × ClientQuery)) : Prop :=
  ∀ str data w, Runs (decode str data) w str.toList fun r s m b =>
    Returns (fun v => s = w.store ∧ m = [⟨.decoded data, v.2⟩] ∧ (v.1.isSome ↔ v.2.payload.length ≠ 0) ∧
      b = v.1.toList) r

/-- The closing call releases `additional_info`, if that is as the module leaves it. -/
def Closes {σ : Type} (own : Ptr → Prop) (connectionClose : Prog σ Unit) : Prop :=
  ∀ w, own w.store.additionalInfo →
    Runs connectionClose w w.store.additionalInfo.toList fun r s m b => s = w.store ∧ r = .ok () ∧ m = [] ∧ b = []

/-- Blocks of a call that authenticates to which nobody has a pointer any more. -/
def scratch : Event → Nat
  | ⟨.authReply _, (_, isClosing)⟩ => if isClosing then 1 else 2
  | ⟨.authOk _, _⟩ => 1
  | _ => 0

/-- The blocks `b` of an authenticating call: what it returns, `additional_info`, and what it leaves behind. -/
def Authed {σ : Type} (own : Ptr → Prop) (returned : Ptr) (s : Store σ) (m : List Event) (b : List Block) : Prop :=
  own s.additionalInfo ∧ (∀ e ∈ m, (∃ q r, e = ⟨.authReply q, r⟩) ∨ ∃ q r, e = ⟨.authOk q, r⟩) ∧
    ∃ junk, b.Perm (returned.toList ++ (s.additionalInfo.toList ++ junk)) ∧ junk.length = (m.map scratch).sum

section
variable {σ α : Type} (left : Event → Nat) (q : Event → Prop) (own : Ptr → Prop)

/-- A connection that is set up: `additional_info`, and blocks nobody has a pointer to. -/
def Handed (r : Except (Halt String Lost) α) (s : Store σ) (m : List Event) (b : List Block) : Prop :=
  Settled r → own s.additionalInfo ∧ (∀ e ∈ m, q e) ∧
    ∃ junk, b.Perm (s.additionalInfo.toList ++ junk) ∧ junk.length = total left m

variable {left q own}

theorem Handed.append {r : Except (Halt String Lost) α} {s : Store σ} {m m' : List Event} {b : List Block}
    (hm : ∀ e ∈ m, q e) (hz : total left m = 0) (h : Handed left q own r s m' b) : Handed left q own r s (m ++ m') b := by
  intro hr
  obtain ⟨hown, hm', junk, hb, hj⟩ := h hr
  refine ⟨hown, List.forall_mem_append.2 ⟨hm, hm'⟩, junk, hb, ?_⟩
  rw [hj, total_append, hz, Nat.zero_add]

/-- Without `additional_info` every block is lost. -/
theorem Leftover.handed {r : Except (Halt String Lost) α} {s : Store σ} {m : List Event} {b : List Block}
    (h : Leftover left q none 0 s m b) (hown : own none) : Handed left q own r s m b := by
  intro _
  rw [h.info]
  exact ⟨hown, h.calls, b, .refl _, by rw [h.count, Nat.zero_add]⟩

theorem Runs.handed_freeing {env : Env Outcome} {x : Prog σ α} {w : World Outcome (Store σ)} {p : Ptr}
    (hx : Runs x w [] (Handed left q own)) :
    Runs (deferring (perform env (.free p)) x) w p.toList (Handed left q own) := by
  refine Spends.guarded (hx.frame p.toList) ?_ fun l s u b _ => False.elim
  rintro r w' u _ - ⟨b, rfl, hb⟩
  rw [← bind_pure (perform env (.free p))]
  refine Spends.imp (runs_free_bind (P := fun rc s m c => rc = .ok () ∧ s = w'.store ∧ m = [] ∧ c = b)
    List.perm_append_comm fun w₁ s₁ => runs_pure ⟨rfl, s₁, rfl, rfl⟩) fun rc s u' c h => ?_
  obtain ⟨hrc, rfl, hm, rfl⟩ := h
  refine ⟨hrc, ?_⟩
  rw [marks_append, hm, List.append_nil]
  exact hb

end

structure ServerAgreement {σ : Type} (own : Ptr → Prop) (M : ServerModule σ) : Prop where
  makeAuthReply : ∀ str data w, w.store.additionalInfo = none →
    Runs (M.makeAuthReply str data) w str.toList fun r s m b =>
      Returns (fun v => s.inner = w.store.inner ∧ Authed own v.1 s m b) r
  encode : Encodes M.encode
  decode : Decodes M.decode
  connectionClose : Closes own M.connectionClose

structure ClientAgreement {σ : Type} (own : Ptr → Prop) (M : ClientModule σ) : Prop where
  makeAuthQuery : ∀ w, w.store.additionalInfo = none → Runs M.makeAuthQuery w [] fun r s m b =>
    Returns (fun v => s = w.store ∧ m = [⟨.authQuery, v.2⟩] ∧ b = v.1.toList) r
  dealAuthReply : ∀ reply w, w.store.additionalInfo = none → Runs (M.dealAuthReply reply) w [] fun r s m b =>
    Returns (fun _ => s.inner = w.store.inner ∧ Authed own none s m b) r
  encode : Encodes M.encode
  decode : Decodes M.decode
  connectionClose : Closes own M.connectionClose

section
variable {σ : Type} {env : Env Outcome}

theorem Encodes.bind {β : Type} {encode : Ptr → ClientQuery → Prog σ (Ptr × BinarySafeString)} (he : Encodes encode)
    {f : Ptr × BinarySafeString → Prog σ β} (payload : Ptr) {cq : ClientQuery} {w : World Outcome (Store σ)}
    {P : Except (Halt String Lost) β → Store σ → List Event → List Block → Prop}
    (hok : ∀ str dat w', w'.store = w.store → Runs (f (some str, dat)) w' [str]
      fun r s m c => P r s (⟨.encoded cq, dat⟩ :: m) c)
    (hlost : ∀ l s m b, P (.error (.lost l)) s m b) : Runs (encode payload cq >>= f) w payload.toList P := by
  refine (he payload cq w).bind ?_ ?_
  · rintro ⟨str, dat⟩ w' m b ⟨hs, rfl, hsome, rfl⟩
    obtain ⟨str, rfl⟩ := Option.isSome_iff_exists.1 hsome
    exact hok str dat w' hs
  · intro e s m b h
    cases e with
    | raised e => cases h
    | lost l => exact hlost l s m b

theorem Decodes.bind {β : Type} {decode : Ptr → BinarySafeString → Prog σ (Ptr × ClientQuery)} (hd : Decodes decode)
    {f : Ptr × ClientQuery → Prog σ β} {str : Ptr} {data : BinarySafeString} {w : World Outcome (Store σ)}
    {P : Except (Halt String Lost) β → Store σ → List Event → List Block → Prop}
    (hok : ∀ (payload : Ptr) (query : ClientQuery) w', w'.store = w.store →
      (payload.isSome ↔ query.payload.length ≠ 0) → Runs (f (payload, query)) w' payload.toList
        fun r s m c => P r s (⟨.decoded data, query⟩ :: m) c)
    (hlost : ∀ l s m b, P (.error (.lost l)) s m b) : Runs (decode str data >>= f) w str.toList P := by
  refine (hd str data w).bind ?_ ?_
  · rintro ⟨payload, query⟩ w' m b ⟨hs, rfl, hsome, rfl⟩
    exact hok payload query w' hs hsome
  · intro e s m b h
    cases e with
    | raised e => cases h
    | lost l => exact hlost l s m b

theorem Closes.runs {own : Ptr → Prop} {connectionClose : Prog σ Unit} (hc : Closes own connectionClose)
    {w : World Outcome (Store σ)} (hown : own w.store.additionalInfo) {a rest : List Block}
    (ha : a.Perm (w.store.additionalInfo.toList ++ rest)) :
    Runs connectionClose w a fun r s m b => s = w.store ∧ r = .ok () ∧ m = [] ∧ b = rest := by
  refine Spends.perm (Spends.imp ((hc w hown).frame rest) fun r s u b h => ?_) ha.symm
  obtain ⟨b, rfl, hs, hr, hm, rfl⟩ := h
  exact ⟨hs, hr, hm, rfl⟩

theorem encodes_simple : Encodes (simpleEncode env : Ptr → ClientQuery → Prog σ (Ptr × BinarySafeString)) := by
  intro payload cq w
  refine runs_mallocd_bind (fun _ _ _ _ => trivial) fun b w₁ s₁ => ?_
  refine runs_mark_bind (fun _ => rfl) fun bss w₂ s₂ => ?_
  refine runs_free_bind (List.perm_append_singleton b _).symm fun w₃ s₃ => ?_
  exact runs_pure ⟨by rw [s₃, s₂, s₁], rfl, rfl, rfl⟩

/-- The common end of the decoders, from the block `str`. -/
theorem unpackPayload_runs {str : Ptr} {query : ClientQuery} {w : World Outcome (Store σ)} :
    Runs (unpackPayload env str query) w str.toList fun r s m b =>
      Returns (fun v => s = w.store ∧ m = [] ∧ v.2 = query ∧ (v.1.isSome ↔ query.payload.length ≠ 0) ∧
        b = v.1.toList) r := by
  unfold unpackPayload
  split
  · next h =>
    refine runs_mallocd_bind (fun _ _ _ _ => trivial) fun b w₁ s₁ => ?_
    refine runs_free_bind (List.perm_append_singleton b _).symm fun w₂ s₂ => ?_
    exact runs_pure ⟨by rw [s₂, s₁], rfl, rfl, by simp [h], rfl⟩
  · next h =>
    refine runs_free_bind (show str.toList.Perm (str.toList ++ []) by simp) fun w₁ s₁ => ?_
    exact runs_pure ⟨s₁, rfl, rfl, by simp [not_not.1 h], rfl⟩

theorem decodes_simple : Decodes (simpleDecode env : Ptr → BinarySafeString → Prog σ (Ptr × ClientQuery)) := by
  intro str data w
  refine runs_mark_bind (fun _ => rfl) fun query w₁ s₁ => ?_
  refine Spends.imp unpackPayload_runs fun r s u b h => ?_
  match r, h with
  | .ok v, ⟨hs, hm, hv, hp, hb⟩ =>
    refine ⟨hs.trans s₁, by rw [hm, hv], by rwa [hv], hb⟩
  | .error (.lost _), _ => trivial

theorem aesEncrypt_runs {srclen : Nat} {w : World Outcome (Store σ)} {a : List Block} :
    Runs (aesEncrypt env srclen) w a fun r s m b => Returns (fun _ => s = w.store ∧ m = [] ∧ b = a) r := by
  refine runs_mallocd_bind (fun _ _ _ _ => trivial) fun rkey w₁ s₁ => ?_
  refine runs_mallocd_bind (fun _ _ _ _ => trivial) fun rsrc w₂ s₂ => ?_
  refine runs_free_bind (.refl _) fun w₃ s₃ => ?_
  rw [← bind_pure (perform env (.free (some rkey)))]
  refine runs_free_bind (.refl _) fun w₄ s₄ => ?_
  exact runs_pure ⟨by rw [s₄, s₃, s₂, s₁], rfl, rfl⟩

theorem aesDecrypt_runs {w : World Outcome (Store σ)} {a : List Block} :
    Runs (aesDecrypt env) w a fun r s m b => Returns (fun _ => s = w.store ∧ m = [] ∧ b = a) r := by
  refine runs_mallocd_bind (fun _ _ _ _ => trivial) fun rkey w₁ s₁ => ?_
  rw [← bind_pure (perform env (.free (some rkey)))]
  refine runs_free_bind (.refl _) fun w₂ s₂ => ?_
  exact runs_pure ⟨by rw [s₂, s₁], rfl, rfl⟩

theorem encodes_se : Encodes (seEncode env : Ptr → ClientQuery → Prog σ (Ptr × BinarySafeString)) := by
  intro payload cq w
  refine runs_mallocd_bind (fun _ _ _ _ => trivial) fun data w₁ s₁ => ?_
  refine runs_mallocd_bind (fun _ _ _ _ => trivial) fun encresult w₂ s₂ => ?_
  refine aesEncrypt_runs.quiet_bind (fun _ _ _ _ => trivial) fun _ w₃ s₃ => ?_
  refine runs_mark_bind (fun _ => rfl) fun bss w₄ s₄ => ?_
  refine runs_free_bind (List.Perm.swap data encresult _) fun w₅ s₅ => ?_
  refine runs_free_bind (List.perm_append_singleton encresult _).symm fun w₆ s₆ => ?_
  exact runs_pure ⟨by rw [s₆, s₅, s₄, s₃, s₂, s₁], rfl, rfl, rfl⟩

theorem decodes_se : Decodes (seDecode env : Ptr → BinarySafeString → Prog σ (Ptr × ClientQuery)) := by
  intro str data w
  refine runs_mallocd_bind (fun _ _ _ _ => trivial) fun tmpresult w₁ s₁ => ?_
  refine aesDecrypt_runs.quiet_bind (fun _ _ _ _ => trivial) fun _ w₂ s₂ => ?_
  refine runs_mark_bind (fun _ => rfl) fun query w₃ s₃ => ?_
  refine runs_free_bind (List.perm_append_singleton tmpresult _).symm fun w₄ s₄ => ?_
  refine Spends.imp unpackPayload_runs fun r s u b h => ?_
  match r, h with
  | .ok v, ⟨hs, hm, hv, hp, hb⟩ =>
    exact ⟨by rw [hs, s₄, s₃, s₂, s₁], by rw [hm, hv], by rwa [hv], hb⟩
  | .error (.lost _), _ => trivial

theorem closes_simple : Closes (· = none) (pure () : Prog σ Unit) := by
  intro w h
  rw [h]
  exact runs_pure ⟨rfl, rfl, rfl, rfl⟩

theorem closes_se : Closes (fun _ => True) (seConnectionClose env : Prog σ Unit) := by
  intro w _
  refine runs_getStore_bind ?_
  cases h : w.store.additionalInfo with
  | none => exact runs_pure ⟨rfl, rfl, rfl, rfl⟩
  | some b =>
    simp only
    rw [← bind_pure (perform env (.free (some b)))]
    refine runs_free_bind (.refl _) fun w₁ s₁ => ?_
    exact runs_pure ⟨s₁, rfl, rfl, rfl⟩

theorem simpleServer_agreement : ServerAgreement (· = none) (simpleServer env : ServerModule σ) where
  makeAuthReply str data w hn := by
    refine runs_mallocd_bind (fun _ _ _ _ => trivial) fun bss w₁ s₁ => ?_
    refine runs_free_bind (List.perm_append_singleton bss _).symm fun w₂ s₂ => ?_
    have hs : w₂.store = w.store := s₂.trans s₁
    refine runs_pure ⟨by rw [hs], by rw [hs, hn], by simp, [], ?_, rfl⟩
    rw [hs, hn]
    exact .refl _
  encode := encodes_simple
  decode := decodes_simple
  connectionClose := closes_simple

theorem seServer_agreement : ServerAgreement (fun _ => True) (seServer env : ServerModule σ) where
  makeAuthReply str data w hn := by
    refine runs_mallocd_bind (fun _ _ _ _ => trivial) fun request w₁ s₁ => ?_
    refine aesDecrypt_runs.quiet_bind (fun _ _ _ _ => trivial) fun _ w₂ s₂ => ?_
    refine runs_mark_bind (fun _ => rfl) fun reply w₃ s₃ => ?_
    obtain ⟨reply, isClosing⟩ := reply
    cases isClosing with
    | true =>
      refine runs_free_bind (List.perm_append_singleton request _).symm fun w₄ s₄ => ?_
      refine runs_mallocd_bind (fun _ _ _ _ => trivial) fun bss w₅ s₅ => ?_
      have hs : w₅.store = w.store := by rw [s₅, s₄, s₃, s₂, s₁]
      refine runs_pure ⟨by rw [hs], trivial, by simp, [request], ?_, rfl⟩
      rw [hs, hn]
      exact .refl _
    | false =>
      refine runs_mallocd_bind (fun _ _ _ _ => trivial) fun tmpenc w₄ s₄ => ?_
      refine runs_mallocd_bind (fun _ _ _ _ => trivial) fun bss w₅ s₅ => ?_
      refine aesEncrypt_runs.quiet_bind (fun _ _ _ _ => trivial) fun _ w₆ s₆ => ?_
      refine runs_mallocd_bind (fun _ _ _ _ => trivial) fun ainfo w₇ s₇ => ?_
      refine runs_setAdditionalInfo_bind fun w₈ s₈ => ?_
      have hfree : (ainfo :: bss :: tmpenc :: request :: str.toList).Perm (str.toList ++ [ainfo, bss, tmpenc, request]) :=
        @List.perm_append_comm _ [ainfo, bss, tmpenc, request] str.toList
      refine runs_free_bind hfree fun w₉ s₉ => ?_
      have hs : w₉.store = { w.store with additionalInfo := some ainfo } := by rw [s₉, s₈, s₇, s₆, s₅, s₄, s₃, s₂, s₁]
      refine runs_pure ⟨by rw [hs], trivial, by simp, [tmpenc, request], ?_, rfl⟩
      rw [hs]
      exact List.Perm.swap bss ainfo _
  encode := encodes_se
  decode := decodes_se
  connectionClose := closes_se

theorem simpleClient_agreement : ClientAgreement (· = none) (simpleClient env : ClientModule σ) where
  makeAuthQuery w _ := by
    refine runs_mark_bind (fun _ => rfl) fun query w₁ s₁ => ?_
    refine runs_mallocd_bind (fun _ _ _ _ => trivial) fun str w₂ s₂ => ?_
    exact runs_pure ⟨s₂.trans s₁, rfl, rfl⟩
  dealAuthReply reply w hn := by
    show Runs (match reply.bytes with | [] => lose .readOutside | ok :: _ => pure (decide (ok ≠ 0))) w [] _
    split
    · exact spends_lose trivial
    · refine runs_pure ⟨rfl, hn, by simp, [], ?_, rfl⟩
      rw [hn]
      exact .refl _
  encode := encodes_simple
  decode := decodes_simple
  connectionClose := closes_simple

theorem seClient_agreement : ClientAgreement (fun _ => True) (seClient env : ClientModule σ) where
  makeAuthQuery w hn := by
    refine runs_setAdditionalInfo_bind fun w₁ s₁ => ?_
    refine runs_mark_bind (fun _ => rfl) fun query w₂ s₂ => ?_
    refine runs_mallocd_bind (fun _ _ _ _ => trivial) fun str w₃ s₃ => ?_
    refine aesEncrypt_runs.quiet_bind (fun _ _ _ _ => trivial) fun _ w₄ s₄ => ?_
    refine runs_pure ⟨?_, rfl, rfl⟩
    rw [s₄, s₃, s₂, s₁, ← hn]
  dealAuthReply reply w hn := by
    refine runs_mallocd_bind (fun _ _ _ _ => trivial) fun result w₁ s₁ => ?_
    refine aesDecrypt_runs.quiet_bind (fun _ _ _ _ => trivial) fun _ w₂ s₂ => ?_
    refine runs_mark_bind (fun _ => rfl) fun ok w₃ s₃ => ?_
    cases ok with
    | some tmplen =>
      refine runs_mallocd_bind (fun _ _ _ _ => trivial) fun ainfo w₄ s₄ => ?_
      refine runs_setAdditionalInfo_bind fun w₅ s₅ => ?_
      have hs : w₅.store = { w.store with additionalInfo := some ainfo } := by rw [s₅, s₄, s₃, s₂, s₁]
      refine runs_pure ⟨by rw [hs], trivial, by simp, [result], ?_, rfl⟩
      rw [hs]
      exact .refl _
    | none =>
      have hs : w₃.store = w.store := by rw [s₃, s₂, s₁]
      refine runs_pure ⟨by rw [hs], trivial, by simp, [result], ?_, rfl⟩
      rw [hs, hn]
      exact .refl _
  encode := encodes_se
  decode := decodes_se
  connectionClose := closes_se

/-- The modules of the repository. -/
inductive Shipped where
  | simpleProxy
  | seProxy

def Shipped.server (env : Env Outcome) : Shipped → ServerModule σ
  | .simpleProxy => simpleServer env
  | .seProxy => seServer env

def Shipped.client (env : Env Outcome) : Shipped → ClientModule σ
  | .simpleProxy => simpleClient env
  | .seProxy => seClient env

theorem Shipped.serverAgreement (which : Shipped) :
    ∃ own, own none ∧ ServerAgreement own (which.server env : ServerModule σ) := by
  cases which with
  | simpleProxy => exact ⟨(· = none), rfl, simpleServer_agreement⟩
  | seProxy => exact ⟨fun _ => True, trivial, seServer_agreement⟩

theorem Shipped.clientAgreement (which : Shipped) :
    ∃ own, own none ∧ ClientAgreement own (which.client env : ClientModule σ) := by
  cases which with
  | simpleProxy => exact ⟨(· = none), rfl, simpleClient_agreement⟩
  | seProxy => exact ⟨fun _ => True, trivial, seClient_agreement⟩

end

end SnakeSocks.Heap
