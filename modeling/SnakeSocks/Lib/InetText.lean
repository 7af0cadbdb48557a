import Mathlib.Data.List.Basic

/-!
# Numeric addresses in text

`inetPton4` and `inetPton6` read the two numeric notations as POSIX `inet_pton` does: four decimal numbers without leading
zeros between dots, and groups of one to four hexadecimal digits between colons, with at most one `::` for a run of zero
groups, and possibly an IPv4 address for the last two groups. What the notations are for: an address that is printed in its
own notation is read back (`inetPton4_dotted`), and text with more groups than an address has is refused
(`inetPton6_many`).
-/

namespace InetText

/-! ## Numbers -/

/-- The value of a digit of the base. -/
def digit (base : Nat) (c : Char) : Option Nat :=
  let v := if '0' ≤ c ∧ c ≤ '9' then c.toNat - '0'.toNat
    else if 'a' ≤ c ∧ c ≤ 'f' then c.toNat - 'a'.toNat + 10
    else if 'A' ≤ c ∧ c ≤ 'F' then c.toNat - 'A'.toNat + 10
    else base
  if v < base then some v else none

def numeral (base : Nat) (cs : List Char) : Option Nat :=
  cs.foldlM (fun n c => (digit base c).map (n * base + ·)) 0

/-- A part of a dotted address. -/
def decByte (cs : List Char) : Option UInt8 :=
  if cs = [] ∨ 1 < cs.length ∧ cs.head? = some '0' then none
  else (numeral 10 cs).bind fun n => if n ≤ 255 then some (UInt8.ofNat n) else none

/-- A group of hexadecimal digits, in network byte order. -/
def hextet (cs : List Char) : Option (List UInt8) :=
  if 1 ≤ cs.length ∧ cs.length ≤ 4 then (numeral 16 cs).map fun n => [UInt8.ofNat (n / 256), UInt8.ofNat n] else none

/-! ## Addresses -/

/-- `n` bytes, or nothing. -/
def exactly (n : Nat) (bytes : List UInt8) : Option (Vector UInt8 n) :=
  if h : bytes.length = n then some ⟨bytes.toArray, by simpa using h⟩ else none

def inetPton4 (s : List Char) : Option (Vector UInt8 4) := ((s.splitOn '.').mapM decByte).bind (exactly 4)

/-- Groups on one side of `::`; the last one may be an IPv4 address. -/
def groups : List (List Char) → Option (List UInt8)
  | [] => some []
  | [g] => (hextet g).orElse fun _ => (inetPton4 g).map Vector.toList
  | g :: gs => do
    let bytes ← hextet g
    let rest ← groups gs
    return bytes ++ rest

/-- What stands before and behind the first `::`. -/
def splitDouble : List Char → Option (List Char × List Char)
  | [] => none
  | c :: cs =>
    if c = ':' ∧ cs.head? = some ':' then some ([], cs.tail) else (splitDouble cs).map fun p => (c :: p.1, p.2)

/-- One side of `::`, which may be empty. -/
def side (s : List Char) : Option (List UInt8) := if s = [] then some [] else groups (s.splitOn ':')

/-- `::` stands for at least one group, and an IPv4 address only at the end. -/
def inetPton6 (s : List Char) : Option (Vector UInt8 16) :=
  match splitDouble s with
  | none => (groups (s.splitOn ':')).bind (exactly 16)
  | some (l, r) =>
    if '.' ∈ l then none
    else do
      let front ← side l
      let back ← side r
      if front.length + back.length ≤ 14 then
        exactly 16 (front ++ List.replicate (16 - front.length - back.length) 0 ++ back)
      else none

/-! ## Reading back -/

/-- A byte in decimal. -/
def decimal (b : UInt8) : List Char := Nat.toDigits 10 b.toNat

theorem decByte_toDigits : ∀ n : Fin 256, decByte (Nat.toDigits 10 n) = some (UInt8.ofNat n) := by decide +kernel

theorem toDigits_plain : ∀ n : Fin 256, Nat.toDigits 10 n ≠ [] ∧ '.' ∉ Nat.toDigits 10 n ∧ ':' ∉ Nat.toDigits 10 n := by
  decide +kernel

theorem decByte_decimal (b : UInt8) : decByte (decimal b) = some b := by
  have h := decByte_toDigits ⟨b.toNat, b.toNat_lt⟩
  rwa [UInt8.ofNat_toNat] at h

theorem decimal_plain (b : UInt8) : decimal b ≠ [] ∧ '.' ∉ decimal b ∧ ':' ∉ decimal b :=
  toDigits_plain ⟨b.toNat, b.toNat_lt⟩

theorem mapM_decByte (bytes : List UInt8) : (bytes.map decimal).mapM decByte = some bytes := by
  induction bytes with
  | nil => rfl
  | cons b bytes ih =>
    rw [List.map_cons, List.mapM_cons, decByte_decimal, ih]
    rfl

theorem exactly_toList {n : Nat} (v : Vector UInt8 n) : exactly n v.toList = some v := by
  rcases v with ⟨⟨l⟩, h⟩
  exact dif_pos (by simpa using h)

/-- Four bytes in decimal between dots are the address they were printed from. -/
theorem inetPton4_dotted (v : Vector UInt8 4) : inetPton4 (['.'].intercalate (v.toList.map decimal)) = some v := by
  have hsplit : (['.'].intercalate (v.toList.map decimal)).splitOn '.' = v.toList.map decimal := by
    apply List.splitOn_intercalate
    · intro l hl
      obtain ⟨b, -, rfl⟩ := List.mem_map.1 hl
      exact (decimal_plain b).2.1
    · intro hnil
      have := congrArg List.length hnil
      simp at this
  rw [inetPton4, hsplit, mapM_decByte]
  exact exactly_toList v

theorem mem_intercalate {c sep : Char} : ∀ {gs : List (List Char)}, c ∈ [sep].intercalate gs → c = sep ∨ ∃ g ∈ gs, c ∈ g
  | [], h => by simp at h
  | [g], h => .inr ⟨g, by simp, by simpa using h⟩
  | g :: g' :: gs, h => by
    rw [List.intercalate_cons_cons, List.mem_append, List.mem_append] at h
    rcases h with (h | h) | h
    · exact .inr ⟨g, List.mem_cons_self, h⟩
    · exact .inl (by simpa using h)
    · exact (mem_intercalate h).imp id fun ⟨x, hx, hc⟩ => ⟨x, List.mem_cons_of_mem _ hx, hc⟩

theorem inetPton4_of_no_dot {s : List Char} (h : '.' ∉ s) : inetPton4 s = none := by
  rw [inetPton4, List.splitOn_eq_singleton h]
  cases hb : decByte s with
  | none => simp [hb]
  | some b => simp [hb, exactly]

example : inetPton4 "10.0.0.7".toList = some #v[10, 0, 0, 7] := by decide +kernel

/-! ## Too many groups -/

theorem hextet_length {g : List Char} {bytes : List UInt8} (h : hextet g = some bytes) : bytes.length = 2 := by
  unfold hextet at h
  split at h
  · obtain ⟨n, -, rfl⟩ := Option.map_eq_some_iff.1 h
    rfl
  · cases h

theorem groups_length : ∀ {gs : List (List Char)} {bytes : List UInt8}, groups gs = some bytes → 2 * gs.length ≤ bytes.length
  | [], _, _ => by simp
  | [g], bytes, h => by
    rw [groups] at h
    cases hg : hextet g with
    | some b =>
      rw [hg] at h
      cases h
      simp [hextet_length hg]
    | none =>
      rw [hg] at h
      obtain ⟨v, -, rfl⟩ := Option.map_eq_some_iff.1 h
      simp
  | g :: g' :: gs, bytes, h => by
    rw [groups] at h
    · obtain ⟨b, hb, h⟩ := Option.bind_eq_some_iff.1 h
      obtain ⟨rest, hr, h⟩ := Option.bind_eq_some_iff.1 h
      cases h
      have ih := groups_length hr
      have hl := hextet_length hb
      simp only [List.length_append, List.length_cons] at ih ⊢
      omega
    · nofun

theorem splitDouble_append {g : List Char} (h : ':' ∉ g) {r : List Char} (hr : splitDouble r = none) :
    splitDouble (g ++ r) = none := by
  induction g with
  | nil => exact hr
  | cons c g ih =>
    have hc : c ≠ ':' := fun he => h (he ▸ List.mem_cons_self)
    rw [List.cons_append, splitDouble, if_neg (fun hp => hc hp.1), ih fun hm => h (List.mem_cons_of_mem _ hm)]
    rfl

/-- Groups that are not empty make no `::`. -/
theorem splitDouble_intercalate : ∀ {gs : List (List Char)}, (∀ g ∈ gs, g ≠ [] ∧ ':' ∉ g) →
    splitDouble ([':'].intercalate gs) = none
  | [], _ => rfl
  | [g], h => by
    have hs := splitDouble_append (h g List.mem_cons_self).2 (r := []) rfl
    simpa using hs
  | g :: g' :: gs, h => by
    have ih := @splitDouble_intercalate (g' :: gs) fun x hx => h x (List.mem_cons_of_mem _ hx)
    rw [List.intercalate_cons_cons, List.append_assoc]
    refine splitDouble_append (h g List.mem_cons_self).2 ?_
    obtain ⟨hne, hcolon⟩ := h g' (by simp)
    obtain ⟨c, g'', rfl⟩ := List.exists_cons_of_ne_nil hne
    have hc : c ≠ ':' := fun he => hcolon (he ▸ List.mem_cons_self)
    have hhead : ([':'].intercalate ((c :: g'') :: gs)).head? = some c := by
      cases gs <;> simp
    show splitDouble (':' :: [':'].intercalate ((c :: g'') :: gs)) = none
    rw [splitDouble, if_neg (by rw [hhead]; simpa using hc), ih]
    rfl

/-- An address has eight groups. -/
theorem inetPton6_many {gs : List (List Char)} (hgs : ∀ g ∈ gs, g ≠ [] ∧ ':' ∉ g) (hmany : 8 < gs.length) :
    inetPton6 ([':'].intercalate gs) = none := by
  have hsplit : ([':'].intercalate gs).splitOn ':' = gs := by
    apply List.splitOn_intercalate
    · intro g hg
      exact (hgs g hg).2
    · rintro rfl
      simp at hmany
  rw [inetPton6, splitDouble_intercalate hgs]
  simp only [hsplit]
  cases hg : groups gs with
  | none => rfl
  | some bytes =>
    have hl := groups_length hg
    have hne : bytes.length ≠ 16 := by omega
    simp [exactly, hne]

example : inetPton6 "2001:db8::7".toList = some #v[32, 1, 13, 184, 0, 0, 0, 0, 0, 0, 0, 0, 0, 0, 0, 7] := by decide +kernel

end InetText
