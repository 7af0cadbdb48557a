import Mathlib.Data.List.Basic

/-!
# `format_string` of `rlib/string.hpp`

| here | there |
| --- | --- |
| `fill`, `formatString` | `impl::_format_string_helper` (`string.hpp:64-112`), which `operator""_format` calls |
| `unescape` | the loop that replaces `\{}` by `{}` (`string.hpp:82-86`) |
| `refuseSend`, `refuseRecv` | the texts of `NetLib.hpp:33-34`, `:43-44` |

It throws unless the placeholders and the arguments are equally many. A text that is handed to `rlog` alone is a format
string without arguments (`log.hpp:95-100`), so a log line throws if what it quotes has a `{}` in it.
-/

namespace SnakeSocks.Rlib

def unescape : List Char → List Char
  | '\\' :: '\x7b' :: '\x7d' :: text => '\x7b' :: '\x7d' :: unescape text
  | c :: text => c :: unescape text
  | [] => []

def notEnough (fmt : String) (n : Nat) : String :=
  "format_string: not enough arguments for format string `" ++ fmt ++ "`. Expecting at least " ++ toString (n + 1) ++
    ", got " ++ toString n

def tooMany (fmt : String) (used n : Nat) : String :=
  "format_string: too many arguments for format string `" ++ fmt ++ "`. Expecting " ++ toString used ++ ", got " ++ toString n

/-- The loop of `fmt` with `n` arguments: `prev` is the character in front, `cut` what stands behind the last placeholder that
was filled, `args` the arguments that are left. The text behind the last placeholder keeps its escapes. -/
def fill (fmt : String) (n : Nat) (prev : Option Char) (cut : List Char) (escaped : Bool) (args : List String)
    (ss : List Char) : List Char → Except String String
  | '\x7b' :: '\x7d' :: text =>
    if prev = some '\\' then fill fmt n (some '\x7d') (cut ++ ['\x7b', '\x7d']) true args ss text
    else
      match args with
      | [] => .error (notEnough fmt n)
      | arg :: args => fill fmt n (some '\x7d') [] escaped args (ss ++ (if escaped then unescape cut else cut) ++ arg.toList) text
  | c :: text => fill fmt n (some c) (cut ++ [c]) escaped args ss text
  | [] => if args.length ≠ 0 then .error (tooMany fmt (n - args.length) n) else .ok (String.ofList (ss ++ cut))

def formatString (fmt : String) (args : List String) : Except String String :=
  fill fmt args.length none [] false args [] fmt.toList

/-- The placeholders that are not escaped. -/
def places (prev : Option Char) : List Char → Nat
  | '\x7b' :: '\x7d' :: text => (if prev = some '\\' then 0 else 1) + places (some '\x7d') text
  | c :: text => places (some c) text
  | [] => 0

/-- By induction along the loop: each placeholder takes an argument. -/
theorem fill_isOk_iff (fmt : String) (n : Nat) (prev : Option Char) (cut : List Char) (escaped : Bool) (args : List String)
    (ss text : List Char) : (∃ s, fill fmt n prev cut escaped args ss text = .ok s) ↔ places prev text = args.length := by
  fun_induction fill fmt n prev cut escaped args ss text with
  | case1 cut escaped args ss text ih => simpa [places] using ih
  | case2 prev cut escaped ss text h => simp [places, h]
  | case3 prev cut escaped ss text h arg args ih =>
    rw [ih]
    simp only [places, h, if_false, List.length_cons]
    omega
  | case4 prev cut escaped args ss c text hc ih =>
    rw [ih, places]
    simpa using hc
  | case5 prev cut escaped args ss h =>
    refine iff_of_false (by simp) ?_
    simpa [places, eq_comm] using h
  | case6 prev cut escaped args ss h => simpa [places, eq_comm] using h

/-- A format string is filled exactly if it has as many placeholders as there are arguments. -/
theorem formatString_isOk_iff (fmt : String) (args : List String) :
    (∃ s, formatString fmt args = .ok s) ↔ places none fmt.toList = args.length :=
  fill_isOk_iff fmt args.length none [] false args [] fmt.toList

/-- Without a brace there is no placeholder. -/
theorem fill_plain {fmt : String} {n : Nat} {prev : Option Char} {cut : List Char} {escaped : Bool} {args : List String}
    {ss text : List Char} (h : '\x7b' ∉ text) : fill fmt n prev cut escaped args ss text =
      if args.length ≠ 0 then .error (tooMany fmt (n - args.length) n) else .ok (String.ofList (ss ++ cut ++ text)) := by
  induction text generalizing prev cut with
  | nil => simp [fill]
  | cons c text ih =>
    rw [List.mem_cons, not_or] at h
    rw [fill, ih h.2, List.append_assoc ss (cut ++ [c]) text, List.append_assoc cut, List.singleton_append, List.append_assoc]
    rintro text' rfl
    exact absurd rfl h.1

theorem formatString_plain {fmt : String} (h : '\x7b' ∉ fmt.toList) (args : List String) : formatString fmt args =
    if args.length ≠ 0 then .error (tooMany fmt 0 args.length) else .ok fmt := by
  rw [formatString, fill_plain h, Nat.sub_self, List.nil_append, List.nil_append, String.ofList_toList]

/-- A log line without further arguments. -/
def logged (info : String) : Except String Unit := (formatString info []).map fun _ => ()

theorem logged_of_places {info : String} (h : places none info.toList = 0) : logged info = .ok () := by
  obtain ⟨s, hs⟩ := (formatString_isOk_iff info []).2 h
  rw [logged, hs]
  rfl

theorem places_of_logged {info : String} (h : logged info = .ok ()) : places none info.toList = 0 := by
  refine (formatString_isOk_iff info []).1 ?_
  cases hf : formatString info [] with
  | ok s => exact ⟨s, rfl⟩
  | error what =>
    rw [logged, hf] at h
    cases h

end SnakeSocks.Rlib

namespace SnakeSocks.NetLib

open Rlib

/-- What is thrown for a packet that is too large: there is `()` where `{}` was meant, and the length is one argument too many. -/
def refuseSend : String := tooMany "send_length_and_packet: refuse to send too large packet: length=()" 0 1

def refuseRecv : String := tooMany "recv_length_and_packet: refuse to recv too large packet: length=()" 0 1

/-- Neither of the two texts is ever put together. -/
theorem refusals_thrown (length : String) :
    formatString "send_length_and_packet: refuse to send too large packet: length=()" [length] = .error refuseSend ∧
      formatString "recv_length_and_packet: refuse to recv too large packet: length=()" [length] = .error refuseRecv :=
  ⟨formatString_plain (by decide) [length], formatString_plain (by decide) [length]⟩

end SnakeSocks.NetLib
