import SnakeSocks.Native.Sio
import Mathlib.Data.List.Nodup
import Mathlib.Data.List.Pairwise

/-!
# The command line

| here | there |
| --- | --- |
| `getValueArg`, `getBoolArg` | `rlib::opt_parser::getValueArg`, `getBoolArg` with one name (`opt.hpp:55`, `:87`) |
| `getValueArgOf`, `getBoolArgOf` | the overloads with a long and a short name (`opt.hpp:95`, `:110`) |

The parser looks for one name at a time, in the order of the program, and takes what it finds out of the vector. `Line` says when
a command line means what it says: each option once, and no value that stands alone looks like a name that is looked for before
its own. Then the order and the spelling do not matter, and nothing is left.
-/

namespace SnakeSocks.Opt

open Effects (bind_of_ok)
open Sio (Stop)

/-- The state is `args`. -/
abbrev Parser := EStateM Stop (List String)

/-- The lambda of `find_if`: the name itself, or the name and `=`. -/
def isArg (argName ele : String) : Bool :=
  ele = argName || ele.toList.take (argName.length + 1) = argName.toList ++ ['=']

def getValueArg (argName : String) (required : Bool) (dflt : String) : Parser String := do
  let args ← get
  match args.findIdx? (isArg argName) with
  | none => if required then throw (.exn ("Required argument '" ++ argName ++ "' not provided.")) else return dflt
  | some pos =>
    let ele := args.getD pos ""
    if ele ≠ argName then
      set (args.eraseIdx pos)
      return String.ofList (ele.toList.drop (argName.length + 1))
    else if pos + 1 < args.length then
      set ((args.eraseIdx (pos + 1)).eraseIdx pos)
      return args.getD (pos + 1) ""
    else
      -- it throws, and the guard of the scope erases behind the end all the same
      throw (.fault .writeOutside)

def getBoolArg (argName : String) : Parser Bool := do
  let args ← get
  match args.findIdx? (· = argName) with
  | none => return false
  | some pos =>
    set (args.eraseIdx pos)
    return true

def getValueArgOf (longName shortName : String) (required : Bool) (dflt : String) : Parser String := do
  let valueL ← getValueArg longName false ""
  let valueS ← getValueArg shortName false ""
  let value := if valueL = "" then valueS else valueL
  if value = "" then
    if required then
      throw (.exn ("Required argument '" ++ longName ++ "/" ++ shortName ++ "' not provided."))
    else
      return dflt
  else
    return value

def getBoolArgOf (longName shortName : String) : Parser Bool := do
  if ← getBoolArg longName then
    return true
  else
    getBoolArg shortName

/-! ## Command lines that mean what they say -/

/-- An option by its names, in the order in which they are looked for. -/
structure Switch where
  names : List String
  isFlag : Bool
deriving DecidableEq

inductive Form where
  | bare
  | spaced (value : String)
  | joined (value : String)
deriving DecidableEq

/-- One option on the command line. -/
structure Use where
  opt : Switch
  name : String
  form : Form
deriving DecidableEq

def Use.render (u : Use) : List String :=
  match u.form with
  | .bare => [u.name]
  | .spaced value => [u.name, value]
  | .joined value => [u.name ++ "=" ++ value]

def Use.value (u : Use) : String :=
  match u.form with
  | .bare => ""
  | .spaced value | .joined value => value

/-- The value that is an argument of its own. -/
def Use.standing (u : Use) : List String :=
  match u.form with
  | .spaced value => [value]
  | .bare | .joined _ => []

def line (uses : List Use) : List String := uses.flatMap Use.render

/-- The value an option is given, and whether it is there. -/
def given (uses : List Use) (o : Switch) : String := ((uses.find? (·.opt = o)).map Use.value).getD ""

def has (uses : List Use) (o : Switch) : Bool := uses.any (·.opt = o)

/-- The names that are looked for before that of `u`. -/
def earlier (table : List Switch) (u : Use) : List String := (table.flatMap Switch.names).takeWhile (· ≠ u.name)

/-- The table of a program: no name twice, and none with an equals sign in it. -/
structure Table (table : List Switch) : Prop where
  nodup : (table.flatMap Switch.names).Nodup
  plain : ∀ n ∈ table.flatMap Switch.names, '=' ∉ n.toList

/-- Each option of the table at most once, by one of its names, a flag alone and the others with a value. -/
structure Line (table : List Switch) (uses : List Use) : Prop where
  once : (uses.map Use.opt).Nodup
  known : ∀ u ∈ uses, u.opt ∈ table
  named : ∀ u ∈ uses, u.name ∈ u.opt.names
  formed : ∀ u ∈ uses, u.opt.isFlag = true ↔ u.form = .bare
  clear : ∀ u ∈ uses, ∀ value ∈ u.standing, ∀ n ∈ earlier table u, isArg n value = false

/-! ## Which arguments a name finds -/

section
variable {n m value : String}

theorem isArg_self (n : String) : isArg n n = true := by simp [isArg]

theorem toList_joined (n value : String) : (n ++ "=" ++ value).toList = n.toList ++ '=' :: value.toList := by simp

theorem isArg_joined_self (n value : String) : isArg n (n ++ "=" ++ value) = true := by
  have htake : (n ++ "=" ++ value).toList.take (n.length + 1) = n.toList ++ ['='] := by
    rw [toList_joined, ← String.length_toList, List.take_length_add_append]
    rfl
  rw [isArg, htake]
  simp

theorem joined_ne_self (n value : String) : n ++ "=" ++ value ≠ n := by
  intro h
  have hlen := congrArg (fun s => s.toList.length) h
  rw [toList_joined] at hlen
  simp at hlen

/-- An argument without an equals sign is found by its own name alone. -/
theorem isArg_plain (hm : '=' ∉ m.toList) (hne : m ≠ n) : isArg n m = false := by
  have hpre : m.toList.take (n.length + 1) ≠ n.toList ++ ['='] := by
    intro h
    refine hm (List.mem_of_mem_take (i := n.length + 1) ?_)
    rw [h]
    simp
  simp [isArg, hne, hpre]

/-- The part before the first equals sign. -/
theorem takeWhile_joined {cs rest : List Char} (h : '=' ∉ cs) : (cs ++ '=' :: rest).takeWhile (· ≠ '=') = cs := by
  rw [List.takeWhile_append_of_pos]
  · simp
  · intro c hc
    simp only [ne_eq, decide_not, Bool.not_eq_true', decide_eq_false_iff_not]
    rintro rfl
    exact h hc

theorem isArg_joined (hn : '=' ∉ n.toList) (hm : '=' ∉ m.toList) (hne : m ≠ n) : isArg n (m ++ "=" ++ value) = false := by
  have heq : m ++ "=" ++ value ≠ n := by
    rintro rfl
    rw [toList_joined] at hn
    simp at hn
  have hpre : (m ++ "=" ++ value).toList.take (n.length + 1) ≠ n.toList ++ ['='] := by
    intro h
    -- both names are what stands before the first equals sign
    have hsplit := List.take_append_drop (n.length + 1) (m ++ "=" ++ value).toList
    rw [h, toList_joined, List.append_assoc] at hsplit
    have hboth := congrArg (List.takeWhile (· ≠ '=')) hsplit
    rw [takeWhile_joined hm, List.singleton_append, takeWhile_joined hn] at hboth
    exact hne (String.toList_inj.1 hboth.symm)
  simp only [isArg, heq, hpre, decide_false, Bool.or_self]

end

/-! ## One name -/

section
variable {n value dflt : String} {args pre post : List String}

theorem findIdx_behind {p : String → Bool} {e : String} (post : List String) (hpre : ∀ x ∈ pre, p x = false)
    (he : p e = true) : (pre ++ e :: post).findIdx? p = some pre.length := by
  rw [List.findIdx?_append, List.findIdx?_eq_none_iff.2 hpre]
  simp [List.findIdx?_cons, he]

theorem get_bind {α : Type} (f : List String → Parser α) : (get >>= f) args = f args args := rfl

theorem getD_behind (pre post : List String) (e : String) : (pre ++ e :: post).getD pre.length "" = e := by simp

theorem getValueArg_absent (h : ∀ e ∈ args, isArg n e = false) : getValueArg n false dflt args = .ok dflt args := by
  have hfind : args.findIdx? (isArg n) = none := List.findIdx?_eq_none_iff.2 h
  rw [getValueArg, get_bind]
  simp only [hfind]
  rfl

theorem getValueArg_found {pos : Nat} {ele : String} (hfind : args.findIdx? (isArg n) = some pos)
    (hele : args.getD pos "" = ele) : getValueArg n false dflt args =
      if ele ≠ n then .ok (String.ofList (ele.toList.drop (n.length + 1))) (args.eraseIdx pos)
      else if pos + 1 < args.length then .ok (args.getD (pos + 1) "") ((args.eraseIdx (pos + 1)).eraseIdx pos)
      else .error (.fault .writeOutside) args := by
  subst hele
  rw [getValueArg, get_bind]
  simp only [hfind]
  split_ifs <;> rfl

theorem getValueArg_spaced (hpre : ∀ e ∈ pre, isArg n e = false) :
    getValueArg n false dflt (pre ++ n :: value :: post) = .ok value (pre ++ post) := by
  have hfind := findIdx_behind (value :: post) hpre (isArg_self n)
  have hlt : pre.length + 1 < (pre ++ n :: value :: post).length := by simp
  rw [getValueArg_found hfind (getD_behind _ _ _), if_neg (not_not.2 rfl), if_pos hlt]
  congr 1
  · simp
  · rw [List.eraseIdx_append_of_length_le (by omega), List.eraseIdx_append_of_length_le (by omega)]
    simp

theorem getValueArg_joined (hpre : ∀ e ∈ pre, isArg n e = false) :
    getValueArg n false dflt (pre ++ (n ++ "=" ++ value) :: post) = .ok value (pre ++ post) := by
  have hfind := findIdx_behind post hpre (isArg_joined_self n value)
  rw [getValueArg_found hfind (getD_behind _ _ _), if_pos (joined_ne_self n value)]
  congr 1
  · rw [toList_joined, ← String.length_toList, List.drop_length_add_append]
    simp
  · rw [List.eraseIdx_append_of_length_le le_rfl]
    simp

theorem getBoolArg_absent (h : n ∉ args) : getBoolArg n args = .ok false args := by
  have hfind : args.findIdx? (· = n) = none := by
    refine List.findIdx?_eq_none_iff.2 fun e he => ?_
    simp only [decide_eq_false_iff_not]
    rintro rfl
    exact h he
  rw [getBoolArg, get_bind]
  simp only [hfind]
  rfl

theorem getBoolArg_present (hpre : n ∉ pre) : getBoolArg n (pre ++ n :: post) = .ok true (pre ++ post) := by
  have hfind : (pre ++ n :: post).findIdx? (· = n) = some pre.length := by
    refine findIdx_behind post (fun e he => ?_) (by simp)
    simp only [decide_eq_false_iff_not]
    rintro rfl
    exact hpre he
  rw [getBoolArg, get_bind]
  simp only [hfind]
  have herase : (pre ++ n :: post).eraseIdx pre.length = pre ++ post := by
    rw [List.eraseIdx_append_of_length_le le_rfl]
    simp
  rw [herase]
  rfl

end

/-! ## One name on a line -/

/-- What is left of a line when the names before `names` have been looked for. -/
structure Ready (names : List String) (uses : List Use) : Prop where
  once : (uses.map Use.name).Nodup
  known : ∀ u ∈ uses, u.name ∈ names
  clear : ∀ u ∈ uses, ∀ value ∈ u.standing, ∀ n ∈ names.takeWhile (· ≠ u.name), isArg n value = false

/-- The value behind a name. -/
def valueOf (uses : List Use) (n : String) : String := ((uses.find? (·.name = n)).map Use.value).getD ""

section
variable {n : String} {names : List String} {uses pre post : List Use} {u : Use}

/-- A use of another name is not found. -/
theorem Ready.quiet (h : Ready (n :: names) uses) (hplain : ∀ m ∈ n :: names, '=' ∉ m.toList) (hu : u ∈ uses)
    (hne : u.name ≠ n) : ∀ e ∈ u.render, isArg n e = false := by
  have hn := hplain n List.mem_cons_self
  have hm := hplain u.name (h.known u hu)
  have hname := isArg_plain hm hne
  intro e he
  cases hf : u.form with
  | bare =>
    rw [Use.render, hf] at he
    obtain rfl := List.mem_singleton.1 he
    exact hname
  | spaced value =>
    rw [Use.render, hf] at he
    rcases List.mem_cons.1 he with rfl | he
    · exact hname
    · obtain rfl := List.mem_singleton.1 he
      refine h.clear u hu e ?_ n ?_
      · simp [Use.standing, hf]
      · simp [hne.symm]
  | joined value =>
    rw [Use.render, hf] at he
    obtain rfl := List.mem_singleton.1 he
    exact isArg_joined hn hm hne

/-- The name need not be looked for when nothing uses it. -/
theorem Ready.tail (h : Ready (n :: names) uses) (hne : ∀ u ∈ uses, u.name ≠ n) : Ready names uses := by
  refine ⟨h.once, fun u hu => ?_, fun u hu value hf m hm => ?_⟩
  · exact (List.mem_cons.1 (h.known u hu)).resolve_left (hne u hu)
  · refine h.clear u hu value hf m ?_
    rw [List.takeWhile_cons, if_pos (by simpa using (hne u hu).symm)]
    exact List.mem_cons_of_mem _ hm

theorem Ready.sublist (h : Ready names uses) {kept : List Use} (hs : kept.Sublist uses) : Ready names kept :=
  ⟨h.once.sublist (hs.map _), fun u hu => h.known u (hs.subset hu), fun u hu => h.clear u (hs.subset hu)⟩

theorem Ready.next (h : Ready (n :: names) uses) : Ready names (uses.filter (·.name ≠ n)) := by
  refine (h.sublist List.filter_sublist).tail fun u hu => ?_
  simpa using (List.mem_filter.1 hu).2

theorem line_append (pre post : List Use) : line (pre ++ post) = line pre ++ line post := List.flatMap_append

theorem line_cons (u : Use) (post : List Use) : line (u :: post) = u.render ++ line post := rfl

/-- A line by the one use of a name. -/
theorem Ready.split (h : Ready (n :: names) uses) (hu : uses.find? (·.name = n) = some u) :
    ∃ pre post, uses = pre ++ u :: post ∧ u.name = n ∧ (∀ w ∈ pre, w.name ≠ n) ∧
      uses.filter (·.name ≠ n) = pre ++ post := by
  obtain ⟨hname, pre, post, rfl, hpre⟩ := List.find?_eq_some_iff_append.1 hu
  have hname : u.name = n := by simpa using hname
  have hpre : ∀ w ∈ pre, w.name ≠ n := by simpa using hpre
  have hpost : ∀ w ∈ post, w.name ≠ n := by
    intro w hw he
    have hnd := h.once
    rw [List.map_append, List.map_cons] at hnd
    have hnot := (List.nodup_cons.1 (List.nodup_append.1 hnd).2.1).1
    exact hnot (hname.trans he.symm ▸ List.mem_map_of_mem hw)
  refine ⟨pre, post, rfl, hname, hpre, ?_⟩
  rw [List.filter_append, List.filter_cons, if_neg (by simp [hname]), List.filter_eq_self.2, List.filter_eq_self.2]
  · intro w hw
    simpa using hpost w hw
  · intro w hw
    simpa using hpre w hw

theorem Ready.quiet_line (h : Ready (n :: names) uses) (hplain : ∀ m ∈ n :: names, '=' ∉ m.toList)
    (hs : pre.Sublist uses) (hpre : ∀ w ∈ pre, w.name ≠ n) : ∀ e ∈ line pre, isArg n e = false := by
  intro e he
  obtain ⟨w, hw, he⟩ := List.mem_flatMap.1 he
  exact h.quiet hplain (hs.subset hw) (hpre w hw) e he

theorem find_name_none (hu : uses.find? (·.name = n) = none) : ∀ w ∈ uses, w.name ≠ n := by
  intro w hw
  simpa using List.find?_eq_none.1 hu w hw

theorem filter_name_of_forall (hne : ∀ w ∈ uses, w.name ≠ n) : uses.filter (·.name ≠ n) = uses := by
  refine List.filter_eq_self.2 fun w hw => ?_
  simpa using hne w hw

theorem getValueArg_line (h : Ready (n :: names) uses) (hplain : ∀ m ∈ n :: names, '=' ∉ m.toList)
    (hval : ∀ u ∈ uses, u.name = n → u.form ≠ .bare) :
    getValueArg n false "" (line uses) = .ok (valueOf uses n) (line (uses.filter (·.name ≠ n))) := by
  cases hu : uses.find? (·.name = n) with
  | none =>
    have hne := find_name_none hu
    rw [valueOf, hu, filter_name_of_forall hne]
    exact getValueArg_absent (h.quiet_line hplain (List.Sublist.refl _) hne)
  | some u =>
    obtain ⟨pre, post, huses, hname, hpre, hfilter⟩ := h.split hu
    have hquiet := h.quiet_line hplain (huses ▸ List.sublist_append_left pre _) hpre
    have hform := hval u (List.mem_of_find?_eq_some hu) hname
    rw [valueOf, hu, hfilter, line_append, huses, line_append, line_cons]
    cases hf : u.form with
    | bare => exact absurd hf hform
    | spaced value =>
      have hv : u.value = value := by rw [Use.value, hf]
      rw [Use.render, hf, hname, Option.map_some, Option.getD_some, hv]
      exact getValueArg_spaced hquiet
    | joined value =>
      have hv : u.value = value := by rw [Use.value, hf]
      rw [Use.render, hf, hname, Option.map_some, Option.getD_some, hv]
      exact getValueArg_joined hquiet

theorem getBoolArg_line (h : Ready (n :: names) uses) (hplain : ∀ m ∈ n :: names, '=' ∉ m.toList)
    (hflag : ∀ u ∈ uses, u.name = n → u.form = .bare) :
    getBoolArg n (line uses) = .ok (uses.any (·.name = n)) (line (uses.filter (·.name ≠ n))) := by
  -- a flag is found by its name alone
  have hnot : ∀ {args : List String}, (∀ e ∈ args, isArg n e = false) → n ∉ args := by
    intro args hall hn
    have := hall n hn
    rw [isArg_self] at this
    cases this
  cases hu : uses.find? (·.name = n) with
  | none =>
    have hne := find_name_none hu
    have hany : uses.any (·.name = n) = false := by
      rw [List.any_eq_false]
      intro w hw
      simpa using hne w hw
    rw [hany, filter_name_of_forall hne]
    exact getBoolArg_absent (hnot (h.quiet_line hplain (List.Sublist.refl _) hne))
  | some u =>
    obtain ⟨pre, post, huses, hname, hpre, hfilter⟩ := h.split hu
    have hquiet := h.quiet_line hplain (huses ▸ List.sublist_append_left pre _) hpre
    have hmem := List.mem_of_find?_eq_some hu
    have hany : uses.any (·.name = n) = true := List.any_eq_true.2 ⟨u, hmem, by simp [hname]⟩
    rw [hany, hfilter, line_append, huses, line_append, line_cons, Use.render, hflag u hmem hname, hname]
    exact getBoolArg_present (hnot hquiet)

end

/-! ## One option on a line -/

section
variable {o : Switch} {rest table : List Switch} {uses : List Use} {u : Use}

/-- A name belongs to one option. -/
theorem Table.opt_eq (ht : Table table) {o o' : Switch} (ho : o ∈ table) (ho' : o' ∈ table) {n : String} (hn : n ∈ o.names)
    (hn' : n ∈ o'.names) : o = o' := by
  by_contra hne
  have hpair := (List.nodup_flatMap.1 ht.nodup).2
  have hsymm : Std.Symm (Function.onFun List.Disjoint Switch.names) := ⟨fun _ _ hd _ ha hb => hd hb ha⟩
  exact hpair.forall ho ho' hne hn hn'

theorem Line.ready (ht : Table table) (h : Line table uses) : Ready (table.flatMap Switch.names) uses := by
  refine ⟨?_, fun u hu => ?_, h.clear⟩
  · refine List.pairwise_map.2 ((List.pairwise_map.1 h.once).imp_of_mem fun {u w} hu hw hne he => hne ?_)
    exact ht.opt_eq (h.known u hu) (h.known w hw) (h.named u hu) (he ▸ h.named w hw)
  · exact List.mem_flatMap.2 ⟨u.opt, h.known u hu, h.named u hu⟩

theorem Line.name_mem_iff (ht : Table table) (h : Line table uses) (ho : o ∈ table) (hu : u ∈ uses) :
    u.name ∈ o.names ↔ u.opt = o :=
  ⟨fun hn => ht.opt_eq (h.known u hu) ho (h.named u hu) hn, fun he => he ▸ h.named u hu⟩

theorem find_of_nodup_map {β : Type} [DecidableEq β] {f : Use → β} (h : (uses.map f).Nodup) (hu : u ∈ uses) :
    uses.find? (f · = f u) = some u := by
  have hsome : (uses.find? (f · = f u)).isSome := by
    rw [List.find?_isSome]
    exact ⟨u, hu, by simp⟩
  obtain ⟨w, hw⟩ := Option.isSome_iff_exists.1 hsome
  have hf : f w = f u := by simpa using List.find?_some hw
  rw [hw, List.inj_on_of_nodup_map h (List.mem_of_find?_eq_some hw) hu hf]

theorem given_of_mem (h : Line table uses) (hu : u ∈ uses) : given uses u.opt = u.value := by
  rw [given, find_of_nodup_map h.once hu]
  rfl

theorem given_of_forall (h : ∀ u ∈ uses, u.opt ≠ o) : given uses o = "" := by
  have hfind : uses.find? (·.opt = o) = none := List.find?_eq_none.2 fun u hu => by simpa using h u hu
  rw [given, hfind]
  rfl

theorem valueOf_of_mem {names : List String} (h : Ready names uses) (hu : u ∈ uses) : valueOf uses u.name = u.value := by
  rw [valueOf, find_of_nodup_map h.once hu]
  rfl

theorem valueOf_of_forall {n : String} (h : ∀ u ∈ uses, u.name ≠ n) : valueOf uses n = "" := by
  have hfind : uses.find? (·.name = n) = none := List.find?_eq_none.2 fun u hu => by simpa using h u hu
  rw [valueOf, hfind]
  rfl

section
variable {l s : String}

/-- Both names taken out are the option taken out. -/
theorem filter_names (ht : Table (o :: rest)) (h : Line (o :: rest) uses) (hn : o.names = [l, s]) :
    (uses.filter (·.name ≠ l)).filter (·.name ≠ s) = uses.filter (·.opt ≠ o) := by
  rw [List.filter_filter]
  refine List.filter_congr fun u hu => ?_
  have hiff := h.name_mem_iff ht List.mem_cons_self hu
  rw [hn] at hiff
  by_cases ho : u.opt = o
  · rcases List.mem_cons.1 (hiff.2 ho) with hl | hs
    · simp [ho, hl]
    · simp [ho, List.mem_singleton.1 hs]
  · have hl : u.name ≠ l := fun he => ho (hiff.1 (by simp [he]))
    have hs : u.name ≠ s := fun he => ho (hiff.1 (by simp [he]))
    simp [ho, hl, hs]

/-- The value is behind the one name or the other. -/
theorem value_eq_given (ht : Table (o :: rest)) (h : Line (o :: rest) uses) (hn : o.names = [l, s])
    (hready : Ready (l :: s :: rest.flatMap Switch.names) uses) :
    (if valueOf uses l = "" then valueOf (uses.filter (·.name ≠ l)) s else valueOf uses l) = given uses o := by
  have hiff : ∀ w ∈ uses, w.name ∈ [l, s] ↔ w.opt = o := fun w hw => hn ▸ h.name_mem_iff ht List.mem_cons_self hw
  by_cases hex : ∃ u ∈ uses, u.opt = o
  · obtain ⟨u, hu, rfl⟩ := hex
    -- the option is there once
    have huniq : ∀ w ∈ uses, w.name ∈ [l, s] → w = u := fun w hw hm =>
      List.inj_on_of_nodup_map h.once hw hu ((hiff w hw).1 hm)
    rw [given_of_mem h hu]
    by_cases hl : u.name = l
    · have hnone : valueOf (uses.filter (·.name ≠ l)) s = "" := by
        refine valueOf_of_forall fun w hw he => ?_
        obtain ⟨hw, hne⟩ := List.mem_filter.1 hw
        obtain rfl := huniq w hw (by simp [he])
        simp [hl] at hne
      rw [hnone, ← hl, valueOf_of_mem hready hu]
      split
      · next h0 => exact h0.symm
      · rfl
    · have hs : u.name = s := by
        rcases List.mem_cons.1 ((hiff u hu).2 rfl) with he | he
        · exact absurd he hl
        · exact List.mem_singleton.1 he
      have hnone : valueOf uses l = "" := by
        refine valueOf_of_forall fun w hw he => hl ?_
        obtain rfl := huniq w hw (by simp [he])
        exact he
      have hmem : u ∈ uses.filter (·.name ≠ l) := List.mem_filter.2 ⟨hu, by simpa using hl⟩
      rw [if_pos hnone, ← hs, valueOf_of_mem hready.next hmem]
  · have hne : ∀ w ∈ uses, w.name ∉ [l, s] := fun w hw hm => hex ⟨w, hw, (hiff w hw).1 hm⟩
    have hl : valueOf uses l = "" := valueOf_of_forall fun w hw he => hne w hw (by simp [he])
    have hs : valueOf (uses.filter (·.name ≠ l)) s = "" :=
      valueOf_of_forall fun w hw he => hne w (List.mem_filter.1 hw).1 (by simp [he])
    rw [if_pos hl, hs, given_of_forall fun w hw he => hex ⟨w, hw, he⟩]

theorem getValueArgOf_line (ht : Table (o :: rest)) (h : Line (o :: rest) uses) (hn : o.names = [l, s])
    (hv : o.isFlag = false) :
    getValueArgOf l s false "" (line uses) = .ok (given uses o) (line (uses.filter (·.opt ≠ o))) := by
  have hready := h.ready ht
  have hplain := ht.plain
  rw [List.flatMap_cons, hn] at hready hplain
  have hbare : ∀ u ∈ uses, u.name ∈ o.names → u.form ≠ .bare := by
    intro u hu hm hf
    have ho := (h.name_mem_iff ht List.mem_cons_self hu).1 hm
    rw [← ho, (h.formed u hu).2 hf] at hv
    cases hv
  have e₁ := getValueArg_line hready hplain fun u hu he => hbare u hu (by simp [hn, he])
  have e₂ := getValueArg_line hready.next (fun m hm => hplain m (List.mem_cons_of_mem _ hm))
    fun u hu he => hbare u (List.mem_filter.1 hu).1 (by simp [hn, he])
  rw [filter_names ht h hn] at e₂
  have hvalue := value_eq_given ht h hn hready
  rw [getValueArgOf, bind_of_ok e₁, bind_of_ok e₂]
  simp only [hvalue]
  by_cases h0 : given uses o = ""
  · rw [h0]
    rfl
  · rw [if_neg h0]
    rfl

theorem getBoolArgOf_line (ht : Table (o :: rest)) (h : Line (o :: rest) uses) (hn : o.names = [l, s])
    (hv : o.isFlag = true) :
    getBoolArgOf l s (line uses) = .ok (has uses o) (line (uses.filter (·.opt ≠ o))) := by
  have hready := h.ready ht
  have hplain := ht.plain
  rw [List.flatMap_cons, hn] at hready hplain
  have hiff : ∀ w ∈ uses, w.name ∈ [l, s] ↔ w.opt = o := fun w hw => hn ▸ h.name_mem_iff ht List.mem_cons_self hw
  have hbare : ∀ u ∈ uses, u.name ∈ [l, s] → u.form = .bare := by
    intro u hu hm
    exact (h.formed u hu).1 ((hiff u hu).1 hm ▸ hv)
  have e₁ := getBoolArg_line hready hplain fun u hu he => hbare u hu (by simp [he])
  have e₂ := getBoolArg_line hready.next (fun m hm => hplain m (List.mem_cons_of_mem _ hm))
    fun u hu he => hbare u (List.mem_filter.1 hu).1 (by simp [he])
  rw [filter_names ht h hn] at e₂
  rw [getBoolArgOf, bind_of_ok e₁]
  by_cases hex : ∃ u ∈ uses, u.name = l
  · obtain ⟨u, hu, hl⟩ := hex
    have ho := (hiff u hu).1 (by simp [hl])
    have hany : uses.any (·.name = l) = true := List.any_eq_true.2 ⟨u, hu, by simp [hl]⟩
    have hhas : has uses o = true := List.any_eq_true.2 ⟨u, hu, by simp [ho]⟩
    -- the short name is not looked for, and it is not there
    have hkept : uses.filter (·.name ≠ l) = uses.filter (·.opt ≠ o) := by
      rw [← filter_names ht h hn]
      refine (filter_name_of_forall fun w hw he => ?_).symm
      obtain ⟨hw, hne⟩ := List.mem_filter.1 hw
      have hwo := (hiff w hw).1 (by simp [he])
      obtain rfl := List.inj_on_of_nodup_map h.once hw hu (hwo.trans ho.symm)
      simp [hl] at hne
    rw [hany, hhas, hkept]
    rfl
  · have hany : uses.any (·.name = l) = false := by
      rw [List.any_eq_false]
      intro w hw hl
      exact hex ⟨w, hw, by simpa using hl⟩
    have hhas : (uses.filter (·.name ≠ l)).any (·.name = s) = has uses o := by
      rw [Bool.eq_iff_iff, has, List.any_eq_true, List.any_eq_true]
      constructor
      · rintro ⟨w, hw, hs⟩
        have hs : w.name = s := by simpa using hs
        obtain ⟨hw, -⟩ := List.mem_filter.1 hw
        exact ⟨w, hw, by simpa using (hiff w hw).1 (by simp [hs])⟩
      · rintro ⟨w, hw, ho⟩
        have ho : w.opt = o := by simpa using ho
        have hl : w.name ≠ l := fun hl => hex ⟨w, hw, hl⟩
        rcases List.mem_cons.1 ((hiff w hw).2 ho) with he | he
        · exact absurd he hl
        · exact ⟨w, List.mem_filter.2 ⟨hw, by simpa using hl⟩, by simpa using List.mem_singleton.1 he⟩
    rw [hany, ← hhas]
    exact e₂

end

/-- A flag that has one name. -/
theorem getBoolArg_flag {n : String} (ht : Table (o :: rest)) (h : Line (o :: rest) uses) (hn : o.names = [n])
    (hv : o.isFlag = true) : getBoolArg n (line uses) = .ok (has uses o) (line (uses.filter (·.opt ≠ o))) := by
  have hready := h.ready ht
  have hplain := ht.plain
  rw [List.flatMap_cons, hn] at hready hplain
  have hiff : ∀ w ∈ uses, w.name = n ↔ w.opt = o := by
    intro w hw
    rw [← h.name_mem_iff ht List.mem_cons_self hw, hn, List.mem_singleton]
  have e := getBoolArg_line hready hplain fun u hu he => (h.formed u hu).1 ((hiff u hu).1 he ▸ hv)
  have hhas : uses.any (·.name = n) = has uses o := by
    rw [Bool.eq_iff_iff, has, List.any_eq_true, List.any_eq_true]
    exact exists_congr fun w => and_congr_right fun hw => by simp [hiff w hw]
  have hkept : uses.filter (·.name ≠ n) = uses.filter (·.opt ≠ o) := List.filter_congr fun w hw => by simp [hiff w hw]
  rw [hhas, hkept] at e
  exact e

end

/-! ## A whole program -/

/-- What is left of the line when the options of `table` are still to be looked for. -/
def left (table : List Switch) (uses : List Use) : List Use := uses.filter (·.opt ∈ table)

section
variable {o : Switch} {rest table : List Switch} {uses : List Use} {l s : String}

theorem Table.suffix (ht : Table table) (hs : rest <:+ table) : Table rest := by
  obtain ⟨done, rfl⟩ := hs
  have hn := ht.nodup
  rw [List.flatMap_append] at hn
  refine ⟨(List.nodup_append.1 hn).2.1, fun n hm => ht.plain n ?_⟩
  rw [List.flatMap_append]
  exact List.mem_append_right _ hm

theorem Line.suffix (ht : Table table) (h : Line table uses) (hs : rest <:+ table) : Line rest (left rest uses) := by
  have hmem : ∀ u ∈ left rest uses, u ∈ uses ∧ u.opt ∈ rest := by
    intro u hu
    obtain ⟨hu, ho⟩ := List.mem_filter.1 hu
    exact ⟨hu, by simpa using ho⟩
  refine ⟨h.once.sublist (List.filter_sublist.map _), fun u hu => (hmem u hu).2, fun u hu => h.named u (hmem u hu).1,
    fun u hu => h.formed u (hmem u hu).1, fun u hu value hf n hn => ?_⟩
  obtain ⟨hu, ho⟩ := hmem u hu
  refine h.clear u hu value hf n ?_
  -- no name of the options that were looked for is the name of `u`
  obtain ⟨done, rfl⟩ := hs
  have hnd := ht.nodup
  rw [List.flatMap_append] at hnd
  have hall : ∀ m ∈ done.flatMap Switch.names, m ≠ u.name := fun m hm =>
    (List.nodup_append.1 hnd).2.2 m hm u.name (List.mem_flatMap.2 ⟨u.opt, ho, h.named u hu⟩)
  rw [earlier, List.flatMap_append, List.takeWhile_append_of_pos (by simpa using hall)]
  exact List.mem_append_right _ hn

theorem left_self (h : Line table uses) : left table uses = uses :=
  List.filter_eq_self.2 fun u hu => by simpa using h.known u hu

theorem left_nil (uses : List Use) : left [] uses = [] := by simp [left]

theorem left_cons (ht : Table (o :: rest)) (hn : o.names ≠ []) :
    (left (o :: rest) uses).filter (·.opt ≠ o) = left rest uses := by
  have ho : o ∉ rest := by
    intro ho
    obtain ⟨n, hm⟩ := List.exists_mem_of_ne_nil _ hn
    have hnd := ht.nodup
    rw [List.flatMap_cons] at hnd
    exact (List.nodup_append.1 hnd).2.2 n hm n (List.mem_flatMap.2 ⟨o, ho, hm⟩) rfl
  rw [left, left, List.filter_filter]
  refine List.filter_congr fun u _ => ?_
  by_cases he : u.opt = o
  · simp [he, ho]
  · simp [he]

theorem given_left : given (left (o :: rest) uses) o = given uses o := by
  rw [given, given, left, List.find?_filter]
  congr 3
  funext u
  by_cases he : u.opt = o
  · simp [he]
  · simp [he]

theorem has_left : has (left (o :: rest) uses) o = has uses o := by
  rw [has, has, left, List.any_filter]
  congr 1
  funext u
  by_cases he : u.opt = o
  · simp [he]
  · simp [he]

theorem takes_value (ht : Table table) (h : Line table uses) (hs : o :: rest <:+ table) (hn : o.names = [l, s])
    (hv : o.isFlag = false) :
    getValueArgOf l s false "" (line (left (o :: rest) uses)) = .ok (given uses o) (line (left rest uses)) := by
  rw [getValueArgOf_line (ht.suffix hs) (h.suffix ht hs) hn hv, left_cons (ht.suffix hs) (by simp [hn]), given_left]

theorem takes_flag (ht : Table table) (h : Line table uses) (hs : o :: rest <:+ table) (hn : o.names = [l, s])
    (hv : o.isFlag = true) :
    getBoolArgOf l s (line (left (o :: rest) uses)) = .ok (has uses o) (line (left rest uses)) := by
  rw [getBoolArgOf_line (ht.suffix hs) (h.suffix ht hs) hn hv, left_cons (ht.suffix hs) (by simp [hn]), has_left]

theorem takes_short_flag (ht : Table table) (h : Line table uses) (hs : o :: rest <:+ table) (hn : o.names = [l])
    (hv : o.isFlag = true) : getBoolArg l (line (left (o :: rest) uses)) = .ok (has uses o) (line (left rest uses)) := by
  rw [getBoolArg_flag (ht.suffix hs) (h.suffix ht hs) hn hv, left_cons (ht.suffix hs) (by simp [hn]), has_left]

theorem Line.perm {uses' : List Use} (h : Line table uses) (hp : uses'.Perm uses) : Line table uses' where
  once := (hp.map _).nodup_iff.2 h.once
  known u hu := h.known u (hp.subset hu)
  named u hu := h.named u (hp.subset hu)
  formed u hu := h.formed u (hp.subset hu)
  clear u hu := h.clear u (hp.subset hu)

theorem given_perm {uses' : List Use} (h : Line table uses) (hp : uses'.Perm uses) (o : Switch) :
    given uses' o = given uses o := by
  by_cases hex : ∃ u ∈ uses, u.opt = o
  · obtain ⟨u, hu, rfl⟩ := hex
    rw [given_of_mem h hu, given_of_mem (h.perm hp) (hp.mem_iff.2 hu)]
  · rw [given_of_forall fun u hu he => hex ⟨u, hu, he⟩, given_of_forall fun u hu he => hex ⟨u, hp.subset hu, he⟩]

theorem has_perm {uses' : List Use} (hp : uses'.Perm uses) (o : Switch) : has uses' o = has uses o := hp.any_eq

end

end SnakeSocks.Opt
