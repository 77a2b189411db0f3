import Conky.Libc

/-!
# The Dell laptop driver, i8k.cc

`update_i8k` clears a 128-byte buffer, reads up to 128 bytes of `/proc/i8k` into it and points
the ten fields of the global `i8k` at the tokens of ten calls of `strtok` with the delimiter
`I8K_DELIM`, a space. The `print_i8k_*` text objects print one field each.

Where the buffer holds a NUL, the fields are the runs of bytes other than a space in the text
read, and over a run of updates those of the last content read. The delimiter is a space only, so
the newline that ends the driver's line stays in the last field; and a content whose first 128
bytes hold no NUL leaves the buffer without one, where `strtok` reads past its end. The fields
are `NULL` before the first update and after a short read: `print_i8k_cpu_temp` and
`print_i8k_ac_status` then hand `NULL` to `sscanf`.
-/

namespace Conky

/-- `I8K_DELIM`: a space. -/
def I8K_DELIM : Nat := 32

/-- `struct _i8k`: each field `NULL` (`none`) or the string it points to. -/
structure I8k where
  version : Option (List Nat)
  bios : Option (List Nat)
  serial : Option (List Nat)
  cpu_temp : Option (List Nat)
  left_fan_status : Option (List Nat)
  right_fan_status : Option (List Nat)
  left_fan_rpm : Option (List Nat)
  right_fan_rpm : Option (List Nat)
  ac_status : Option (List Nat)
  buttons_status : Option (List Nat)
  deriving DecidableEq, Repr

/-- The global `i8k` before any update: zero-initialised, every field `NULL`. -/
def i8kUnset : I8k := ⟨none, none, none, none, none, none, none, none, none, none⟩

/-- The fields from the results of the ten calls of `strtok`, in the order of the source. -/
def I8k.ofTokens (toks : List (Option (List Nat))) : I8k :=
  ⟨toks.getD 0 none, toks.getD 1 none, toks.getD 2 none, toks.getD 3 none, toks.getD 4 none,
    toks.getD 5 none, toks.getD 6 none, toks.getD 7 none, toks.getD 8 none, toks.getD 9 none⟩

/-- `update_i8k()` given what `/proc/i8k` holds (`none` when `fopen` fails): the return value and
the fields; `none` where `strtok` reads past the buffer. -/
def updateI8k (proc : Option (List Nat)) (i8k : I8k) : Option (Int × I8k) :=
  match proc with
  | none => some (1, i8k)
  | some s =>
    let i8k_procbuf := s.take 128 ++ List.replicate (128 - s.length) 0
    (strtokN I8K_DELIM 10 i8k_procbuf).map fun toks => (0, I8k.ofTokens toks)

/-- The text `update_i8k` reads, the first 128 bytes up to the first NUL. -/
def i8kText (s : List Nat) : List Nat := (s.take 128).takeWhile (· ≠ 0)

/-- The maximal runs of bytes that are not white space. -/
def whitespaceRuns (text : List Nat) : List (List Nat) := (text.splitOnP isSpace).filter (· ≠ [])

theorem strtok_eq_none {delim : Nat} :
    ∀ {buf : List Nat}, (∀ c ∈ buf, c ≠ 0 ∧ c ≠ delim) → strtok delim buf = none := by
  have hend : ∀ {buf : List Nat}, (∀ c ∈ buf, c ≠ 0 ∧ c ≠ delim) → strtokEnd delim buf = none := by
    intro buf hbuf
    induction buf with
    | nil => rfl
    | cons c rest ih =>
      obtain ⟨h₀, hd⟩ := hbuf c (List.mem_cons_self c rest)
      simp [strtokEnd, h₀, hd, ih fun x hx => hbuf x (List.mem_cons_of_mem c hx)]
  intro buf hbuf
  cases buf with
  | nil => rfl
  | cons c rest =>
    obtain ⟨h₀, hd⟩ := hbuf c (List.mem_cons_self c rest)
    simp [strtok, h₀, hd, hend fun x hx => hbuf x (List.mem_cons_of_mem c hx)]

/-- A content whose first 128 bytes hold no NUL and no space: the first `strtok` runs past the
buffer. -/
theorem updateI8k_overflow (s : List Nat) (hlen : 128 ≤ s.length)
    (hbytes : ∀ c ∈ s.take 128, c ≠ 0 ∧ c ≠ I8K_DELIM) (i8k : I8k) : updateI8k (some s) i8k = none := by
  have hpad : 128 - s.length = 0 := by omega
  simp only [updateI8k, hpad, List.replicate_zero, List.append_nil, strtokN, strtok_eq_none hbytes,
    Option.none_bind, Option.map_none']

theorem updateI8k_overflow_letters :
    128 ≤ (List.replicate 128 65).length ∧
    (∀ c ∈ (List.replicate 128 65).take 128, c ≠ 0 ∧ c ≠ I8K_DELIM) ∧
    updateI8k (some (List.replicate 128 65)) i8kUnset = none := by
  have hbytes : ∀ c ∈ (List.replicate 128 65).take 128, c ≠ 0 ∧ c ≠ I8K_DELIM := fun c hc => by
    rw [List.take_replicate, List.mem_replicate] at hc
    rw [hc.2]
    decide
  exact ⟨by simp, hbytes, updateI8k_overflow _ (by simp) hbytes i8kUnset⟩

/-- Where the buffer holds a NUL, `update_i8k` reads within it and sets the fields to the runs of
bytes other than a space in the text it read, and the fields past the last run to `NULL`. -/
theorem updateI8k_eq_runs (s : List Nat) (hnul : 0 ∈ s.take 128 ∨ s.length < 128) (i8k : I8k) :
    updateI8k (some s) i8k = some (0, I8k.ofTokens ((delimRuns I8K_DELIM (i8kText s)).map some)) := by
  have htext : 0 ∉ i8kText s := fun h => by simpa using List.mem_takeWhile_imp h
  obtain ⟨pad, hpad⟩ : ∃ pad, s.take 128 ++ List.replicate (128 - s.length) 0 = i8kText s ++ 0 :: pad := by
    by_cases h₀ : 0 ∈ s.take 128
    · obtain ⟨b, hb⟩ := eq_takeWhile_nul h₀
      exact ⟨b ++ List.replicate (128 - s.length) 0, by rw [hb]; simp [i8kText]⟩
    · have hall : i8kText s = s.take 128 :=
        List.takeWhile_eq_self_iff.mpr fun a ha => by simpa using ne_of_mem_of_not_mem ha h₀
      have hlt := hnul.resolve_left h₀
      obtain ⟨k, hk⟩ : ∃ k, 128 - s.length = k + 1 := ⟨127 - s.length, by omega⟩
      exact ⟨List.replicate k 0, by rw [hall, hk, List.replicate_succ]⟩
  have hopt : ∀ o : Option (List Nat), (o.map some).getD none = o := fun o => by cases o <;> rfl
  simp only [updateI8k, hpad, strtokN_string (by decide : I8K_DELIM ≠ 0) pad 10 _ htext,
    Option.map_some']
  simp [I8k.ofTokens, hopt]

/-- `update_i8k` called once for each read of `/proc/i8k` in `reads`, from the fields `i8k`;
`none` when a call reads past its buffer. -/
def updateI8kRun : List (Option (List Nat)) → I8k → Option I8k
  | [], i8k => some i8k
  | proc :: reads, i8k => (updateI8k proc i8k).bind fun r => updateI8kRun reads r.2

/-- Over a run whose contents each hold a NUL in the buffer, the fields are the runs of the last
content read, or the fields before the run when no read opened the file: no field is left from an
earlier read. -/
theorem updateI8kRun_last (reads : List (Option (List Nat)))
    (hnul : ∀ s, some s ∈ reads → 0 ∈ s.take 128 ∨ s.length < 128) (i8k : I8k) :
    updateI8kRun reads i8k = some (((reads.filterMap id).getLast?).elim i8k
      fun s => I8k.ofTokens ((delimRuns I8K_DELIM (i8kText s)).map some)) := by
  induction reads generalizing i8k with
  | nil => rfl
  | cons proc reads ih =>
    have ih := ih fun s hs => hnul s (List.mem_cons_of_mem proc hs)
    cases proc with
    | none => simp only [updateI8kRun, updateI8k, Option.some_bind, ih, List.filterMap_cons, id]
    | some s =>
      rw [updateI8kRun, updateI8k_eq_runs s (hnul s (List.mem_cons_self _ _)), Option.some_bind, ih]
      simp only [List.filterMap_cons, id, List.getLast?_cons]
      cases (reads.filterMap id).getLast? <;> rfl

theorem updateI8kRun_last_twoReads :
    (∀ s, some s ∈ [some [49, 32, 50], none] → 0 ∈ s.take 128 ∨ s.length < 128) ∧
    updateI8kRun [some [49, 32, 50], none] i8kUnset =
      some ((([some [49, 32, 50], none].filterMap id).getLast?).elim i8kUnset
        fun s => I8k.ofTokens ((delimRuns I8K_DELIM (i8kText s)).map some)) := by
  have hnul : ∀ s, some s ∈ [some [49, 32, 50], none] → 0 ∈ s.take 128 ∨ s.length < 128 :=
    fun s hs => by
      simp only [List.mem_cons, Option.some.injEq, reduceCtorEq, List.not_mem_nil, or_false] at hs
      subst hs
      exact .inr (by decide)
  exact ⟨hnul, updateI8kRun_last _ hnul i8kUnset⟩

/-- The driver's line, ended by a newline as the driver ends it. -/
def i8kLine : List Nat := ("1.0 A17 2J9LM1S 52 2 1 8040 6420 1 2\n".toList).map Char.toNat

/-- From the driver's line, `buttons_status` is "2" and the newline, where the tenth run of the
text is "2". -/
theorem updateI8k_newline :
    (updateI8k (some i8kLine) i8kUnset).map (·.2.buttons_status) = some (some [50, 10]) ∧
      (whitespaceRuns (i8kText i8kLine))[9]? = some [50] := by
  decide

/-- `status_arr` of `print_i8k_fan_status`. -/
def statusArr : List (List Nat) :=
  [("off".toList).map Char.toNat, ("low".toList).map Char.toNat, ("high".toList).map Char.toNat,
    ("error".toList).map Char.toNat]

/-- `print_i8k_fan_status(p, p_max_size, status)`. -/
def printI8kFanStatus (p_max_size : Nat) (status : Option (List Nat)) : List Nat :=
  let i := match status with
    | some s => atoi s
    | none => 3
  let i := if i < 0 ∨ i > 3 then 3 else i
  snprintf p_max_size (statusArr.getD i.toNat [])

/-- `print_i8k_left_fan_status`. -/
def printI8kLeftFanStatus (i8k : I8k) (p_max_size : Nat) : List Nat :=
  printI8kFanStatus p_max_size i8k.left_fan_status

/-- `print_i8k_right_fan_status`. -/
def printI8kRightFanStatus (i8k : I8k) (p_max_size : Nat) : List Nat :=
  printI8kFanStatus p_max_size i8k.right_fan_status

/-- `print_i8k_cpu_temp`; `none` where `sscanf` goes through a `NULL` field or leaves `cpu_temp`
unset. `temp_print p_max_size t` is what `temp_print` (temphelper.cc, not among the sources)
writes for `t` degrees Celsius. -/
def printI8kCpuTemp (temp_print : Nat → Int → List Nat) (i8k : I8k) (p_max_size : Nat) :
    Option (List Nat) :=
  i8k.cpu_temp.bind fun s => (sscanfInt s).map fun cpu_temp => temp_print p_max_size cpu_temp

/-- `print_i8k_ac_status`; `none` where `sscanf` goes through a `NULL` field or leaves
`ac_status` unset, and nothing written for a value other than -1, 0 and 1. -/
def printI8kAcStatus (i8k : I8k) (p_max_size : Nat) : Option (List Nat) :=
  i8k.ac_status.bind fun s => (sscanfInt s).map fun ac_status =>
    if ac_status = -1 then snprintf p_max_size (("disabled (read i8k docs)".toList).map Char.toNat)
    else if ac_status = 0 then snprintf p_max_size (("off".toList).map Char.toNat)
    else if ac_status = 1 then snprintf p_max_size (("on".toList).map Char.toNat)
    else []

/-- The body `I8K_PRINT_GENERATOR(name)` gives `print_i8k_name`: the field, or "error" for a
`NULL` one. -/
def printI8kField (field : Option (List Nat)) (p_max_size : Nat) : List Nat :=
  snprintf p_max_size (field.getD (("error".toList).map Char.toNat))

/-- `print_i8k_version`. -/
def printI8kVersion (i8k : I8k) : Nat → List Nat := printI8kField i8k.version

/-- `print_i8k_bios`. -/
def printI8kBios (i8k : I8k) : Nat → List Nat := printI8kField i8k.bios

/-- `print_i8k_serial`. -/
def printI8kSerial (i8k : I8k) : Nat → List Nat := printI8kField i8k.serial

/-- `print_i8k_left_fan_rpm`. -/
def printI8kLeftFanRpm (i8k : I8k) : Nat → List Nat := printI8kField i8k.left_fan_rpm

/-- `print_i8k_right_fan_rpm`. -/
def printI8kRightFanRpm (i8k : I8k) : Nat → List Nat := printI8kField i8k.right_fan_rpm

/-- `print_i8k_buttons_status`. -/
def printI8kButtonsStatus (i8k : I8k) : Nat → List Nat := printI8kField i8k.buttons_status

/-- Every field is `NULL` before the first update and after a read of nothing, and
`print_i8k_cpu_temp` and `print_i8k_ac_status` then hand `NULL` to `sscanf`. -/
theorem printI8k_unset (temp_print : Nat → Int → List Nat) (p_max_size : Nat) (i8k : I8k) :
    updateI8k (some []) i8k = some (0, i8kUnset) ∧
      printI8kCpuTemp temp_print i8kUnset p_max_size = none ∧
      printI8kAcStatus i8kUnset p_max_size = none :=
  ⟨rfl, rfl, rfl⟩

end Conky
