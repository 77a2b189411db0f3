import Mathlib.Algebra.BigOperators.Group.List
import Mathlib.Data.Nat.Digits

/-!
# The C library as conky's printers call it

Byte strings are lists of byte values. Each function returns what the C function writes or
converts. `strtok` returns `none` where its scan would read past the end of the buffer it is
given.

`snprintf` always ends what it writes with a NUL when it may write at all; `strncpy` writes a
NUL only when the string is shorter than the count. `strtol` clamps to the range of a 64-bit
`long`, as on the LP64 hosts conky's Linux code runs on.
-/

namespace Conky

/-- The bytes `strncpy(dest, src, n)` writes to `dest`: those of the string `src` up to its NUL,
then NULs, `n` bytes in all. -/
def strncpy (src : List Nat) (n : Nat) : List Nat :=
  (src.takeWhile (· ≠ 0) ++ List.replicate n 0).take n

/-- The bytes `snprintf(p, n, ...)` writes for the formatted text `text`: at most `n - 1` of them
and a NUL, nothing when `n` is 0. -/
def snprintf (n : Nat) (text : List Nat) : List Nat :=
  if n = 0 then [] else text.take (n - 1) ++ [0]

/-- The text `%d` formats an `int` to. -/
def decimal (v : Int) : List Nat := (toString v).toList.map Char.toNat

/-- The string a buffer holds after `written` was written to its start, if the bytes written
end it: those before the first NUL. -/
def heldString (written : List Nat) : Option (List Nat) :=
  if 0 ∈ written then some (written.takeWhile (· ≠ 0)) else none

/-- `isspace` in the C locale: space, `\t`, `\n`, `\v`, `\f` and `\r`. -/
def isSpace (c : Nat) : Bool := c == 32 || (9 ≤ c && c ≤ 13)

/-- `isdigit`. -/
def isDigit (c : Nat) : Bool := 48 ≤ c && c ≤ 57

/-- The value of a run of decimal digits. -/
def digitsValue (ds : List Nat) : Nat := ds.foldl (fun v d => 10 * v + (d - 48)) 0

/-- The number `strtol(s, nullptr, 10)` converts: after white space and an optional sign, the
longest run of digits, clamped to the range of a 64-bit `long`; `none` when there is no digit. -/
def strtolValue (s : List Nat) : Option Int :=
  let s := s.dropWhile isSpace
  let (negative, s) : Bool × List Nat :=
    match s with
    | 45 :: rest => (true, rest)
    | 43 :: rest => (false, rest)
    | s => (false, s)
  let ds := s.takeWhile isDigit
  if ds = [] then none
  else
    let v : Int := if negative then -(digitsValue ds : Int) else digitsValue ds
    some (max (-2 ^ 63) (min v (2 ^ 63 - 1)))

/-- The `int` of the low 32 bits of `v`, two's complement: what converting a `long` to `int`
gives under GCC and Clang, and what an `int` expression of exact value `v` computes when it
overflows, which C++ leaves undefined and compiled code wraps. -/
def wrapInt (v : Int) : Int := (v + 2 ^ 31) % 2 ^ 32 - 2 ^ 31

/-- `v` is the value of an `int`. -/
def FitsInt (v : Int) : Prop := -2 ^ 31 ≤ v ∧ v < 2 ^ 31

instance : DecidablePred FitsInt := fun _ => inferInstanceAs (Decidable (_ ∧ _))

theorem wrapInt_eq_self {v : Int} (h : FitsInt v) : wrapInt v = v := by
  unfold wrapInt
  unfold FitsInt at h
  omega

/-- `atoi(s)`, glibc's `(int) strtol(s, nullptr, 10)`: 0 without a digit. -/
def atoi (s : List Nat) : Int := wrapInt ((strtolValue s).getD 0)

/-- What `sscanf(s, "%d", &x)` stores in `x`; `none` when no digit follows the white space and
the sign, and `x` keeps the value it had. -/
def sscanfInt (s : List Nat) : Option Int := (strtolValue s).map wrapInt

/-- The scan of `strtok` for the end of a token, from the token's second byte: the rest of the
token and where the next call starts, after the delimiter (which becomes a NUL) or at the
string's NUL; `none` when the scan runs past the end of the buffer. -/
def strtokEnd (delim : Nat) : List Nat → Option (List Nat × List Nat)
  | [] => none
  | c :: rest =>
    if c = 0 then some ([], c :: rest)
    else if c = delim then some ([], rest)
    else (strtokEnd delim rest).map fun r => (c :: r.1, r.2)

/-- One call of `strtok` with the one-byte delimiter `delim`, over the buffer from where the call
starts: the token (`none` for `NULL`) and where the next call starts; `none` when a scan runs past
the end of the buffer. -/
def strtok (delim : Nat) : List Nat → Option (Option (List Nat) × List Nat)
  | [] => none
  | c :: rest =>
    if c = 0 then some (none, c :: rest)
    else if c = delim then strtok delim rest
    else (strtokEnd delim rest).map fun r => (some (c :: r.1), r.2)

/-- `n` successive calls of `strtok`, each from where the last stopped. -/
def strtokN (delim : Nat) : Nat → List Nat → Option (List (Option (List Nat)))
  | 0, _ => some []
  | n + 1, buf => (strtok delim buf).bind fun r => (strtokN delim n r.2).map (r.1 :: ·)

/-- The tokens `strtok` finds in a string: its maximal runs of bytes other than the delimiter. -/
def delimRuns (delim : Nat) (text : List Nat) : List (List Nat) :=
  (text.splitOnP (· == delim)).filter (· ≠ [])

theorem snprintf_terminated {n : Nat} (hn : 0 < n) (text : List Nat) (htext : 0 ∉ text) :
    heldString (snprintf n text) = some (text.take (n - 1)) := by
  have htake : 0 ∉ text.take (n - 1) := fun h => htext (List.mem_of_mem_take h)
  have hwhile : (text.take (n - 1) ++ [0]).takeWhile (· ≠ 0) = text.take (n - 1) := by
    rw [List.takeWhile_append_of_pos fun a ha => by simpa using ne_of_mem_of_not_mem ha htake]
    simp
  rw [snprintf, if_neg (Nat.pos_iff_ne_zero.mp hn), heldString,
    if_pos (List.mem_append_right _ (List.mem_singleton_self 0)), hwhile]

theorem strncpy_terminated_iff (src : List Nat) (n : Nat) :
    0 ∈ strncpy src n ↔ (src.takeWhile (· ≠ 0)).length < n := by
  have hnz : 0 ∉ src.takeWhile (· ≠ 0) := fun h => by simpa using List.mem_takeWhile_imp h
  constructor
  · intro h
    by_contra hle
    rw [strncpy, List.take_append_of_le_length (not_lt.mp hle)] at h
    exact hnz (List.mem_of_mem_take h)
  · intro hlt
    rw [strncpy, List.take_append_eq_append_take, List.take_of_length_le hlt.le, List.mem_append,
      List.take_replicate, List.mem_replicate]
    exact .inr ⟨by omega, rfl⟩

theorem heldString_strncpy (src : List Nat) (n : Nat) :
    heldString (strncpy src n) =
      if (src.takeWhile (· ≠ 0)).length < n then some (src.takeWhile (· ≠ 0)) else none := by
  unfold heldString
  split_ifs with h₁ h₂ h₂
  · have hpad : strncpy src n = src.takeWhile (· ≠ 0) ++ List.replicate (n - (src.takeWhile (· ≠ 0)).length) 0 := by
      rw [strncpy, List.take_append_eq_append_take, List.take_of_length_le h₂.le, List.take_replicate,
        Nat.min_eq_left (Nat.sub_le _ _)]
    obtain ⟨k, hk⟩ : ∃ k, n - (src.takeWhile (· ≠ 0)).length = k + 1 := ⟨_, (Nat.succ_pred_eq_of_pos (by omega)).symm⟩
    rw [hpad, hk, List.replicate_succ, List.takeWhile_append_of_pos fun a ha => by
      simpa using List.mem_takeWhile_imp ha]
    simp
  · exact absurd ((strncpy_terminated_iff src n).mp h₁) h₂
  · exact absurd ((strncpy_terminated_iff src n).mpr h₂) h₁
  · rfl

theorem toDigitsCore_ne_nul (fuel n : Nat) (ds : List Char) (hds : ∀ c ∈ ds, c.toNat ≠ 0) :
    ∀ c ∈ Nat.toDigitsCore 10 fuel n ds, c.toNat ≠ 0 := by
  have hdigit : ∀ m < 10, (Nat.digitChar m).toNat ≠ 0 := fun m hm => by
    match m, hm with
    | 0, _ | 1, _ | 2, _ | 3, _ | 4, _ | 5, _ | 6, _ | 7, _ | 8, _ | 9, _ => decide
  induction fuel generalizing n ds with
  | zero => exact hds
  | succ fuel ih =>
    have hcons : ∀ c ∈ Nat.digitChar (n % 10) :: ds, c.toNat ≠ 0 :=
      List.forall_mem_cons.mpr ⟨hdigit _ (Nat.mod_lt _ (by decide)), hds⟩
    simp only [Nat.toDigitsCore]
    split_ifs
    · exact hcons
    · exact ih _ _ hcons

theorem zero_not_mem_decimal (v : Int) : 0 ∉ decimal v := by
  have hnat : ∀ m : Nat, ∀ c ∈ (toString m).toList, c.toNat ≠ 0 := fun m =>
    toDigitsCore_ne_nul _ m [] (List.forall_mem_nil _)
  intro h
  obtain ⟨c, hc, hc0⟩ := List.mem_map.mp h
  cases v with
  | ofNat m => exact hnat m c hc hc0
  | negSucc m =>
    have hc' : c = '-' ∨ c ∈ (toString (m + 1)).toList := by
      simpa [toString, String.toList] using hc
    rcases hc' with rfl | hc'
    · exact absurd hc0 (by decide)
    · exact hnat (m + 1) c hc' hc0

theorem eq_takeWhile_nul {buf : List Nat} (h : 0 ∈ buf) :
    ∃ pad, buf = buf.takeWhile (· ≠ 0) ++ 0 :: pad := by
  induction buf with
  | nil => cases h
  | cons x xs ih =>
    by_cases hx : x = 0
    · exact ⟨xs, by simp [hx]⟩
    · obtain ⟨pad, hpad⟩ := ih ((List.mem_cons.mp h).resolve_left (Ne.symm hx))
      exact ⟨pad, by rw [List.takeWhile_cons_of_pos (by simpa using hx), List.cons_append, ← hpad]⟩

section Strtok

variable {delim : Nat} (hdelim : delim ≠ 0)
include hdelim

theorem strtokEnd_string (pad : List Nat) :
    ∀ rest, 0 ∉ rest → ∃ after, 0 ∉ after ∧ after.length ≤ rest.length ∧
      strtokEnd delim (rest ++ 0 :: pad) =
        some (((rest.splitOnP (· == delim)).head?.getD []), after ++ 0 :: pad) ∧
      ((rest.splitOnP (· == delim)).tail.filter (· ≠ [])) = delimRuns delim after := by
  intro rest hrest
  induction rest with
  | nil => exact ⟨[], List.not_mem_nil 0, le_rfl, rfl, rfl⟩
  | cons x xs ih =>
    have hx : x ≠ 0 := fun h => hrest (h ▸ List.mem_cons_self x xs)
    have hxs : 0 ∉ xs := fun h => hrest (List.mem_cons_of_mem x h)
    by_cases hxd : x = delim
    · subst hxd
      refine ⟨xs, hxs, Nat.le_succ _, ?_, ?_⟩ <;> simp [strtokEnd, hx, delimRuns]
    · obtain ⟨after, hafter, hlen, hend, htail⟩ := ih hxs
      obtain ⟨s₀, ss, hsplit⟩ := List.exists_cons_of_ne_nil (List.splitOnP_ne_nil (· == delim) xs)
      refine ⟨after, hafter, by simp only [List.length_cons]; omega, ?_, ?_⟩
      · simp only [hsplit, List.head?_cons, Option.getD_some] at hend
        simp [strtokEnd, hx, hxd, hend, hsplit]
      · simpa [hsplit, hxd] using htail

/-- Successive calls of `strtok` on a string ended by a NUL return its tokens, then `NULL`. -/
theorem strtokN_string (pad : List Nat) :
    ∀ n text, 0 ∉ text → strtokN delim n (text ++ 0 :: pad) =
      some ((List.range n).map fun i => (delimRuns delim text)[i]?) := by
  intro n text
  induction text using (measure List.length).wf.induction generalizing n with
  | h text ih =>
    intro htext
    cases n with
    | zero => rfl
    | succ n =>
      match text, htext with
      | [], _ =>
        have hnul : ∀ k, strtokN delim k (0 :: pad) = some (List.replicate k none) := fun k => by
          induction k with
          | zero => rfl
          | succ k ihk => simp [strtokN, strtok, ihk, List.replicate_succ]
        simp [hnul, delimRuns, List.map_const']
      | c :: rest, htext =>
        have hc : c ≠ 0 := fun h' => htext (h' ▸ List.mem_cons_self c rest)
        have hrest : 0 ∉ rest := fun h' => htext (List.mem_cons_of_mem c h')
        by_cases hcd : c = delim
        · subst hcd
          have hskip : ∀ k, strtokN c (k + 1) (c :: (rest ++ 0 :: pad)) =
              strtokN c (k + 1) (rest ++ 0 :: pad) := fun k => by
            simp [strtokN, strtok, hc]
          have hruns : delimRuns c (c :: rest) = delimRuns c rest := by simp [delimRuns]
          rw [List.cons_append, hskip, ih rest (Nat.lt_succ_self _) (n + 1) hrest, hruns]
        · obtain ⟨after, hafter, hlen, hend, htail⟩ := strtokEnd_string hdelim pad rest hrest
          obtain ⟨s₀, ss, hsplit⟩ := List.exists_cons_of_ne_nil (List.splitOnP_ne_nil (· == delim) rest)
          have hruns : delimRuns delim (c :: rest) = (c :: s₀) :: delimRuns delim after := by
            rw [hsplit, List.tail_cons] at htail
            rw [delimRuns, List.splitOnP_cons, if_neg (by simpa using hcd), hsplit,
              List.modifyHead_cons, List.filter_cons_of_pos (by simp), htail]
          simp only [hsplit, List.head?_cons, Option.getD_some] at hend
          rw [List.range_succ_eq_map, List.map_cons, List.map_map]
          have hafter' := ih after (show after.length < rest.length + 1 by omega) n hafter
          simp [strtokN, strtok, hc, hcd, hend, hafter', hruns, Function.comp_def]

end Strtok

end Conky
