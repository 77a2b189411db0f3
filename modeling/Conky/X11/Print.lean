import Conky.X11.Desktop
import Conky.Libc
import Mathlib.Data.Nat.Bitwise

/-!
# The X11 text objects

`print_monitor`, `print_monitor_number`, `print_desktop` and `print_desktop_number` write, when
conky does not draw to X, the text `NOT_IN_X` with `strncpy`, and otherwise an `int` with
`snprintf`; `print_desktop_name` writes the cached name of the current desktop with `strncpy` as
well.

`snprintf` ends what it writes with a NUL, so drawing to X the number printers leave a string in
any buffer of at least one byte. `strncpy` does not when the text has `p_max_size` bytes or more:
`NOT_IN_X` has 16, so every printer leaves a buffer of at most 16 bytes without a NUL when conky
does not draw to X, and `print_desktop_name` does so for a name as long as the buffer.

`print_kdb_led` writes "On" or "Off" for one bit of the keyboard's LED mask, the bit of Caps,
Num or Scroll Lock, and `print_mouse_speed` writes `110 - threshold` followed by a percent sign;
both always leave a string.
-/

namespace Conky.X11

/-- `NOT_IN_X`. -/
def NOT_IN_X : List Nat := ("Not running in X".toList).map Char.toNat

/-- The body shared by `print_monitor`, `print_monitor_number`, `print_desktop` and
`print_desktop_number`: `NOT_IN_X` when not drawing to X, else `value` as `%d`. -/
def printX11Int (out_to_x : Bool) (value : Int) (p_max_size : Nat) : List Nat :=
  if !out_to_x then strncpy NOT_IN_X p_max_size else snprintf p_max_size (decimal value)

/-- `print_monitor`; `default_screen` is `XDefaultScreen(display)`. -/
def printMonitor (out_to_x : Bool) (default_screen : Int) (p_max_size : Nat) : List Nat :=
  printX11Int out_to_x default_screen p_max_size

/-- `print_monitor_number`; `screen_count` is `XScreenCount(display)`. -/
def printMonitorNumber (out_to_x : Bool) (screen_count : Int) (p_max_size : Nat) : List Nat :=
  printX11Int out_to_x screen_count p_max_size

/-- `print_desktop`. -/
def printDesktop (out_to_x : Bool) (desktop : DesktopInfo) (p_max_size : Nat) : List Nat :=
  printX11Int out_to_x desktop.current p_max_size

/-- `print_desktop_number`. -/
def printDesktopNumber (out_to_x : Bool) (desktop : DesktopInfo) (p_max_size : Nat) : List Nat :=
  printX11Int out_to_x desktop.number p_max_size

/-- `print_desktop_name`: `strncpy` in both branches. -/
def printDesktopName (out_to_x : Bool) (desktop : DesktopInfo) (p_max_size : Nat) : List Nat :=
  if !out_to_x then strncpy NOT_IN_X p_max_size else strncpy desktop.name p_max_size

theorem NOT_IN_X_cString : NOT_IN_X.takeWhile (· ≠ 0) = NOT_IN_X ∧ NOT_IN_X.length = 16 := by
  decide

theorem printX11Int_not_x (value : Int) (p_max_size : Nat) :
    heldString (printX11Int false value p_max_size) =
      if 16 < p_max_size then some NOT_IN_X else none := by
  rw [printX11Int, if_pos (by decide), heldString_strncpy, NOT_IN_X_cString.1, NOT_IN_X_cString.2]

theorem printX11Int_x (value : Int) {p_max_size : Nat} (hp : 0 < p_max_size) :
    heldString (printX11Int true value p_max_size) = some ((decimal value).take (p_max_size - 1)) :=
  snprintf_terminated hp _ (zero_not_mem_decimal value)

/-- What a number printer leaves in a buffer of `p_max_size` bytes: drawing to X, the `%d` text of
its value cut to the buffer, and no string in an empty buffer; not drawing to X, `NOT_IN_X` in a
buffer of more than 16 bytes and no string in a smaller one. -/
theorem printX11Int_held (out_to_x : Bool) (value : Int) (p_max_size : Nat) :
    heldString (printX11Int out_to_x value p_max_size) =
      if out_to_x then
        if 0 < p_max_size then some ((decimal value).take (p_max_size - 1)) else none
      else if 16 < p_max_size then some NOT_IN_X else none := by
  cases out_to_x
  · exact printX11Int_not_x value p_max_size
  · by_cases hp : 0 < p_max_size
    · rw [if_pos rfl, if_pos hp, printX11Int_x value hp]
    · obtain rfl : p_max_size = 0 := by omega
      rfl

/-- `print_desktop_name` leaves the name (drawing to X) or `NOT_IN_X` (not) in the buffer when it
is shorter than the buffer, and no string otherwise. -/
theorem printDesktopName_held (out_to_x : Bool) (desktop : DesktopInfo) (p_max_size : Nat) :
    heldString (printDesktopName out_to_x desktop p_max_size) =
      if out_to_x then
        if (cString desktop.name).length < p_max_size then some (cString desktop.name) else none
      else if 16 < p_max_size then some NOT_IN_X else none := by
  cases out_to_x
  · rw [printDesktopName, if_pos (by decide), heldString_strncpy, NOT_IN_X_cString.1,
      NOT_IN_X_cString.2]
    rfl
  · rw [printDesktopName, if_neg (by decide), heldString_strncpy, cString]
    rfl

/-- Not drawing to X, with a 16-byte buffer, `print_monitor` fills it with the 16 bytes of
`NOT_IN_X` and no NUL. -/
theorem printMonitor_unterminated (default_screen : Int) :
    printMonitor false default_screen 16 = NOT_IN_X ∧
      heldString (printMonitor false default_screen 16) = none := by
  show strncpy NOT_IN_X 16 = NOT_IN_X ∧ heldString (strncpy NOT_IN_X 16) = none
  decide

/-- `print_kdb_led(keybit, p, p_max_size)`; `led_mask` is the mask `XGetKeyboardControl`
reports. -/
def printKdbLed (keybit led_mask p_max_size : Nat) : List Nat :=
  snprintf p_max_size
    (if led_mask &&& keybit ≠ 0 then ("On".toList).map Char.toNat else ("Off".toList).map Char.toNat)

/-- `print_key_caps_lock`. -/
def printKeyCapsLock (led_mask p_max_size : Nat) : List Nat := printKdbLed 1 led_mask p_max_size

/-- `print_key_num_lock`. -/
def printKeyNumLock (led_mask p_max_size : Nat) : List Nat := printKdbLed 2 led_mask p_max_size

/-- `print_key_scroll_lock`. -/
def printKeyScrollLock (led_mask p_max_size : Nat) : List Nat := printKdbLed 4 led_mask p_max_size

/-- `print_mouse_speed`; `threshold` is the acceleration threshold `XGetPointerControl` reports,
a 16-bit value, so `110 - threshold` does not overflow. -/
def printMouseSpeed (threshold : Int) (p_max_size : Nat) : List Nat :=
  snprintf p_max_size (decimal (110 - threshold) ++ ("%".toList).map Char.toNat)

/-- The LED printer for the mask `2 ^ i` writes "On" exactly when bit `i` of the LED mask is set. -/
theorem printKdbLed_two_pow (i led_mask p_max_size : Nat) :
    printKdbLed (2 ^ i) led_mask p_max_size =
      snprintf p_max_size
        (if led_mask.testBit i then ("On".toList).map Char.toNat else ("Off".toList).map Char.toNat) := by
  rw [printKdbLed, Nat.land_comm, Nat.two_pow_and]
  cases led_mask.testBit i <;> simp

theorem printKdbLed_held (i led_mask : Nat) {p_max_size : Nat} (hp : 0 < p_max_size) :
    heldString (printKdbLed (2 ^ i) led_mask p_max_size) =
      some ((if led_mask.testBit i then ("On".toList).map Char.toNat
        else ("Off".toList).map Char.toNat).take (p_max_size - 1)) := by
  rw [printKdbLed_two_pow]
  exact snprintf_terminated hp _ (by split <;> decide)

/-- In a buffer of at least one byte, `print_key_caps_lock`, `print_key_num_lock` and
`print_key_scroll_lock` leave "On" when bit 0, 1 or 2 of the LED mask is set and "Off" otherwise,
and `print_mouse_speed` leaves `110 - threshold` and a percent sign, each cut to the buffer. -/
theorem printKeyboardMouse_held (led_mask : Nat) (threshold : Int) {p_max_size : Nat}
    (hp : 0 < p_max_size) :
    heldString (printKeyCapsLock led_mask p_max_size) =
        some ((if led_mask.testBit 0 then ("On".toList).map Char.toNat
          else ("Off".toList).map Char.toNat).take (p_max_size - 1)) ∧
      heldString (printKeyNumLock led_mask p_max_size) =
        some ((if led_mask.testBit 1 then ("On".toList).map Char.toNat
          else ("Off".toList).map Char.toNat).take (p_max_size - 1)) ∧
      heldString (printKeyScrollLock led_mask p_max_size) =
        some ((if led_mask.testBit 2 then ("On".toList).map Char.toNat
          else ("Off".toList).map Char.toNat).take (p_max_size - 1)) ∧
      heldString (printMouseSpeed threshold p_max_size) =
        some ((decimal (110 - threshold) ++ ("%".toList).map Char.toNat).take (p_max_size - 1)) :=
  ⟨printKdbLed_held 0 led_mask hp, printKdbLed_held 1 led_mask hp, printKdbLed_held 2 led_mask hp,
    snprintf_terminated hp _ fun h => (List.mem_append.mp h).elim (zero_not_mem_decimal _) (by decide)⟩

theorem printKeyboardMouse_held_numLock :
    0 < 8 ∧ heldString (printKeyCapsLock 2 8) = some [79, 102, 102] ∧
      heldString (printKeyNumLock 2 8) = some [79, 110] ∧
      heldString (printKeyScrollLock 2 8) = some [79, 102, 102] ∧
      heldString (printMouseSpeed 10 8) = some [49, 48, 48, 37] := by
  obtain ⟨hcaps, hnum, hscroll, hspeed⟩ := printKeyboardMouse_held 2 10 (show 0 < 8 by decide)
  exact ⟨by decide, hcaps.trans (by decide), hnum.trans (by decide), hscroll.trans (by decide),
    hspeed.trans (by decide)⟩

end Conky.X11
