import Conky.X11.WindowList

/-!
# Propagating input to the window below

conky's window sits over other windows; an input event it receives and does not consume is sent
on to the window below it. `propagate_x11_event` handles core events and hands XInput events
(`GenericEvent`s of the XInput extension) to `propagate_xinput_event`. Both look for the
top-most viewable window under the pointer other than conky's own; the core path falls back to
the desktop window, the XInput path to the (virtual) root. The effect of a call is the list of
requests it sends, in order.

Neither path ever sends to conky's window. Because the window enumeration never reads the client
lists, a lazy enumeration finds no window at all, and every event goes to the fallback.
-/

namespace Conky.X11

def KeyPress : Nat := 2

def KeyRelease : Nat := 3

def ButtonPress : Nat := 4

def ButtonRelease : Nat := 5

def MotionNotify : Nat := 6

def EnterNotify : Nat := 7

def LeaveNotify : Nat := 8

def GenericEvent : Nat := 35

def XI_ButtonPress : Nat := 4

def XI_ButtonRelease : Nat := 5

def XI_Motion : Nat := 6

def CurrentTime : Nat := 0

def NoEventMask : Nat := 0

def KeyPressMask : Nat := 1 <<< 0

def KeyReleaseMask : Nat := 1 <<< 1

def ButtonPressMask : Nat := 1 <<< 2

def ButtonReleaseMask : Nat := 1 <<< 3

def EnterWindowMask : Nat := 1 <<< 4

def LeaveWindowMask : Nat := 1 <<< 5

def PointerMotionMask : Nat := 1 <<< 6

/-- `Button1MotionMask` to `Button5MotionMask`. -/
def ButtonMotionMask (button : Nat) : Nat := 1 <<< (7 + button)

/-- `ev_to_mask`: the event mask a synthetic event of `event_type` is sent with. -/
def evToMask (event_type button : Nat) : Nat :=
  if event_type = KeyPress then KeyPressMask
  else if event_type = KeyRelease then KeyReleaseMask
  else if event_type = ButtonPress then ButtonPressMask
  else if event_type = ButtonRelease then
    match button with
    | 1 => ButtonReleaseMask ||| ButtonMotionMask 1
    | 2 => ButtonReleaseMask ||| ButtonMotionMask 2
    | 3 => ButtonReleaseMask ||| ButtonMotionMask 3
    | 4 => ButtonReleaseMask ||| ButtonMotionMask 4
    | 5 => ButtonReleaseMask ||| ButtonMotionMask 5
    | _ => ButtonReleaseMask
  else if event_type = EnterNotify then EnterWindowMask
  else if event_type = LeaveNotify then LeaveWindowMask
  else if event_type = MotionNotify then PointerMotionMask
  else NoEventMask

/-- The fields of an `XEvent` propagation reads or writes: the type, the fields shared by the
key, button, motion and crossing events (read through `xbutton`), and `xgeneric.extension`. -/
structure XEvent where
  type : Nat
  window : Window
  x : Int
  y : Int
  x_root : Int
  y_root : Int
  time : Nat
  button : Nat
  extension : Nat
  deriving DecidableEq, Repr

/-- The fields of `conky::xi_event_data` propagation reads: the XInput event type, the window
the event was reported on, and the pointer relative to that window and to the root. -/
structure XiEventData where
  evtype : Nat
  event : Window
  pos : Int × Int
  pos_absolute : Int × Int
  deriving DecidableEq, Repr

/-- The fields of `conky_x11_window` propagation reads. -/
structure ConkyX11Window where
  root : Window
  desktop : Window
  window : Window
  xi_opcode : Nat
  deriving DecidableEq, Repr

/-- A request propagation sends to the server. -/
inductive Request where
  | ungrabPointer
  | sendEvent (w : Window) (propagate : Bool) (event_mask : Nat) (event : XEvent)
  | setInputFocus (focus : Window)
  deriving DecidableEq, Repr

/-- The window a request sends an event to. -/
def Request.destination : Request → Option Window
  | .sendEvent w _ _ _ => some w
  | _ => none

/-- conky's own window 9, drawn on the root (1), which is also the desktop. -/
def overlayWindow : ConkyX11Window := ⟨1, 1, 9, 131⟩

/-- A click of button 1 on conky's window at root position (10, 10). -/
def clickEvent : XEvent := ⟨ButtonPress, 9, 10, 10, 10, 10, 7, 1, 0⟩

/-- The root (1) with a full-screen desktop window 2 at the origin and conky's window 9; no
window manager lists its clients. -/
def desktopServer : Server :=
  Server.flat 1 [2, 9] clientListAtoms (fun _ _ => none)
    (fun w => if w = 2 then some ⟨1920, 1080, .IsViewable, false⟩ else none)
    (fun _ => (0, 0)) (by decide)

/-- conky's window 9 over the desktop window 2, below the root 1. -/
def desktopOverlay : ConkyX11Window := ⟨1, 2, 9, 131⟩

/-- The pointer moving over conky's window, at (3, 4) in it and (10, 10) on the root, as XInput
reports it. -/
def xiMotion : XiEventData := ⟨XI_Motion, 9, (3, 4), (10, 10)⟩

section Propagate

/- `o` is the host's byte order; `eager` the default of `query_x11_windows_at_pos`'s last
parameter in x11.h; `attr` the contents of its uninitialised `XWindowAttributes`; and
`generate_events` the member of `xi_event_data` (mouse-events.cc) building the events to send. -/
variable (o : Host) (eager : Bool) (attr : WindowAttributes)
  (generate_events : XiEventData → Window → Window → Int × Int → List (Nat × XEvent))

/-- The tail of `propagate_xinput_event` once the windows under the pointer are known: the last
of them other than conky's window is the target, the pointer is translated from the desktop to
`ev.event`; with none left, the target is `window.root` at `ev.pos`. -/
def sendXinputEvent (srv : Server) (window : ConkyX11Window) (ev : XiEventData)
    (below : List Window) : List Request :=
  let below := below.filter (· ≠ window.window)
  let (target, child, target_pos) : Window × Window × (Int × Int) :=
    match below.getLast? with
    | none => (window.root, None, ev.pos)
    | some target =>
      let (read_x, read_y, child) := xTranslateCoordinates srv window.desktop ev.event
        ev.pos_absolute.1 ev.pos_absolute.2
      (target, child, (read_x, read_y))
  .ungrabPointer ::
    (generate_events ev target child target_pos).map fun e => .sendEvent target true e.1 e.2

/-- `propagate_xinput_event`: motion and button events go to the top-most viewable window under
the pointer other than conky's. -/
def propagateXinputEvent (srv : Server) (window : ConkyX11Window) (ev : XiEventData) :
    Option (List Request) :=
  if ev.evtype ≠ XI_Motion ∧ ev.evtype ≠ XI_ButtonPress ∧ ev.evtype ≠ XI_ButtonRelease then some []
  else
    (queryX11WindowsAtPos o srv ev.pos_absolute (fun a => a.map_state == .IsViewable) eager attr).map
      (sendXinputEvent generate_events srv window ev)

/-- The tail of `propagate_x11_event` once the windows under the pointer are known: `ev`, already
aimed at the desktop at its root position, is retargeted to the last of them other than conky's
window, in that window's coordinates, and sent; `focus` also moves the input focus there. -/
def sendX11Event (srv : Server) (window : ConkyX11Window) (focus : Bool) (ev : XEvent)
    (below : List Window) : List Request :=
  let below := below.filter (· ≠ window.window)
  let ev := match below.getLast? with
    | none => ev
    | some target =>
      let (x, y, _) := xTranslateCoordinates srv window.root target ev.x_root ev.y_root
      { ev with window := target, x := x, y := y }
  let mask := evToMask ev.type (if ev.type = ButtonRelease then ev.button else 0)
  [.ungrabPointer, .sendEvent ev.window true mask ev] ++
    if focus then [.setInputFocus ev.window] else []

/-- `propagate_x11_event`: XInput events go to `propagate_xinput_event`; a core input event goes
to the top-most viewable window under the pointer other than conky's, or else to the desktop
window at the root position; any other event is dropped. -/
def propagateX11Event (srv : Server) (window : ConkyX11Window) (ev : XEvent)
    (cookie : Option XiEventData) : Option (List Request) :=
  let focus : Bool := ev.type == ButtonPress
  if ev.type = GenericEvent ∧ ev.extension = window.xi_opcode then
    match cookie with
    | none => some []
    | some cookie => propagateXinputEvent o eager attr generate_events srv window cookie
  else if ¬(ev.type = KeyPress ∨ ev.type = KeyRelease ∨ ev.type = ButtonPress ∨
      ev.type = ButtonRelease ∨ ev.type = MotionNotify ∨ ev.type = EnterNotify ∨
      ev.type = LeaveNotify) then some []
  else
    let ev := { ev with window := window.desktop, x := ev.x_root, y := ev.y_root, time := CurrentTime }
    (queryX11WindowsAtPos o srv (ev.x_root, ev.y_root) (fun a => a.map_state == .IsViewable)
      eager attr).map (sendX11Event srv window focus ev)

theorem getLast?_filter_ne {l : List Window} {a t : Window}
    (h : (l.filter (· ≠ a)).getLast? = some t) : t ≠ a := by
  obtain ⟨ys, hys⟩ := List.getLast?_eq_some_iff.mp h
  have hmem : t ∈ l.filter (· ≠ a) := hys ▸ List.mem_append_right ys (List.mem_singleton_self t)
  simpa using (List.mem_filter.mp hmem).2

theorem sendXinputEvent_ne_window {srv : Server} {window : ConkyX11Window} {ev : XiEventData}
    {below : List Window} (hroot : window.root ≠ window.window) :
    ∀ r ∈ sendXinputEvent generate_events srv window ev below, ∀ w, r.destination = some w →
      w ≠ window.window := by
  intro r hr w hw
  simp only [sendXinputEvent, List.mem_cons, List.mem_map] at hr
  rcases hr with rfl | ⟨e, -, rfl⟩
  · cases hw
  · simp only [Request.destination, Option.some.injEq] at hw
    subst hw
    split
    · exact hroot
    · exact getLast?_filter_ne ‹_›

theorem sendX11Event_ne_window {srv : Server} {window : ConkyX11Window} {focus : Bool}
    {ev : XEvent} {below : List Window} (hev : ev.window ≠ window.window) :
    ∀ r ∈ sendX11Event srv window focus ev below, ∀ w, r.destination = some w →
      w ≠ window.window := by
  intro r hr w hw
  have htarget : (match (below.filter (· ≠ window.window)).getLast? with
      | none => ev
      | some target =>
        let (x, y, _) := xTranslateCoordinates srv window.root target ev.x_root ev.y_root
        { ev with window := target, x := x, y := y }).window ≠ window.window := by
    split
    · exact hev
    · exact getLast?_filter_ne ‹_›
  simp only [sendX11Event, List.cons_append, List.nil_append, List.mem_cons] at hr
  rcases hr with rfl | rfl | hr
  · cases hw
  · exact (Option.some.inj hw) ▸ htarget
  · split at hr <;> simp_all [Request.destination]

/-- Neither path ever sends an event to conky's own window. -/
theorem propagateX11Event_ne_window {srv : Server} {window : ConkyX11Window} {ev : XEvent}
    {cookie : Option XiEventData} {reqs : List Request}
    (hdesktop : window.desktop ≠ window.window) (hroot : window.root ≠ window.window)
    (h : propagateX11Event o eager attr generate_events srv window ev cookie = some reqs) :
    ∀ r ∈ reqs, ∀ w, r.destination = some w → w ≠ window.window := by
  simp only [propagateX11Event] at h
  split_ifs at h
  · split at h
    · cases h
      simp
    · simp only [propagateXinputEvent] at h
      split_ifs at h
      · cases h
        simp
      · obtain ⟨below, -, rfl⟩ := Option.map_eq_some'.mp h
        exact sendXinputEvent_ne_window generate_events hroot
  · obtain ⟨below, -, rfl⟩ := Option.map_eq_some'.mp h
    exact sendX11Event_ne_window hdesktop
  · cases h
    simp

/-- Without the eager enumeration a core input event always goes to the desktop window, at its
root position, whatever lies under the pointer; a button press also moves the input focus to the
desktop window. -/
theorem propagateX11Event_not_eager {srv : Server} {window : ConkyX11Window} {ev : XEvent}
    (cookie : Option XiEventData) (hgeneric : ¬(ev.type = GenericEvent ∧ ev.extension = window.xi_opcode))
    (hinput : ev.type = KeyPress ∨ ev.type = KeyRelease ∨ ev.type = ButtonPress ∨
      ev.type = ButtonRelease ∨ ev.type = MotionNotify ∨ ev.type = EnterNotify ∨
      ev.type = LeaveNotify) :
    propagateX11Event o false attr generate_events srv window ev cookie =
      some ([.ungrabPointer,
        .sendEvent window.desktop true
          (evToMask ev.type (if ev.type = ButtonRelease then ev.button else 0))
          { ev with window := window.desktop, x := ev.x_root, y := ev.y_root, time := CurrentTime }] ++
        if ev.type == ButtonPress then [.setInputFocus window.desktop] else []) := by
  simp only [propagateX11Event, hgeneric, hinput, not_true, if_false, queryX11WindowsAtPos_not_eager]
  rfl

theorem propagateX11Event_not_eager_click :
    ¬(clickEvent.type = GenericEvent ∧ clickEvent.extension = overlayWindow.xi_opcode) ∧
    (clickEvent.type = KeyPress ∨ clickEvent.type = KeyRelease ∨ clickEvent.type = ButtonPress ∨
      clickEvent.type = ButtonRelease ∨ clickEvent.type = MotionNotify ∨
      clickEvent.type = EnterNotify ∨ clickEvent.type = LeaveNotify) ∧
    propagateX11Event .little false ⟨0, 0, .IsViewable, false⟩ (fun _ _ _ _ => []) desktopServer
        overlayWindow clickEvent none =
      some ([.ungrabPointer,
        .sendEvent overlayWindow.desktop true
          (evToMask clickEvent.type (if clickEvent.type = ButtonRelease then clickEvent.button else 0))
          { clickEvent with
            window := overlayWindow.desktop, x := clickEvent.x_root, y := clickEvent.y_root,
            time := CurrentTime }] ++
        if clickEvent.type == ButtonPress then [.setInputFocus overlayWindow.desktop] else []) :=
  ⟨by decide, by decide,
    propagateX11Event_not_eager .little ⟨0, 0, .IsViewable, false⟩ (fun _ _ _ _ => []) none
      (by decide) (by decide)⟩

/-- Without the eager enumeration a motion or button event of XInput always goes to the root, at
its position relative to the window it was reported on. -/
theorem propagateXinputEvent_not_eager {srv : Server} {window : ConkyX11Window}
    {ev : XiEventData} (hev : ev.evtype = XI_Motion ∨ ev.evtype = XI_ButtonPress ∨
      ev.evtype = XI_ButtonRelease) :
    propagateXinputEvent o false attr generate_events srv window ev =
      some (.ungrabPointer :: (generate_events ev window.root None ev.pos).map fun e =>
        .sendEvent window.root true e.1 e.2) := by
  have hty : ¬(ev.evtype ≠ XI_Motion ∧ ev.evtype ≠ XI_ButtonPress ∧ ev.evtype ≠ XI_ButtonRelease) := by
    tauto
  simp only [propagateXinputEvent, hty, if_false, queryX11WindowsAtPos_not_eager]
  rfl

theorem propagateXinputEvent_not_eager_motion :
    (xiMotion.evtype = XI_Motion ∨ xiMotion.evtype = XI_ButtonPress ∨
      xiMotion.evtype = XI_ButtonRelease) ∧
    propagateXinputEvent .little false ⟨0, 0, .IsViewable, false⟩ (fun _ _ _ _ => []) desktopServer
        desktopOverlay xiMotion =
      some (.ungrabPointer :: ((fun _ _ _ _ => []) xiMotion desktopOverlay.root None xiMotion.pos).map
        fun (e : Nat × XEvent) => .sendEvent desktopOverlay.root true e.1 e.2) :=
  ⟨.inl rfl, propagateXinputEvent_not_eager .little ⟨0, 0, .IsViewable, false⟩ (fun _ _ _ _ => [])
    (.inl rfl)⟩

end Propagate

/-- The root (1) and its children: a viewable 100 × 100 window 5 at the origin, listed in
`_NET_CLIENT_LIST_STACKING`, and conky's window 9. -/
def stackedServer : Server :=
  Server.flat 1 [5, 9] clientListAtoms
    (fun w a => if w = 1 ∧ a = 305 then some ⟨XA_WINDOW, 32, [5], by decide, by decide⟩ else none)
    (fun w => if w = 5 then some ⟨100, 100, .IsViewable, false⟩ else none)
    (fun _ => (0, 0)) (by decide)

/-- Window 5 is listed, viewable and under the click, yet the click goes to the desktop. -/
theorem propagateX11Event_stackedServer :
    xGetWindowProperty stackedServer 1 305 longLengthAll XA_WINDOW = some ⟨XA_WINDOW, 32, [5]⟩ ∧
    stackedServer.attributes 5 = some ⟨100, 100, .IsViewable, false⟩ ∧
    stackedServer.origin 5 = (0, 0) ∧
    ∀ o eager attr generate_events cookie,
      propagateX11Event o eager attr generate_events stackedServer overlayWindow clickEvent cookie =
        some [.ungrabPointer,
          .sendEvent 1 true ButtonPressMask ⟨ButtonPress, 1, 10, 10, 10, 10, CurrentTime, 1, 0⟩,
          .setInputFocus 1] := by
  refine ⟨by decide, rfl, rfl, fun o eager attr generate_events cookie => ?_⟩
  have hgeneric : ¬(clickEvent.type = GenericEvent ∧ clickEvent.extension = overlayWindow.xi_opcode) := by
    decide
  have hinput : clickEvent.type = ButtonPress := rfl
  simp only [propagateX11Event, hgeneric, hinput, queryX11WindowsAtPos, vRootWindowOfScreen_eq_root,
    queryX11Windows_eq, @queryX11WindowsEager_no_hints stackedServer fun _ => rfl]
  cases eager <;> rfl

/-- The motion of `xiMotion` as a core event. -/
def coreMotion : XEvent := ⟨MotionNotify, 9, 3, 4, 10, 10, 7, 0, 0⟩

/-- With no window under the pointer, the XInput path sends the motion to the root at the
position relative to conky's window, the core path to the desktop window at the root position. -/
theorem propagate_desktopServer (o : Host) (eager : Bool) (attr : WindowAttributes)
    (generate_events : XiEventData → Window → Window → Int × Int → List (Nat × XEvent)) :
    propagateXinputEvent o eager attr generate_events desktopServer desktopOverlay xiMotion =
      some (.ungrabPointer :: (generate_events xiMotion 1 None (3, 4)).map fun e =>
        .sendEvent 1 true e.1 e.2) ∧
    propagateX11Event o eager attr generate_events desktopServer desktopOverlay coreMotion none =
      some [.ungrabPointer,
        .sendEvent 2 true PointerMotionMask ⟨MotionNotify, 2, 10, 10, 10, 10, CurrentTime, 0, 0⟩] := by
  have hgeneric : ¬(coreMotion.type = GenericEvent ∧ coreMotion.extension = desktopOverlay.xi_opcode) := by
    decide
  have hinput : coreMotion.type = MotionNotify := rfl
  have hxi : ¬(xiMotion.evtype ≠ XI_Motion ∧ xiMotion.evtype ≠ XI_ButtonPress ∧
      xiMotion.evtype ≠ XI_ButtonRelease) := by decide
  simp only [propagateX11Event, propagateXinputEvent, hgeneric, hinput, hxi, queryX11WindowsAtPos,
    vRootWindowOfScreen_eq_root, queryX11Windows_eq,
    @queryX11WindowsEager_no_hints desktopServer fun _ => rfl]
  cases eager <;> exact ⟨rfl, rfl⟩

end Conky.X11
