import Conky.X11.Propagate
import Conky.X11.Struts

/-!
# conky's own window

`x11_init_window` finds the root and the desktop and, when conky draws in a window of its own,
creates it: for the `override` type an override-redirect child of the desktop, otherwise a
top-level window for the window manager to manage, described to it by WM hints, a window type
and one block of property writes per configured hint. It then selects the events conky reads: a
core event mask on its window and, with XInput 2, device events on the root and on its window.
The ICCCM properties that Xlib's `XmbSetWMProperties`, `XStoreName` and `XSetWMProtocols` set
are kept as requests, not as properties.

The hint blocks do not interfere: on a fresh window each property ends holding, one after
another, what every set hint alone would write there. The sticky block hands Xlib a 32-bit
`CARD32` where Xlib reads a `long`, so on a big-endian LP64 host `_NET_WM_DESKTOP` gets the four
bytes of memory after the variable. Conky's own window is neither the root nor the desktop, so
the propagation of input never sends to it.
-/

namespace Conky.X11

def ExposureMask : Nat := 1 <<< 15

def StructureNotifyMask : Nat := 1 <<< 17

def PropertyChangeMask : Nat := 1 <<< 22

def XI_HierarchyChanged : Nat := 11

def WithdrawnState : Nat := 0

def NormalState : Nat := 1

/-- `XISetMask(mask, event)`: set bit `event` of the mask bytes. -/
def XISetMask (mask event : Nat) : Nat := mask ||| 1 <<< event

/-- `XIClearMask(mask, event)`: clear bit `event` of the mask bytes. -/
def XIClearMask (mask event : Nat) : Nat := mask ^^^ (mask &&& 1 <<< event)

/-- Modelled from the spec: `window_type` of gui.h, which is not among the sources. -/
inductive WindowType where
  | DESKTOP
  | DOCK
  | PANEL
  | UTILITY
  | NORMAL
  | OVERRIDE
  deriving DecidableEq, Repr

/-- Modelled from the spec: the flags of `window_hints` (gui.h), which `TEST_HINT` tests in the
bit set `own_window_hints`. -/
inductive WindowHint where
  | UNDECORATED
  | BELOW
  | ABOVE
  | STICKY
  | SKIP_TASKBAR
  | SKIP_PAGER
  deriving DecidableEq, Repr

/-- The hints in the order of their blocks in `x11_init_window`. -/
def WindowHint.all : List WindowHint :=
  [.UNDECORATED, .BELOW, .ABOVE, .STICKY, .SKIP_TASKBAR, .SKIP_PAGER]

/-- The settings `x11_init_window` reads. -/
structure WindowSettings where
  own_window_type : WindowType
  own_window_hints : WindowHint → Bool
  own_window_class : List Nat
  own_window_title : List Nat
  border_inner_margin : Int
  border_width : Int
  border_outer_margin : Int

/-- The fields of `XWMHints` the code sets; its `flags` are `InputHint | StateHint`. -/
structure XWMHints where
  input : Bool
  initial_state : Nat
  deriving DecidableEq, Repr

/-- A request `x11_init_window` sends. `createWindow` carries the attributes its value mask
applies: the value mask is `CWOverrideRedirect | CWBackingStore` and the background or colormap
bits, never `CWEventMask`, so the event mask filled in the attributes is not applied.
`setInputRegion` is `XFixesSetWindowShapeRegion` with the region of an uninitialised
`XRectangle`; `clearInputShape` is `XShapeCombineRectangles` with no rectangle, an empty input
shape. -/
inductive InitRequest where
  | createWindow (w parent : Window) (x y size : Int) (override_redirect : Bool)
  | lowerWindow (w : Window)
  | setClassHint (w : Window) (res_name : List Nat)
  | setInputRegion (w : Window)
  | clearInputShape (w : Window)
  | setWMProperties (w : Window) (hints : XWMHints) (res_name : List Nat)
  | storeName (w : Window) (name : List Nat)
  | setWMProtocols (w : Window)
  | changeProperty (w : Window) (c : PropertyChange)
  | mapWindow (w : Window)
  | selectInput (w : Window) (event_mask : Nat)
  | xiSelectEvents (w : Window) (mask : Nat)
  deriving DecidableEq, Repr

/-- The window and the write of a `ChangeProperty` request. -/
def InitRequest.propertyChange : InitRequest → Option (Window × PropertyChange)
  | .changeProperty w c => some (w, c)
  | _ => none

/-- One property write of `x11_init_window`: `xa = ATOM(name)` and, unless that is `None`,
`XChangeProperty(display, window.window, xa, type, 32, mode, data, n)`. -/
def atomWrite (atoms : AtomTable) (name : AtomName) (type : Atom) (mode : PropMode)
    (data : List Nat) : List PropertyChange :=
  if atoms.atom name ≠ None then [⟨atoms.atom name, type, 32, mode, data⟩] else []

/-- The `_NET_WM_WINDOW_TYPE` of a window type; docks and panels share one. -/
def windowTypeAtom (atoms : AtomTable) : WindowType → Atom
  | .DESKTOP => atoms.atom ._NET_WM_WINDOW_TYPE_DESKTOP
  | .DOCK => atoms.atom ._NET_WM_WINDOW_TYPE_DOCK
  | .PANEL => atoms.atom ._NET_WM_WINDOW_TYPE_DOCK
  | .UTILITY => atoms.atom ._NET_WM_WINDOW_TYPE_UTILITY
  | .NORMAL | .OVERRIDE => atoms.atom ._NET_WM_WINDOW_TYPE_NORMAL

/-- The `long` Xlib reads at a 32-bit variable holding `v` when the next four bytes of memory
hold `after`: Xlib reads the items of a format-32 property as `long`s, which on an ILP32 host is
the variable itself. -/
def longAt (o : Host) (v after : Nat) : Nat :=
  if o.lp64 then
    match o.endian with
    | .little => v + 2 ^ 32 * after
    | .big => 2 ^ 32 * v + after
  else v

/-- A window manager that has interned the window type and hint atoms conky's own window
writes. -/
def ownWindowAtoms : AtomTable where
  atom
    | ._NET_WM_WINDOW_TYPE => 401
    | ._NET_WM_WINDOW_TYPE_NORMAL => 402
    | ._MOTIF_WM_HINTS => 403
    | ._WIN_LAYER => 404
    | ._NET_WM_STATE => 405
    | ._NET_WM_STATE_BELOW => 406
    | ._NET_WM_DESKTOP => 407
    | ._NET_WM_STATE_STICKY => 408
    | _ => None
  atom_injective := by decide

section Hints

variable (o : Host) (after : Nat) (atoms : AtomTable)

/-- The writes of a hint's block. The sticky block passes `&xa_prop`, a 32-bit `CARD32`, where
Xlib reads a `long`; `after` is what the four bytes after it hold. -/
def hintChanges : WindowHint → List PropertyChange
  | .UNDECORATED =>
    atomWrite atoms ._MOTIF_WM_HINTS (atoms.atom ._MOTIF_WM_HINTS) .PropModeReplace [2, 0, 0, 0, 0]
  | .BELOW =>
    atomWrite atoms ._WIN_LAYER XA_CARDINAL .PropModeAppend [0] ++
      atomWrite atoms ._NET_WM_STATE XA_ATOM .PropModeAppend [atoms.atom ._NET_WM_STATE_BELOW]
  | .ABOVE =>
    atomWrite atoms ._WIN_LAYER XA_CARDINAL .PropModeAppend [6] ++
      atomWrite atoms ._NET_WM_STATE XA_ATOM .PropModeAppend [atoms.atom ._NET_WM_STATE_ABOVE]
  | .STICKY =>
    atomWrite atoms ._NET_WM_DESKTOP XA_CARDINAL .PropModeAppend [longAt o 0xFFFFFFFF after] ++
      atomWrite atoms ._NET_WM_STATE XA_ATOM .PropModeAppend [atoms.atom ._NET_WM_STATE_STICKY]
  | .SKIP_TASKBAR =>
    atomWrite atoms ._NET_WM_STATE XA_ATOM .PropModeAppend [atoms.atom ._NET_WM_STATE_SKIP_TASKBAR]
  | .SKIP_PAGER =>
    atomWrite atoms ._NET_WM_STATE XA_ATOM .PropModeAppend [atoms.atom ._NET_WM_STATE_SKIP_PAGER]

/-- The hint blocks of `x11_init_window` ("Set desired hints"), each run when its hint is set. -/
def setDesiredHints (hints : WindowHint → Bool) : List PropertyChange :=
  (if hints .UNDECORATED then hintChanges o after atoms .UNDECORATED else []) ++
  (if hints .BELOW then hintChanges o after atoms .BELOW else []) ++
  (if hints .ABOVE then hintChanges o after atoms .ABOVE else []) ++
  (if hints .STICKY then hintChanges o after atoms .STICKY else []) ++
  (if hints .SKIP_TASKBAR then hintChanges o after atoms .SKIP_TASKBAR else []) ++
  (if hints .SKIP_PAGER then hintChanges o after atoms .SKIP_PAGER else [])

/-- The writes of a set of hints are the writes of each hint alone, in the order of the blocks. -/
theorem setDesiredHints_eq_flatMap (hints : WindowHint → Bool) :
    setDesiredHints o after atoms hints =
      WindowHint.all.flatMap fun h => if hints h then hintChanges o after atoms h else [] := by
  simp only [setDesiredHints, WindowHint.all, List.flatMap_cons, List.flatMap_nil, List.append_nil,
    List.append_assoc]

theorem filter_setDesiredHints (hints : WindowHint → Bool) (p : PropertyChange → Bool) :
    (setDesiredHints o after atoms hints).filter p =
      WindowHint.all.flatMap fun h => if hints h then (hintChanges o after atoms h).filter p else [] := by
  rw [setDesiredHints_eq_flatMap, List.filter_flatMap]
  congr 1
  funext h
  split <;> rfl

/-- The type the hint blocks write a property with. -/
def hintType : AtomName → Atom
  | ._MOTIF_WM_HINTS => atoms.atom ._MOTIF_WM_HINTS
  | ._NET_WM_STATE => XA_ATOM
  | _ => XA_CARDINAL

/-- A write of the hint blocks' shape: to the property of the interned atom of `n`, of the type
of `n`, in format 32, appending unless `n` is `_MOTIF_WM_HINTS`. -/
def HintShaped (c : PropertyChange) (n : AtomName) : Prop :=
  atoms.atom n ≠ None ∧ c.property = atoms.atom n ∧ c.type = hintType atoms n ∧ c.format = 32 ∧
    (n ≠ ._MOTIF_WM_HINTS → c.mode = .PropModeAppend)

theorem atomWrite_shaped {name : AtomName} {type : Atom} {mode : PropMode} {data : List Nat}
    {c : PropertyChange} (hc : c ∈ atomWrite atoms name type mode data)
    (htype : type = hintType atoms name) (hmode : name ≠ ._MOTIF_WM_HINTS → mode = .PropModeAppend) :
    HintShaped atoms c name := by
  unfold atomWrite at hc
  split_ifs at hc with hn
  · obtain rfl := List.mem_singleton.mp hc
    exact ⟨hn, rfl, htype, rfl, hmode⟩
  · cases hc

theorem hintChanges_shaped {h : WindowHint} {c : PropertyChange}
    (hc : c ∈ hintChanges o after atoms h) :
    ∃ n, HintShaped atoms c n ∧ (n = ._MOTIF_WM_HINTS → h = .UNDECORATED) := by
  cases h <;> simp only [hintChanges, List.mem_append] at hc <;>
    first
    | exact ⟨_, atomWrite_shaped atoms hc rfl (by decide), by decide⟩
    | rcases hc with hc | hc <;> exact ⟨_, atomWrite_shaped atoms hc rfl (by decide), by decide⟩

theorem setDesiredHints_shaped {hints : WindowHint → Bool} {c : PropertyChange}
    (hc : c ∈ setDesiredHints o after atoms hints) : ∃ n, HintShaped atoms c n := by
  rw [setDesiredHints_eq_flatMap, List.mem_flatMap] at hc
  obtain ⟨h, -, hc⟩ := hc
  split at hc
  · exact (hintChanges_shaped o after atoms hc).imp fun _ hn => hn.1
  · cases hc

theorem HintShaped.valid {c : PropertyChange} {n : AtomName} (h : HintShaped atoms c n) :
    c.property ≠ None ∧ c.type ≠ None ∧ (c.format = 8 ∨ c.format = 16 ∨ c.format = 32) := by
  obtain ⟨hn, hcp, hct, hcf, -⟩ := h
  refine ⟨hcp ▸ hn, ?_, .inr (.inr hcf)⟩
  rw [hct]
  cases n <;> first | exact hn | (simp only [hintType]; decide)

theorem HintShaped.same {c c' : PropertyChange} {n n' : AtomName} (h : HintShaped atoms c n)
    (h' : HintShaped atoms c' n') (hp : c.property = c'.property) :
    c.type = c'.type ∧ c.format = c'.format := by
  obtain ⟨hn, hcp, hct, hcf, -⟩ := h
  obtain ⟨-, hcp', hct', hcf', -⟩ := h'
  obtain rfl : n = n' := atoms.atom_injective n n' (hcp.symm.trans (hp.trans hcp')) hn
  exact ⟨hct.trans hct'.symm, hcf.trans hcf'.symm⟩

/-- On a window without property `a`, writes of the blocks' shape leave there all their items in
order, provided `_MOTIF_WM_HINTS`, which is replaced, is written once at most. -/
theorem storedItems_of_shaped {srv : Server} {w : Window} (hw : (srv.tree w).isSome) {a : Atom}
    (hfresh : srv.property w a = none) {cs : List PropertyChange}
    (hcs : ∀ c ∈ cs, ∃ n, HintShaped atoms c n)
    (hmotif : a = atoms.atom ._MOTIF_WM_HINTS → (cs.filter (·.property = a)).length ≤ 1) :
    storedItems srv w cs a = (cs.filter (·.property = a)).flatMap PropertyChange.items := by
  have hmem : ∀ c ∈ cs.filter (·.property = a), c ∈ cs ∧ c.property = a := fun c hc => by
    simpa using List.mem_filter.mp hc
  refine storedItems_of_uniform hw hfresh (fun c hc => ?_) (fun c hc c' hc' => ?_) ?_
  · obtain ⟨n, hn⟩ := hcs c (hmem c hc).1
    exact hn.valid atoms
  · obtain ⟨n, hn⟩ := hcs c (hmem c hc).1
    obtain ⟨n', hn'⟩ := hcs c' (hmem c' hc').1
    exact hn.same atoms hn' ((hmem c hc).2.trans (hmem c' hc').2.symm)
  · by_cases ha : a = atoms.atom ._MOTIF_WM_HINTS
    · exact .inr (hmotif ha)
    · refine .inl fun c hc => ?_
      obtain ⟨n, hn⟩ := hcs c (hmem c hc).1
      refine hn.2.2.2.2 fun hmot => ha ?_
      rw [← (hmem c hc).2, hn.2.1, hmot]

theorem hintChanges_filter_motif {h : WindowHint} (hu : h ≠ .UNDECORATED) :
    (hintChanges o after atoms h).filter (·.property = atoms.atom ._MOTIF_WM_HINTS) = [] := by
  refine List.filter_eq_nil_iff.mpr fun c hc hp => ?_
  obtain ⟨n, ⟨hn, hcp, -⟩, hu'⟩ := hintChanges_shaped o after atoms hc
  exact hu (hu' (atoms.atom_injective n _ (hcp.symm.trans (of_decide_eq_true hp)) hn))

theorem hintChanges_motif_le (h : WindowHint) :
    ((hintChanges o after atoms h).filter (·.property = atoms.atom ._MOTIF_WM_HINTS)).length ≤ 1 := by
  by_cases hu : h = .UNDECORATED
  · subst hu
    refine (List.length_filter_le _ _).trans ?_
    simp only [hintChanges, atomWrite]
    split <;> simp
  · simp [hintChanges_filter_motif o after atoms hu]

theorem setDesiredHints_motif_le (hints : WindowHint → Bool) :
    ((setDesiredHints o after atoms hints).filter
      (·.property = atoms.atom ._MOTIF_WM_HINTS)).length ≤ 1 := by
  rw [filter_setDesiredHints]
  simp only [WindowHint.all, List.flatMap_cons, List.flatMap_nil, List.append_nil,
    hintChanges_filter_motif o after atoms (by decide : WindowHint.BELOW ≠ _),
    hintChanges_filter_motif o after atoms (by decide : WindowHint.ABOVE ≠ _),
    hintChanges_filter_motif o after atoms (by decide : WindowHint.STICKY ≠ _),
    hintChanges_filter_motif o after atoms (by decide : WindowHint.SKIP_TASKBAR ≠ _),
    hintChanges_filter_motif o after atoms (by decide : WindowHint.SKIP_PAGER ≠ _), ite_self]
  split
  · simpa using hintChanges_motif_le o after atoms .UNDECORATED
  · simp

/-- The hint blocks do not interfere: on a window without any property yet, each property ends
holding, one after another, what every set hint alone would write there. -/
theorem setDesiredHints_additive {srv : Server} {w : Window} (hw : (srv.tree w).isSome)
    (hfresh : ∀ a, srv.property w a = none) (hints : WindowHint → Bool) (a : Atom) :
    storedItems srv w (setDesiredHints o after atoms hints) a =
      WindowHint.all.flatMap fun h =>
        if hints h then storedItems srv w (hintChanges o after atoms h) a else [] := by
  have hsingle : ∀ h, storedItems srv w (hintChanges o after atoms h) a =
      ((hintChanges o after atoms h).filter (·.property = a)).flatMap PropertyChange.items :=
    fun h => storedItems_of_shaped atoms hw (hfresh a)
      (fun c hc => (hintChanges_shaped o after atoms hc).imp fun _ hn => hn.1)
      (fun ha => ha ▸ hintChanges_motif_le o after atoms h)
  rw [storedItems_of_shaped atoms hw (hfresh a) (fun c hc => setDesiredHints_shaped o after atoms hc)
    (fun ha => ha ▸ setDesiredHints_motif_le o after atoms hints), filter_setDesiredHints,
    List.flatMap_assoc]
  congr 1
  funext h
  split
  · exact (hsingle h).symm
  · rfl

theorem setDesiredHints_additive_sideBySide :
    (sideBySideServer.tree 5).isSome ∧ (∀ a, sideBySideServer.property 5 a = none) ∧
    storedItems sideBySideServer 5
        (setDesiredHints .little 0 ownWindowAtoms fun h => h == .BELOW || h == .STICKY) 405 =
      WindowHint.all.flatMap fun h =>
        if (h == .BELOW || h == .STICKY) then
          storedItems sideBySideServer 5 (hintChanges .little 0 ownWindowAtoms h) 405 else [] :=
  ⟨rfl, fun _ => rfl, setDesiredHints_additive .little 0 ownWindowAtoms
    (show (sideBySideServer.tree 5).isSome from rfl) (fun _ => rfl) _ 405⟩

theorem filter_atomWrite (name n : AtomName) (type : Atom) (mode : PropMode) (data : List Nat) :
    (atomWrite atoms name type mode data).filter (·.property = atoms.atom n) =
      if name = n then atomWrite atoms name type mode data else [] := by
  unfold atomWrite
  by_cases hname : name = n
  · subst hname
    split_ifs <;> simp_all
  · split_ifs with hn
    · simp [atoms.atom_ne hname hn]
    · rfl

/-- The sticky block stores "all desktops", `0xFFFFFFFF`, except on a big-endian LP64 host. -/
theorem longAt_sticky (after : Nat) :
    longAt o 0xFFFFFFFF after % 2 ^ 32 =
      if o.endian = .big ∧ o.lp64 then after % 2 ^ 32 else 0xFFFFFFFF := by
  obtain ⟨endian, lp64⟩ := o
  cases endian <;> cases lp64 <;> simp [longAt]
  -- a big-endian LP64 host: the variable is the high half of the `long`
  omega

/-- `_NET_WM_DESKTOP` holds what the sticky block hands Xlib, read as a `long` and cut to 32
bits: "all desktops", except on a big-endian LP64 host, where it is the four bytes of memory after
the variable. -/
theorem storedItems_sticky {srv : Server} {w : Window} (hw : (srv.tree w).isSome)
    (hfresh : ∀ a, srv.property w a = none) (hints : WindowHint → Bool)
    (hn : atoms.atom ._NET_WM_DESKTOP ≠ None) :
    storedItems srv w (setDesiredHints o after atoms hints) (atoms.atom ._NET_WM_DESKTOP) =
      if hints .STICKY then
        [if o.endian = .big ∧ o.lp64 then after % 2 ^ 32 else 0xFFFFFFFF]
      else [] := by
  rw [storedItems_of_shaped atoms hw (hfresh _) (fun c hc => setDesiredHints_shaped o after atoms hc)
    (fun ha => ha ▸ setDesiredHints_motif_le o after atoms hints), filter_setDesiredHints]
  simp only [WindowHint.all, hintChanges, List.filter_append, filter_atomWrite, List.flatMap_cons,
    List.flatMap_nil, reduceCtorEq, ↓reduceIte, List.append_nil, List.nil_append, ite_self]
  split
  · simpa [atomWrite, hn, PropertyChange.items] using longAt_sticky o after
  · simp

theorem storedItems_sticky_big :
    (sideBySideServer.tree 5).isSome ∧ (∀ a, sideBySideServer.property 5 a = none) ∧
    ownWindowAtoms.atom ._NET_WM_DESKTOP ≠ None ∧
    storedItems sideBySideServer 5 (setDesiredHints .big 7 ownWindowAtoms fun h => h == .STICKY)
        (ownWindowAtoms.atom ._NET_WM_DESKTOP) =
      if (WindowHint.STICKY == .STICKY) then
        [if Host.big.endian = .big ∧ Host.big.lp64 then 7 % 2 ^ 32 else 0xFFFFFFFF]
      else [] :=
  ⟨rfl, fun _ => rfl, by decide,
    storedItems_sticky .big 7 ownWindowAtoms (show (sideBySideServer.tree 5).isSome from rfl)
      (fun _ => rfl) _ (by decide)⟩

end Hints

/-- What the server answers `x11_init_window` besides its state: the id of the window it
creates, whether `XShapeQueryVersion` succeeds, the major opcode of XInput if the extension is
present, and whether it supports XInput 2.0. -/
structure InitReplies where
  created : Window
  shape : Bool
  xi_opcode : Option Nat
  xi2 : Bool
  deriving DecidableEq, Repr

/-- What `x11_init_window` leaves: conky's window record, its geometry and the requests sent. -/
structure InitWindowResult where
  window : ConkyX11Window
  geometry : Rect
  requests : List InitRequest
  deriving DecidableEq, Repr

section Init

/- `o` is the host; `after` what the four bytes after the sticky block's variable hold;
`find_desktop_window` the search for the desktop window; `build_mouse_events` and `build_xinput`
the build flags `BUILD_MOUSE_EVENTS` and `BUILD_XINPUT`. -/
variable (o : Host) (after : Nat) (find_desktop_window : Window → Window)
  (build_mouse_events build_xinput : Bool)

/-- The own-window branch of `x11_init_window` up to `XMapWindow`: the geometry after it and the
requests creating and describing conky's window `w`, a child of `root`, or of `desktop` for the
`override` type. -/
def createOwnWindow (atoms : AtomTable) (s : WindowSettings) (wm : WindowManager) (shape : Bool)
    (root desktop w : Window) (geometry : Rect) : Rect × List InitRequest :=
  let b := s.border_inner_margin + s.border_width + s.border_outer_margin
  -- a 0x0 window is invalid
  let b := if b = 0 then 1 else b
  if s.own_window_type = .OVERRIDE then
    (geometry,
      [.createWindow w desktop geometry.x geometry.y b true, .lowerWindow w,
        .setClassHint w s.own_window_class])
  else
    let geometry := if s.own_window_type = .DOCK then { geometry with x := 0, y := 0 } else geometry
    let hints := s.own_window_hints
    let wmHint : XWMHints := ⟨!hints .UNDECORATED,
      if (s.own_window_type = .DOCK ∨ s.own_window_type = .PANEL) ∧ wm = .fluxbox then WithdrawnState
      else NormalState⟩
    (geometry,
      [.createWindow w root geometry.x geometry.y b (s.own_window_type = .UTILITY)] ++
      (if s.own_window_type = .UTILITY then [.setInputRegion w] else []) ++
      (if !wmHint.input ∧ shape ∧ (s.own_window_type ≠ .NORMAL ∨ hints .UNDECORATED) then
        [.clearInputShape w] else []) ++
      [.setWMProperties w wmHint s.own_window_class, .storeName w s.own_window_title,
        .setWMProtocols w] ++
      (atomWrite atoms ._NET_WM_WINDOW_TYPE XA_ATOM .PropModeReplace
          [windowTypeAtom atoms s.own_window_type] ++
        setDesiredHints o after atoms hints).map (.changeProperty w))

/-- The XInput 2 selections of `x11_init_window` once `XQueryExtension` and `XIQueryVersion`
have succeeded: device events on the root and, for an own window, on conky's window `w`. -/
def xiSelectRequests (own : Bool) (root w : Window) : List InitRequest :=
  let mask := XISetMask 0 XI_HierarchyChanged
  let mask := if build_mouse_events then XISetMask mask XI_Motion else mask
  let mask := if !own then XISetMask (XISetMask mask XI_ButtonPress) XI_ButtonRelease else mask
  .xiSelectEvents root mask ::
    if own then
      let mask := if build_mouse_events then XIClearMask mask XI_Motion else mask
      [.xiSelectEvents w (XISetMask (XISetMask mask XI_ButtonPress) XI_ButtonRelease)]
    else []

/-- The input selection of `x11_init_window` on conky's window `w`: the XInput opcode recorded
and the requests; the core event mask is selected last. A build without XInput keeps the opcode
recorded before, `window_xi_opcode`, and takes button events through the core mask. -/
def selectX11Input (s : WindowSettings) (own : Bool) (window_xi_opcode : Nat)
    (xi_opcode : Option Nat) (xi2 : Bool) (root w : Window) : Nat × List InitRequest :=
  let xinput_ok := build_xinput && xi_opcode.isSome && xi2
  let input_mask := ExposureMask ||| PropertyChangeMask
  let input_mask := if own then input_mask ||| StructureNotifyMask else input_mask
  let input_mask :=
    if own ∧ !build_xinput then input_mask ||| (ButtonPressMask ||| ButtonReleaseMask)
    else input_mask
  -- without XInput, fall back to core enter, leave and motion events
  let input_mask :=
    if build_mouse_events ∧ !xinput_ok ∧ own ∧ s.own_window_type ≠ .DESKTOP then
      input_mask ||| PointerMotionMask ||| EnterWindowMask ||| LeaveWindowMask
    else input_mask
  (if build_xinput then xi_opcode.getD 0 else window_xi_opcode,
    (if xinput_ok then xiSelectRequests build_mouse_events own root w else []) ++
      [.selectInput w input_mask])

/-- `x11_init_window(l, own)`: `none` where `VRootWindow` reads through an invalid pointer. A
window that is not conky's own is the one recorded, or else the desktop. -/
def x11InitWindow (srv : Server) (s : WindowSettings) (wm : WindowManager) (replies : InitReplies)
    (own : Bool) (window : ConkyX11Window) (geometry : Rect) : Option InitWindowResult :=
  (vRootWindowOfScreen o srv).map fun root =>
    if root = None then ⟨{ window with root := None }, geometry, []⟩
    else
      let desktop := find_desktop_window root
      if own then
        let w := replies.created
        let created := createOwnWindow o after srv.atoms s wm replies.shape root desktop w geometry
        let input := selectX11Input build_mouse_events build_xinput s true window.xi_opcode
          replies.xi_opcode replies.xi2 root w
        ⟨⟨root, desktop, w, input.1⟩, created.1, created.2 ++ [.mapWindow w] ++ input.2⟩
      else
        let w := if window.window = None then desktop else window.window
        let geometry := match srv.attributes w with
          | some attrs => { geometry with width := attrs.width, height := attrs.height }
          | none => geometry
        let input := selectX11Input build_mouse_events build_xinput s false window.xi_opcode
          replies.xi_opcode replies.xi2 root w
        ⟨⟨root, desktop, w, input.1⟩, geometry, input.2⟩

/-- The properties the requests write with `XChangeProperty`, in order. The ICCCM properties that
`XStoreName`, `XmbSetWMProperties` and `XSetWMProtocols` write, under predefined atoms, are not
applied. -/
def applyInitRequests (srv : Server) (reqs : List InitRequest) : Server :=
  (reqs.filterMap InitRequest.propertyChange).foldl (fun s wc => xChangeProperty s wc.1 wc.2) srv

/-- A root (1) and the window (9) the server hands out for conky's own window, before any
property is set on it. -/
def ownWindowServer : Server :=
  Server.flat 1 [9] ownWindowAtoms (fun _ _ => none) (fun _ => none) (fun _ => (0, 0)) (by decide)

/-- A normal window kept below the others on every desktop. -/
def belowStickySettings : WindowSettings :=
  ⟨.NORMAL, fun h => h == .BELOW || h == .STICKY, [99], [99], 0, 1, 0⟩

theorem x11InitWindow_own {srv : Server} {s : WindowSettings} {wm : WindowManager}
    {replies : InitReplies} {window : ConkyX11Window} {geometry : Rect} {r : InitWindowResult}
    (hroot : srv.root ≠ None)
    (h : x11InitWindow o after find_desktop_window build_mouse_events build_xinput srv s wm replies true window
      geometry = some r) :
    let created := createOwnWindow o after srv.atoms s wm replies.shape srv.root
      (find_desktop_window srv.root) replies.created geometry
    let input := selectX11Input build_mouse_events build_xinput s true window.xi_opcode
      replies.xi_opcode replies.xi2 srv.root replies.created
    r = ⟨⟨srv.root, find_desktop_window srv.root, replies.created, input.1⟩, created.1,
      created.2 ++ [.mapWindow replies.created] ++ input.2⟩ := by
  simp only [x11InitWindow, vRootWindowOfScreen_eq_root, Option.map_some', if_neg hroot,
    if_true, Option.some.injEq] at h
  exact h.symm

theorem createOwnWindow_propertyChanges (atoms : AtomTable) (s : WindowSettings) (wm : WindowManager)
    (shape : Bool) (root desktop w : Window) (geometry : Rect) (htype : s.own_window_type ≠ .OVERRIDE) :
    (createOwnWindow o after atoms s wm shape root desktop w geometry).2.filterMap
        InitRequest.propertyChange =
      (atomWrite atoms ._NET_WM_WINDOW_TYPE XA_ATOM .PropModeReplace
          [windowTypeAtom atoms s.own_window_type] ++
        setDesiredHints o after atoms s.own_window_hints).map ((w, ·)) := by
  have hnone : ∀ (c : Prop) [Decidable c] (req : InitRequest), req.propertyChange = none →
      (if c then [req] else []).filterMap InitRequest.propertyChange = [] := by
    intro c _ req hreq
    split <;> simp [hreq]
  have hmap : ∀ cs : List PropertyChange,
      (cs.map (InitRequest.changeProperty w)).filterMap InitRequest.propertyChange = cs.map ((w, ·)) := by
    intro cs
    induction cs <;> simp [*, InitRequest.propertyChange]
  simp only [createOwnWindow, if_neg htype, List.filterMap_append, hmap,
    hnone _ (.setInputRegion w) rfl, hnone _ (.clearInputShape w) rfl, List.filterMap_cons,
    InitRequest.propertyChange, List.filterMap_nil, List.nil_append, List.map_append]

theorem selectX11Input_propertyChanges (s : WindowSettings) (own : Bool) (window_xi_opcode : Nat)
    (xi_opcode : Option Nat) (xi2 : Bool) (root w : Window) :
    (selectX11Input build_mouse_events build_xinput s own window_xi_opcode xi_opcode xi2 root w).2.filterMap
      InitRequest.propertyChange = [] := by
  -- input selections write no property, whatever their masks
  have hxi : (xiSelectRequests build_mouse_events own root w).filterMap
      InitRequest.propertyChange = [] := by
    unfold xiSelectRequests
    split_ifs <;> rfl
  simp only [selectX11Input, List.filterMap_append, List.filterMap_cons, List.filterMap_nil,
    InitRequest.propertyChange, List.append_nil]
  split_ifs
  · exact hxi
  · rfl

/-- Creating conky's own window writes its window type and then the hint blocks' properties, on
that window and nowhere else. -/
theorem x11InitWindow_applyInitRequests {srv : Server} {s : WindowSettings} {wm : WindowManager}
    {replies : InitReplies} {window : ConkyX11Window} {geometry : Rect} {r : InitWindowResult}
    (hroot : srv.root ≠ None) (htype : s.own_window_type ≠ .OVERRIDE)
    (h : x11InitWindow o after find_desktop_window build_mouse_events build_xinput srv s wm replies true window
      geometry = some r) :
    applyInitRequests srv r.requests =
      applyChanges srv r.window.window
        (atomWrite srv.atoms ._NET_WM_WINDOW_TYPE XA_ATOM .PropModeReplace
            [windowTypeAtom srv.atoms s.own_window_type] ++
          setDesiredHints o after srv.atoms s.own_window_hints) := by
  rw [x11InitWindow_own o after find_desktop_window build_mouse_events build_xinput hroot h]
  simp only [applyInitRequests, List.filterMap_append, createOwnWindow_propertyChanges o after _ _ _
    _ _ _ _ _ htype, selectX11Input_propertyChanges, InitRequest.propertyChange, List.filterMap_cons,
    List.filterMap_nil, List.append_nil, List.foldl_map, applyChanges]

/-- On a created window without properties, each property under an atom x11.cc interns, other
than the window type, ends holding exactly the items the set hints' blocks write to it, in block
order. The ICCCM properties that `XmbSetWMProperties`, `XStoreName` and `XSetWMProtocols` set lie
under other atoms and are not modelled. -/
theorem x11InitWindow_hint_items {srv : Server} {s : WindowSettings} {wm : WindowManager}
    {replies : InitReplies} {window : ConkyX11Window} {geometry : Rect} {r : InitWindowResult}
    (hroot : srv.root ≠ None) (htype : s.own_window_type ≠ .OVERRIDE)
    (h : x11InitWindow o after find_desktop_window build_mouse_events build_xinput srv s wm replies
      true window geometry = some r)
    (hw : (srv.tree replies.created).isSome) (hfresh : ∀ a, srv.property replies.created a = none)
    {n : AtomName} (hn : n ≠ ._NET_WM_WINDOW_TYPE) :
    ((((applyInitRequests srv r.requests).property r.window.window (srv.atoms.atom n)).map
        Property.items).getD []) =
      ((setDesiredHints o after srv.atoms s.own_window_hints).filter
        (·.property = srv.atoms.atom n)).flatMap PropertyChange.items := by
  have hwin : r.window.window = replies.created := by
    rw [x11InitWindow_own o after find_desktop_window build_mouse_events build_xinput hroot h]
  rw [x11InitWindow_applyInitRequests o after find_desktop_window build_mouse_events build_xinput
    hroot htype h, hwin, ← storedItems]
  have hfilter : (atomWrite srv.atoms ._NET_WM_WINDOW_TYPE XA_ATOM .PropModeReplace
        [windowTypeAtom srv.atoms s.own_window_type] ++
      setDesiredHints o after srv.atoms s.own_window_hints).filter (·.property = srv.atoms.atom n) =
      (setDesiredHints o after srv.atoms s.own_window_hints).filter (·.property = srv.atoms.atom n) := by
    rw [List.filter_append, filter_atomWrite, if_neg (Ne.symm hn), List.nil_append]
  rw [storedItems_congr hw hfilter]
  exact storedItems_of_shaped srv.atoms hw (hfresh _)
    (fun c hc => setDesiredHints_shaped o after srv.atoms hc)
    (fun ha' => ha' ▸ setDesiredHints_motif_le o after srv.atoms s.own_window_hints)

theorem x11InitWindow_hint_items_ownWindowServer :
    ownWindowServer.root ≠ None ∧ belowStickySettings.own_window_type ≠ .OVERRIDE ∧
    (ownWindowServer.tree 9).isSome ∧ (∀ a, ownWindowServer.property 9 a = none) ∧
    AtomName._NET_WM_STATE ≠ ._NET_WM_WINDOW_TYPE ∧
    ∃ r, x11InitWindow .little 0 id true true ownWindowServer belowStickySettings .other
        ⟨9, true, none, false⟩ true ⟨0, 0, 0, 0⟩ ⟨0, 0, 100, 100⟩ = some r ∧
      ((((applyInitRequests ownWindowServer r.requests).property r.window.window
          (ownWindowServer.atoms.atom ._NET_WM_STATE)).map Property.items).getD []) =
        ((setDesiredHints .little 0 ownWindowServer.atoms belowStickySettings.own_window_hints).filter
          (·.property = ownWindowServer.atoms.atom ._NET_WM_STATE)).flatMap PropertyChange.items :=
  ⟨by decide, by decide, rfl, fun _ => rfl, by decide, _, rfl,
    x11InitWindow_hint_items .little 0 id true true (by decide) (by decide)
      (show x11InitWindow .little 0 id true true ownWindowServer belowStickySettings .other
        ⟨9, true, none, false⟩ true ⟨0, 0, 0, 0⟩ ⟨0, 0, 100, 100⟩ = some _ from rfl)
      rfl (fun _ => rfl) (by decide)⟩

/-- The window `XCreateWindow` returns is a new one, neither the root nor the desktop; so
propagating any event, on the server in any later state, never sends it to conky's window. -/
theorem x11InitWindow_propagate_ne_window {srv : Server} {s : WindowSettings} {wm : WindowManager}
    {replies : InitReplies} {window : ConkyX11Window} {geometry : Rect} {r : InitWindowResult}
    (hroot : srv.root ≠ None) (hnew : replies.created ≠ srv.root)
    (hnew' : replies.created ≠ find_desktop_window srv.root)
    (h : x11InitWindow o after find_desktop_window build_mouse_events build_xinput srv s wm replies true window
      geometry = some r)
    (o' : Host) (eager : Bool) (attr : WindowAttributes)
    (generate_events : XiEventData → Window → Window → Int × Int → List (Nat × XEvent))
    {srv' : Server} {ev : XEvent} {cookie : Option XiEventData} {reqs : List Request}
    (hp : propagateX11Event o' eager attr generate_events srv' r.window ev cookie = some reqs) :
    ∀ req ∈ reqs, ∀ w, req.destination = some w → w ≠ r.window.window := by
  obtain rfl := x11InitWindow_own o after find_desktop_window build_mouse_events build_xinput hroot h
  exact propagateX11Event_ne_window o' eager attr generate_events (Ne.symm hnew') (Ne.symm hnew) hp

theorem x11InitWindow_propagate_ne_window_ownWindowServer :
    ownWindowServer.root ≠ None ∧ (9 : Window) ≠ ownWindowServer.root ∧
    (9 : Window) ≠ id ownWindowServer.root ∧
    ∃ r reqs, x11InitWindow .little 0 id true true ownWindowServer belowStickySettings .other
        ⟨9, true, none, false⟩ true ⟨0, 0, 0, 0⟩ ⟨0, 0, 100, 100⟩ = some r ∧
      propagateX11Event .little false ⟨0, 0, .IsViewable, false⟩ (fun _ _ _ _ => [])
        ownWindowServer r.window ⟨ButtonPress, 9, 3, 4, 10, 10, 7, 1, 0⟩ none = some reqs ∧
      ∀ req ∈ reqs, ∀ w, req.destination = some w → w ≠ r.window.window :=
  ⟨by decide, by decide, by decide, _, _, rfl, rfl,
    x11InitWindow_propagate_ne_window .little 0 id true true (by decide) (by decide) (by decide)
      (show x11InitWindow .little 0 id true true ownWindowServer belowStickySettings .other
        ⟨9, true, none, false⟩ true ⟨0, 0, 0, 0⟩ ⟨0, 0, 100, 100⟩ = some _ from rfl)
      .little false ⟨0, 0, .IsViewable, false⟩ (fun _ _ _ _ => [])
      (show propagateX11Event .little false ⟨0, 0, .IsViewable, false⟩ (fun _ _ _ _ => [])
        ownWindowServer _ ⟨ButtonPress, 9, 3, 4, 10, 10, 7, 1, 0⟩ none = some _ from rfl)⟩

end Init

end Conky.X11
