import Conky.X11.Server
import Conky.Libc

/-!
# Struts

A dock or panel reserves a strip along a screen edge with `_NET_WM_STRUT` and the twelve-slot
`_NET_WM_STRUT_PARTIAL`. `set_struts` fills the slot array: for window managers that honour
partial struts ("cut-outs"), by the alignment, on the axis the window's longer side chooses once
and for all; otherwise on the edge, left or right for a portrait window and top or bottom for
another, whose reservation is smaller. Each reservation is one of four blocks of three
assignments, the edge's size and the start and end of its range, every value clamped to the
display (`reserve`).

Every vector set_struts writes is clamped and reserves at most one edge, and the reserved area
holds the part of the window on the display. The fallback compares the two edges of an axis on
unclamped sums, `display_width - end_x + width` and its vertical twin, which are `int`s: when
they fit, the choice agrees with the clamped sizes written; a window far enough off the left or
top edge makes the sum overflow, and the wrapped value picks the larger edge.

The array goes to the server in two `XChangeProperty` requests. They replace what the window
held, and every slot fits a `CARDINAL`, so a window manager reads back the slots exactly as they
were assigned.

A geometry's `end_x` and `end_y` are taken exact: the window's corners are assumed to be `int`s.
The two sums of the fallback wrap as compiled code computes them (`wrapInt`).
-/

namespace Conky.X11

/-- Modelled from the spec: `conky::rect<int>` of geometry.h, which is not among the sources, a
top-left position and a size in display pixels; `end_x` is `x + width` and `end_y` is
`y + height`. -/
structure Rect where
  x : Int
  y : Int
  width : Int
  height : Int
  deriving DecidableEq, Repr

def Rect.end_x (r : Rect) : Int := r.x + r.width

def Rect.end_y (r : Rect) : Int := r.y + r.height

/-- Modelled from the spec: `axis_align` of gui.h, the alignment along one axis; per the comment
in `set_struts`, the low bit of its two-bit code is set for start and end only. -/
inductive AxisAlign where
  | NONE
  | START
  | MIDDLE
  | END
  deriving DecidableEq, Repr

def AxisAlign.code : AxisAlign → Nat
  | .NONE => 0
  | .START => 1
  | .MIDDLE => 2
  | .END => 3

/-- Modelled from the spec: `alignment` of gui.h, a vertical and a horizontal `axis_align`, whose
code `*align` puts the vertical one in the high two bits. -/
structure Alignment where
  vertical : AxisAlign
  horizontal : AxisAlign
  deriving DecidableEq, Repr

def Alignment.code (a : Alignment) : Nat := 4 * a.vertical.code + a.horizontal.code

@[match_pattern]
def Alignment.TOP_LEFT : Alignment := ⟨.START, .START⟩

@[match_pattern]
def Alignment.TOP_MIDDLE : Alignment := ⟨.START, .MIDDLE⟩

@[match_pattern]
def Alignment.TOP_RIGHT : Alignment := ⟨.START, .END⟩

@[match_pattern]
def Alignment.MIDDLE_LEFT : Alignment := ⟨.MIDDLE, .START⟩

@[match_pattern]
def Alignment.MIDDLE_RIGHT : Alignment := ⟨.MIDDLE, .END⟩

@[match_pattern]
def Alignment.BOTTOM_LEFT : Alignment := ⟨.END, .START⟩

@[match_pattern]
def Alignment.BOTTOM_MIDDLE : Alignment := ⟨.END, .MIDDLE⟩

@[match_pattern]
def Alignment.BOTTOM_RIGHT : Alignment := ⟨.END, .END⟩

/-- The members of `conky::info::window_manager` that `set_struts` names; every other member
behaves as `other`. -/
inductive WindowManager where
  | compiz
  | fluxbox
  | i3
  | kwin
  | enlightenment
  | other
  deriving DecidableEq, Repr

/-- `x11_strut::value`: the slots of the strut array. -/
inductive X11Strut where
  | LEFT
  | RIGHT
  | TOP
  | BOTTOM
  | LEFT_START_Y
  | LEFT_END_Y
  | RIGHT_START_Y
  | RIGHT_END_Y
  | TOP_START_X
  | TOP_END_X
  | BOTTOM_START_X
  | BOTTOM_END_X
  deriving DecidableEq, Repr

/-- The strut array after a sequence of assignments to it, starting from `x11_strut::array()`,
all zero. -/
def strutSizes (ws : List (X11Strut × Int)) (i : X11Strut) : Int :=
  ws.foldl (fun acc w => if w.1 = i then w.2 else acc) 0

/-- `std::clamp(v, lo, hi)`. -/
def clamp (v lo hi : Int) : Int := if v < lo then lo else if hi < v then hi else v

/-- A screen edge. -/
inductive Edge where
  | left
  | right
  | top
  | bottom
  deriving DecidableEq, Repr

/-- The block of `set_struts` that reserves edge `e` for `geometry`: the edge's size, then the
start and the end of its range. -/
def reserve (e : Edge) (geometry : Rect) (display_width display_height : Int) :
    List (X11Strut × Int) :=
  match e with
  | .left =>
    [(.LEFT, clamp geometry.end_x 0 display_width),
      (.LEFT_START_Y, clamp geometry.y 0 display_height),
      (.LEFT_END_Y, clamp geometry.end_y 0 display_height)]
  | .right =>
    [(.RIGHT, display_width - clamp geometry.x 0 display_width),
      (.RIGHT_START_Y, clamp geometry.y 0 display_height),
      (.RIGHT_END_Y, clamp geometry.end_y 0 display_height)]
  | .top =>
    [(.TOP, clamp geometry.end_y 0 display_height),
      (.TOP_START_X, clamp geometry.x 0 display_width),
      (.TOP_END_X, clamp geometry.end_x 0 display_width)]
  | .bottom =>
    [(.BOTTOM, display_height - clamp geometry.y 0 display_height),
      (.BOTTOM_START_X, clamp geometry.x 0 display_width),
      (.BOTTOM_END_X, clamp geometry.end_x 0 display_width)]

/-- `supports_cutout`: runtime tweaks are built in and the window manager honours partial
struts. -/
def supportsCutout (enable_runtime_tweaks : Bool) (wm : WindowManager) : Bool :=
  enable_runtime_tweaks && (wm == .compiz || wm == .fluxbox || wm == .i3 || wm == .kwin)

/-- The initialiser of the static `is_wide_window`, run at the first call that reaches it. -/
def isWideWindow (geometry : Rect) (wm : WindowManager) : Bool :=
  decide (geometry.width > geometry.height) || wm == .i3

/-- `set_struts` up to its property writes: the assignments it makes to the strut array, or
`none` where it returns before writing. `is_wide_window` is the value of the static. -/
def setStruts (enable_runtime_tweaks : Bool) (wm : WindowManager) (is_wide_window : Bool)
    (geometry : Rect) (display_width display_height : Int) (align : Alignment) :
    Option (List (X11Strut × Int)) :=
  if supportsCutout enable_runtime_tweaks wm then
    -- middle and none alignments leave the low bit of both axes clear
    if align.code &&& 0b0101 = 0 then none
    else some <|
      if is_wide_window then
        match align with
        | .TOP_LEFT | .TOP_RIGHT | .TOP_MIDDLE => reserve .top geometry display_width display_height
        | .BOTTOM_LEFT | .BOTTOM_RIGHT | .BOTTOM_MIDDLE =>
          reserve .bottom geometry display_width display_height
        | .MIDDLE_LEFT => reserve .left geometry display_width display_height
        | .MIDDLE_RIGHT => reserve .right geometry display_width display_height
        | _ => []
      else
        match align with
        | .TOP_LEFT | .MIDDLE_LEFT | .BOTTOM_LEFT => reserve .left geometry display_width display_height
        | .TOP_RIGHT | .MIDDLE_RIGHT | .BOTTOM_RIGHT =>
          reserve .right geometry display_width display_height
        | .TOP_MIDDLE => reserve .top geometry display_width display_height
        | .BOTTOM_MIDDLE => reserve .bottom geometry display_width display_height
        | _ => []
  else some <|
    if geometry.width < geometry.height then
      let space_left := geometry.end_x
      let space_right := wrapInt (display_width - geometry.end_x + geometry.width)
      if space_left < space_right then reserve .left geometry display_width display_height
      else reserve .right geometry display_width display_height
    else
      let space_top := geometry.end_y
      let space_bottom := wrapInt (display_height - geometry.end_y + geometry.height)
      if space_top < space_bottom then reserve .top geometry display_width display_height
      else reserve .bottom geometry display_width display_height

/-- The slot of an edge's size. -/
def Edge.size : Edge → X11Strut
  | .left => .LEFT
  | .right => .RIGHT
  | .top => .TOP
  | .bottom => .BOTTOM

/-- The slot of the start of an edge's range. -/
def Edge.start : Edge → X11Strut
  | .left => .LEFT_START_Y
  | .right => .RIGHT_START_Y
  | .top => .TOP_START_X
  | .bottom => .BOTTOM_START_X

/-- The slot of the end of an edge's range. -/
def Edge.stop : Edge → X11Strut
  | .left => .LEFT_END_Y
  | .right => .RIGHT_END_Y
  | .top => .TOP_END_X
  | .bottom => .BOTTOM_END_X

/-- The display dimension a slot measures along. -/
def X11Strut.bound (display_width display_height : Int) : X11Strut → Int
  | .LEFT | .RIGHT | .TOP_START_X | .TOP_END_X | .BOTTOM_START_X | .BOTTOM_END_X => display_width
  | .TOP | .BOTTOM | .LEFT_START_Y | .LEFT_END_Y | .RIGHT_START_Y | .RIGHT_END_Y => display_height

theorem clamp_eq {v lo hi : Int} (h : lo ≤ hi) : clamp v lo hi = max lo (min v hi) := by
  unfold clamp
  split_ifs <;> omega

theorem strutSizes_eq_zero_or_mem (ws : List (X11Strut × Int)) (i : X11Strut) :
    strutSizes ws i = 0 ∨ (i, strutSizes ws i) ∈ ws := by
  unfold strutSizes
  generalize (0 : Int) = acc
  induction ws generalizing acc with
  | nil => exact .inl rfl
  | cons w ws ih =>
    simp only [List.foldl_cons, List.mem_cons]
    by_cases hw : w.1 = i
    · rw [if_pos hw]
      rcases ih w.2 with h | h
      · exact .inr (.inl (by rw [h, ← hw]))
      · exact .inr (.inr h)
    · rw [if_neg hw]
      exact (ih acc).imp_right .inr

theorem reserve_bounded (e : Edge) (geometry : Rect) {display_width display_height : Int}
    (hdw : 0 ≤ display_width) (hdh : 0 ≤ display_height) :
    ∀ w ∈ reserve e geometry display_width display_height,
      0 ≤ w.2 ∧ w.2 ≤ w.1.bound display_width display_height := by
  cases e <;> simp only [reserve, List.forall_mem_cons, List.not_mem_nil, false_implies,
    implies_true, and_true, X11Strut.bound, clamp_eq hdw, clamp_eq hdh] <;> omega

theorem reserve_slots (e : Edge) (geometry : Rect) (display_width display_height : Int) :
    ∀ w ∈ reserve e geometry display_width display_height, w.1 = e.size ∨ w.1 = e.start ∨ w.1 = e.stop := by
  cases e <;> simp [reserve, Edge.size, Edge.start, Edge.stop]

/-- What `set_struts` can assign: nothing, or the block of one edge. -/
theorem setStruts_cases {enable_runtime_tweaks : Bool} {wm : WindowManager} {is_wide_window : Bool}
    {geometry : Rect} {display_width display_height : Int} {align : Alignment}
    {ws : List (X11Strut × Int)}
    (h : setStruts enable_runtime_tweaks wm is_wide_window geometry display_width display_height align =
      some ws) :
    ws = [] ∨ ∃ e, ws = reserve e geometry display_width display_height := by
  unfold setStruts at h
  dsimp only at h
  obtain ⟨v, hz⟩ := align
  split_ifs at h <;> cases h <;> first
    | exact .inr ⟨_, rfl⟩
    | cases v <;> cases hz <;> first | exact .inl rfl | exact .inr ⟨_, rfl⟩

theorem setStruts_fallback {enable_runtime_tweaks : Bool} {wm : WindowManager}
    (hc : supportsCutout enable_runtime_tweaks wm = false) (is_wide_window : Bool) (geometry : Rect)
    (display_width display_height : Int) (align : Alignment) :
    setStruts enable_runtime_tweaks wm is_wide_window geometry display_width display_height align =
      some (if geometry.width < geometry.height then
          if geometry.end_x < wrapInt (display_width - geometry.end_x + geometry.width) then
            reserve .left geometry display_width display_height
          else reserve .right geometry display_width display_height
        else if geometry.end_y < wrapInt (display_height - geometry.end_y + geometry.height) then
          reserve .top geometry display_width display_height
        else reserve .bottom geometry display_width display_height) := by
  unfold setStruts
  rw [hc]
  rfl

theorem strutSizes_bounded {enable_runtime_tweaks : Bool} {wm : WindowManager}
    {is_wide_window : Bool} {geometry : Rect} {display_width display_height : Int}
    {align : Alignment} {ws : List (X11Strut × Int)} (hdw : 0 ≤ display_width)
    (hdh : 0 ≤ display_height)
    (h : setStruts enable_runtime_tweaks wm is_wide_window geometry display_width display_height align =
      some ws) (i : X11Strut) :
    0 ≤ strutSizes ws i ∧ strutSizes ws i ≤ i.bound display_width display_height := by
  have hbound : 0 ≤ i.bound display_width display_height := by cases i <;> assumption
  rcases strutSizes_eq_zero_or_mem ws i with h0 | hmem
  · rw [h0]
    exact ⟨le_rfl, hbound⟩
  · rcases setStruts_cases h with rfl | ⟨e, rfl⟩
    · cases hmem
    · exact reserve_bounded e geometry hdw hdh _ hmem

/-- Every vector `set_struts` writes has its values clamped to the display and reserves one edge
at most: it assigns that edge's slots only, leaves the others 0, and the edge's range is not
reversed. -/
theorem setStruts_clamped {enable_runtime_tweaks : Bool} {wm : WindowManager} {is_wide_window : Bool}
    {geometry : Rect} {display_width display_height : Int} {align : Alignment}
    {ws : List (X11Strut × Int)} (hw : 0 ≤ geometry.width) (hh : 0 ≤ geometry.height)
    (hdw : 0 ≤ display_width) (hdh : 0 ≤ display_height)
    (h : setStruts enable_runtime_tweaks wm is_wide_window geometry display_width display_height align =
      some ws) :
    (∀ i, 0 ≤ strutSizes ws i ∧ strutSizes ws i ≤ i.bound display_width display_height) ∧
    ∃ e : Edge, (∀ w ∈ ws, w.1 = e.size ∨ w.1 = e.start ∨ w.1 = e.stop) ∧
      (∀ i, i ≠ e.size → i ≠ e.start → i ≠ e.stop → strutSizes ws i = 0) ∧
      strutSizes ws e.start ≤ strutSizes ws e.stop := by
  refine ⟨strutSizes_bounded hdw hdh h, ?_⟩
  rcases setStruts_cases h with rfl | ⟨e, rfl⟩
  · exact ⟨.left, by simp, fun _ _ _ _ => rfl, le_rfl⟩
  · refine ⟨e, reserve_slots e geometry _ _, fun i h₁ h₂ h₃ => ?_, ?_⟩
    · rcases strutSizes_eq_zero_or_mem (reserve e geometry _ _) i with h0 | hmem
      · exact h0
      · rcases reserve_slots e geometry _ _ _ hmem with h | h | h <;> contradiction
    · cases e <;> simp only [strutSizes, reserve, Edge.start, Edge.stop, List.foldl_cons,
        List.foldl_nil, reduceCtorEq, ↓reduceIte, Rect.end_x, Rect.end_y, clamp_eq hdw,
        clamp_eq hdh] <;> omega

theorem setStruts_clamped_topLeft :
    (0 : Int) ≤ 300 ∧ (0 : Int) ≤ 50 ∧ (0 : Int) ≤ 1920 ∧ (0 : Int) ≤ 1080 ∧
    setStruts true .compiz true ⟨-10, 5, 300, 50⟩ 1920 1080 .TOP_LEFT =
      some [(.TOP, 55), (.TOP_START_X, 0), (.TOP_END_X, 290)] ∧
    (∀ i, 0 ≤ strutSizes [(.TOP, 55), (.TOP_START_X, 0), (.TOP_END_X, 290)] i ∧
      strutSizes [(.TOP, 55), (.TOP_START_X, 0), (.TOP_END_X, 290)] i ≤ i.bound 1920 1080) ∧
    ∃ e : Edge, (∀ w ∈ [(X11Strut.TOP, (55 : Int)), (.TOP_START_X, 0), (.TOP_END_X, 290)],
        w.1 = e.size ∨ w.1 = e.start ∨ w.1 = e.stop) ∧
      (∀ i, i ≠ e.size → i ≠ e.start → i ≠ e.stop →
        strutSizes [(.TOP, 55), (.TOP_START_X, 0), (.TOP_END_X, 290)] i = 0) ∧
      strutSizes [(.TOP, 55), (.TOP_START_X, 0), (.TOP_END_X, 290)] e.start ≤
        strutSizes [(.TOP, 55), (.TOP_START_X, 0), (.TOP_END_X, 290)] e.stop := by
  have h : setStruts true .compiz true ⟨-10, 5, 300, 50⟩ 1920 1080 .TOP_LEFT =
      some [(.TOP, 55), (.TOP_START_X, 0), (.TOP_END_X, 290)] := by decide
  exact ⟨by decide, by decide, by decide, by decide, h,
    setStruts_clamped (by decide) (by decide) (by decide) (by decide) h⟩

/-- The part of the display a strut vector reserves: the areas of its four edges. -/
def Reserved (sizes : X11Strut → Int) (display_width display_height px py : Int) : Prop :=
  (0 ≤ px ∧ px < sizes .LEFT ∧ sizes .LEFT_START_Y ≤ py ∧ py ≤ sizes .LEFT_END_Y) ∨
  (display_width - sizes .RIGHT ≤ px ∧ px < display_width ∧
    sizes .RIGHT_START_Y ≤ py ∧ py ≤ sizes .RIGHT_END_Y) ∨
  (sizes .TOP_START_X ≤ px ∧ px ≤ sizes .TOP_END_X ∧ 0 ≤ py ∧ py < sizes .TOP) ∨
  (sizes .BOTTOM_START_X ≤ px ∧ px ≤ sizes .BOTTOM_END_X ∧
    display_height - sizes .BOTTOM ≤ py ∧ py < display_height)

theorem reserve_ne_nil (e : Edge) (geometry : Rect) (display_width display_height : Int) :
    reserve e geometry display_width display_height ≠ [] := by
  cases e <;> simp [reserve]

/-- `set_struts` reserves an edge under the fallback policy, and under the cut-out policy at every
alignment with both axes set other than the middle of the display. -/
theorem setStruts_ne_nil_iff {enable_runtime_tweaks : Bool} {wm : WindowManager}
    {is_wide_window : Bool} {geometry : Rect} {display_width display_height : Int}
    {align : Alignment} {ws : List (X11Strut × Int)}
    (h : setStruts enable_runtime_tweaks wm is_wide_window geometry display_width display_height align =
      some ws) :
    ws ≠ [] ↔ supportsCutout enable_runtime_tweaks wm = false ∨
      (align.vertical ≠ .NONE ∧ align.horizontal ≠ .NONE ∧ align ≠ ⟨.MIDDLE, .MIDDLE⟩) := by
  unfold setStruts at h
  obtain ⟨v, hz⟩ := align
  split_ifs at h with hc hcode <;> cases h
  -- the cut-out policy: the alignment decides
  iterate 2 cases v <;> cases hz <;>
    simp [reserve_ne_nil, hc, Alignment.code, AxisAlign.code] at hcode ⊢
  -- the fallback policy: an edge of the window's axis, always
  all_goals
    simp only [hc, Bool.not_eq_true, true_or, iff_true]
    split_ifs <;> exact reserve_ne_nil _ _ _ _

/-- Under the fallback policy, when the sum the decision takes fits an `int`, the edge reserved
is the one whose clamped size is the smaller, as written: the choice on the unclamped spaces
agrees with the clamped values emitted. -/
theorem setStruts_fallback_cheaper {enable_runtime_tweaks : Bool} {wm : WindowManager}
    {is_wide_window : Bool} {geometry : Rect} {display_width display_height : Int} {align : Alignment}
    {ws : List (X11Strut × Int)} (hc : supportsCutout enable_runtime_tweaks wm = false)
    (hdw : 0 ≤ display_width) (hdh : 0 ≤ display_height)
    (h : setStruts enable_runtime_tweaks wm is_wide_window geometry display_width display_height align =
      some ws) :
    (geometry.width < geometry.height →
      FitsInt (display_width - geometry.end_x + geometry.width) →
      (X11Strut.LEFT ∈ ws.map Prod.fst →
        clamp geometry.end_x 0 display_width ≤ display_width - clamp geometry.x 0 display_width) ∧
      (X11Strut.RIGHT ∈ ws.map Prod.fst →
        display_width - clamp geometry.x 0 display_width ≤ clamp geometry.end_x 0 display_width)) ∧
    (¬geometry.width < geometry.height →
      FitsInt (display_height - geometry.end_y + geometry.height) →
      (X11Strut.TOP ∈ ws.map Prod.fst →
        clamp geometry.end_y 0 display_height ≤ display_height - clamp geometry.y 0 display_height) ∧
      (X11Strut.BOTTOM ∈ ws.map Prod.fst →
        display_height - clamp geometry.y 0 display_height ≤ clamp geometry.end_y 0 display_height)) := by
  rw [setStruts_fallback hc, Option.some.injEq] at h
  subst h
  -- on the window's axis the sum fits, so the edge is chosen on exact values
  constructor <;> intro hwh hfit <;> simp only [hwh, ↓reduceIte, wrapInt_eq_self hfit] <;>
    simp only [Rect.end_x, Rect.end_y] <;> split_ifs <;>
    simp only [reserve, clamp_eq hdw, clamp_eq hdh, List.map_cons, List.map_nil, List.mem_cons,
      List.not_mem_nil, reduceCtorEq, or_false, false_implies, true_implies, and_true,
      true_and] <;> omega

theorem setStruts_fallback_cheaper_right :
    supportsCutout false .other = false ∧ (0 : Int) ≤ 1920 ∧ (0 : Int) ≤ 1080 ∧
    setStruts false .other false ⟨1800, 100, 100, 500⟩ 1920 1080 .TOP_LEFT =
      some [(.RIGHT, 120), (.RIGHT_START_Y, 100), (.RIGHT_END_Y, 600)] ∧
    ((⟨1800, 100, 100, 500⟩ : Rect).width < (⟨1800, 100, 100, 500⟩ : Rect).height →
      FitsInt (1920 - (⟨1800, 100, 100, 500⟩ : Rect).end_x + (⟨1800, 100, 100, 500⟩ : Rect).width) →
      (X11Strut.LEFT ∈ [(X11Strut.RIGHT, (120 : Int)), (.RIGHT_START_Y, 100), (.RIGHT_END_Y, 600)].map Prod.fst →
        clamp (⟨1800, 100, 100, 500⟩ : Rect).end_x 0 1920 ≤ 1920 - clamp (⟨1800, 100, 100, 500⟩ : Rect).x 0 1920) ∧
      (X11Strut.RIGHT ∈ [(X11Strut.RIGHT, (120 : Int)), (.RIGHT_START_Y, 100), (.RIGHT_END_Y, 600)].map Prod.fst →
        1920 - clamp (⟨1800, 100, 100, 500⟩ : Rect).x 0 1920 ≤ clamp (⟨1800, 100, 100, 500⟩ : Rect).end_x 0 1920)) ∧
    (¬(⟨1800, 100, 100, 500⟩ : Rect).width < (⟨1800, 100, 100, 500⟩ : Rect).height →
      FitsInt (1080 - (⟨1800, 100, 100, 500⟩ : Rect).end_y + (⟨1800, 100, 100, 500⟩ : Rect).height) →
      (X11Strut.TOP ∈ [(X11Strut.RIGHT, (120 : Int)), (.RIGHT_START_Y, 100), (.RIGHT_END_Y, 600)].map Prod.fst →
        clamp (⟨1800, 100, 100, 500⟩ : Rect).end_y 0 1080 ≤ 1080 - clamp (⟨1800, 100, 100, 500⟩ : Rect).y 0 1080) ∧
      (X11Strut.BOTTOM ∈ [(X11Strut.RIGHT, (120 : Int)), (.RIGHT_START_Y, 100), (.RIGHT_END_Y, 600)].map Prod.fst →
        1080 - clamp (⟨1800, 100, 100, 500⟩ : Rect).y 0 1080 ≤ clamp (⟨1800, 100, 100, 500⟩ : Rect).end_y 0 1080)) := by
  have h : setStruts false .other false ⟨1800, 100, 100, 500⟩ 1920 1080 .TOP_LEFT =
      some [(.RIGHT, 120), (.RIGHT_START_Y, 100), (.RIGHT_END_Y, 600)] := by decide
  have hc : supportsCutout false .other = false := rfl
  exact ⟨hc, by decide, by decide, h, setStruts_fallback_cheaper hc (by decide) (by decide) h⟩

/-- A portrait window 2147482658 pixels off the left edge of a 1920 × 1080 display, with its
corners `int`s, under the fallback policy: `display_width - end_x + width` overflows and wraps
below `end_x`, so `set_struts` reserves the whole right edge, although the window lies off the
display and the left edge's clamped size, 0, is the smaller. -/
theorem setStruts_fallback_overflow :
    supportsCutout false .other = false ∧
    (⟨-2147482658, 0, 10, 20⟩ : Rect).width < (⟨-2147482658, 0, 10, 20⟩ : Rect).height ∧
    FitsInt (⟨-2147482658, 0, 10, 20⟩ : Rect).end_x ∧ FitsInt (⟨-2147482658, 0, 10, 20⟩ : Rect).end_y ∧
    ¬FitsInt (1920 - (⟨-2147482658, 0, 10, 20⟩ : Rect).end_x + (⟨-2147482658, 0, 10, 20⟩ : Rect).width) ∧
    setStruts false .other false ⟨-2147482658, 0, 10, 20⟩ 1920 1080 .TOP_LEFT =
      some [(.RIGHT, 1920), (.RIGHT_START_Y, 0), (.RIGHT_END_Y, 20)] ∧
    ¬(1920 - clamp (⟨-2147482658, 0, 10, 20⟩ : Rect).x 0 1920 ≤
      clamp (⟨-2147482658, 0, 10, 20⟩ : Rect).end_x 0 1920) := by
  decide

/-! ### The writes -/

/-- The slots in the order of `x11_strut::value`, their order in the array. -/
def X11Strut.all : List X11Strut :=
  [.LEFT, .RIGHT, .TOP, .BOTTOM, .LEFT_START_Y, .LEFT_END_Y, .RIGHT_START_Y, .RIGHT_END_Y,
    .TOP_START_X, .TOP_END_X, .BOTTOM_START_X, .BOTTOM_END_X]

/-- The bits of a `long` of the array, the `unsigned long` Xlib reads there. -/
def longBits (v : Int) : Nat := (v % 2 ^ 64).toNat

/-- The two `XChangeProperty` requests that end `set_struts`, for the array `sizes`: its first four
slots as `_NET_WM_STRUT`, then all twelve as `_NET_WM_STRUT_PARTIAL` unless that atom is `None`. -/
def strutChanges (atoms : AtomTable) (sizes : X11Strut → Int) : List PropertyChange :=
  let data := X11Strut.all.map fun i => longBits (sizes i)
  ⟨atoms.atom ._NET_WM_STRUT, XA_CARDINAL, 32, .PropModeReplace, data.take 4⟩ ::
    if atoms.atom ._NET_WM_STRUT_PARTIAL = None then []
    else [⟨atoms.atom ._NET_WM_STRUT_PARTIAL, XA_CARDINAL, 32, .PropModeReplace, data⟩]

/-- The requests of `set_struts` on its window: none when `ATOM(_NET_WM_STRUT)` is `None`, which it
checks first, or when it returns at a middle alignment. -/
def setStrutsChanges (atoms : AtomTable) (enable_runtime_tweaks : Bool) (wm : WindowManager)
    (is_wide_window : Bool) (geometry : Rect) (display_width display_height : Int)
    (align : Alignment) : List PropertyChange :=
  if atoms.atom ._NET_WM_STRUT = None then []
  else
    match setStruts enable_runtime_tweaks wm is_wide_window geometry display_width display_height
        align with
    | some ws => strutChanges atoms (strutSizes ws)
    | none => []

theorem longBits_mod {v : Int} (h₀ : 0 ≤ v) (h : v < 2 ^ 32) : ((longBits v % 2 ^ 32 : Nat) : Int) = v := by
  unfold longBits
  omega

/-- A window manager that has interned both strut atoms. -/
def strutAtoms : AtomTable where
  atom
    | ._NET_WM_STRUT => 301
    | ._NET_WM_STRUT_PARTIAL => 302
    | _ => None
  atom_injective := by decide

/-- A display whose root 1 holds conky's window 9. -/
def strutServer : Server :=
  Server.flat 1 [9] strutAtoms (fun _ _ => none) (fun _ => none) (fun _ => (0, 0)) (by decide)

section Writes

variable {srv : Server} {w : Window} (hw : (srv.tree w).isSome)
  (hstrut : srv.atoms.atom ._NET_WM_STRUT ≠ None)
include hw hstrut

theorem strutChanges_property (sizes : X11Strut → Int) :
    ((applyChanges srv w (strutChanges srv.atoms sizes)).property w
        (srv.atoms.atom ._NET_WM_STRUT)).map Property.value =
      some (XA_CARDINAL, 32, (X11Strut.all.take 4).map fun i => longBits (sizes i) % 2 ^ 32) ∧
    (srv.atoms.atom ._NET_WM_STRUT_PARTIAL ≠ None →
      ((applyChanges srv w (strutChanges srv.atoms sizes)).property w
          (srv.atoms.atom ._NET_WM_STRUT_PARTIAL)).map Property.value =
        some (XA_CARDINAL, 32, X11Strut.all.map fun i => longBits (sizes i) % 2 ^ 32)) := by
  have hcard : XA_CARDINAL ≠ None := by decide
  have hne := AtomTable.atom_ne (show AtomName._NET_WM_STRUT ≠ ._NET_WM_STRUT_PARTIAL by decide) hstrut
  refine ⟨?_, fun hstrutPart => ?_⟩
  · rw [applyChanges_property hw]
    unfold strutChanges
    split_ifs <;> simpa [hne.symm, PropertyChange.items, List.map_take] using
      PropertyChange.applyAt_replace hstrut hcard (.inr (.inr rfl)) rfl _
  · rw [applyChanges_property hw]
    unfold strutChanges
    simpa [hstrutPart, hne, PropertyChange.items] using
      PropertyChange.applyAt_replace hstrutPart hcard (.inr (.inr rfl)) rfl _

/-- No slot of the strut array wraps or goes missing on its way to the window manager: after the
requests of `set_struts` on a window, reading `_NET_WM_STRUT`, or `_NET_WM_STRUT_PARTIAL` when that
atom is interned, as `CARDINAL`s gives the slots in array order as `set_struts` assigned them, up to
the length asked for, whatever the window held before. -/
theorem setStrutsChanges_read_back {enable_runtime_tweaks : Bool} {wm : WindowManager}
    {is_wide_window : Bool} {geometry : Rect} {display_width display_height : Int}
    {align : Alignment} {ws : List (X11Strut × Int)} (hdw : 0 ≤ display_width)
    (hdh : 0 ≤ display_height) (hdw32 : display_width < 2 ^ 32) (hdh32 : display_height < 2 ^ 32)
    (h : setStruts enable_runtime_tweaks wm is_wide_window geometry display_width display_height align =
      some ws) (long_length : Nat) :
    (xGetWindowProperty (applyChanges srv w (setStrutsChanges srv.atoms enable_runtime_tweaks wm
        is_wide_window geometry display_width display_height align)) w
        (srv.atoms.atom ._NET_WM_STRUT) long_length XA_CARDINAL).map
        (fun r => (r.actual_type, r.actual_format, r.items.map Int.ofNat)) =
      some (XA_CARDINAL, 32, ((X11Strut.all.take 4).map (strutSizes ws)).take long_length) ∧
    (srv.atoms.atom ._NET_WM_STRUT_PARTIAL ≠ None →
      (xGetWindowProperty (applyChanges srv w (setStrutsChanges srv.atoms enable_runtime_tweaks wm
          is_wide_window geometry display_width display_height align)) w
          (srv.atoms.atom ._NET_WM_STRUT_PARTIAL) long_length XA_CARDINAL).map
          (fun r => (r.actual_type, r.actual_format, r.items.map Int.ofNat)) =
        some (XA_CARDINAL, 32, (X11Strut.all.map (strutSizes ws)).take long_length)) := by
  -- every slot fits a CARDINAL, so the server stores it as assigned
  have hexact : (Int.ofNat ∘ fun i => longBits (strutSizes ws i) % 2 ^ 32) = strutSizes ws := by
    funext i
    obtain ⟨h₀, h₁⟩ := strutSizes_bounded hdw hdh h i
    exact longBits_mod h₀ (by cases i <;> simp only [X11Strut.bound] at h₁ <;> omega)
  have hlength : 4 * long_length / (32 / 8) = long_length := by omega
  have hw' : ((applyChanges srv w (strutChanges srv.atoms (strutSizes ws))).tree w).isSome := by
    rwa [applyChanges_tree]
  obtain ⟨hs, hp⟩ := strutChanges_property hw hstrut (strutSizes ws)
  simp only [setStrutsChanges, if_neg hstrut, h]
  refine ⟨?_, fun hstrutPart => ?_⟩
  · rw [xGetWindowProperty_of_value hw' hstrut hs, Option.map_some', hlength]
    dsimp only
    rw [List.map_take Int.ofNat, List.map_map, hexact]
  · rw [xGetWindowProperty_of_value hw' hstrutPart (hp hstrutPart), Option.map_some', hlength]
    dsimp only
    rw [List.map_take Int.ofNat, List.map_map, hexact]

end Writes

theorem setStrutsChanges_read_back_topLeft :
    (strutServer.tree 9).isSome ∧ strutServer.atoms.atom ._NET_WM_STRUT ≠ None ∧
    (0 : Int) ≤ 1920 ∧ (0 : Int) ≤ 1080 ∧ (1920 : Int) < 2 ^ 32 ∧ (1080 : Int) < 2 ^ 32 ∧
    setStruts true .compiz true ⟨-10, 5, 300, 50⟩ 1920 1080 .TOP_LEFT =
      some [(.TOP, 55), (.TOP_START_X, 0), (.TOP_END_X, 290)] ∧
    (xGetWindowProperty (applyChanges strutServer 9 (setStrutsChanges strutServer.atoms true .compiz
        true ⟨-10, 5, 300, 50⟩ 1920 1080 .TOP_LEFT)) 9 (strutServer.atoms.atom ._NET_WM_STRUT) 12
        XA_CARDINAL).map (fun r => (r.actual_type, r.actual_format, r.items.map Int.ofNat)) =
      some (XA_CARDINAL, 32, ((X11Strut.all.take 4).map
        (strutSizes [(.TOP, 55), (.TOP_START_X, 0), (.TOP_END_X, 290)])).take 12) ∧
    (strutServer.atoms.atom ._NET_WM_STRUT_PARTIAL ≠ None →
      (xGetWindowProperty (applyChanges strutServer 9 (setStrutsChanges strutServer.atoms true
          .compiz true ⟨-10, 5, 300, 50⟩ 1920 1080 .TOP_LEFT)) 9
          (strutServer.atoms.atom ._NET_WM_STRUT_PARTIAL) 12 XA_CARDINAL).map
          (fun r => (r.actual_type, r.actual_format, r.items.map Int.ofNat)) =
        some (XA_CARDINAL, 32, (X11Strut.all.map
          (strutSizes [(.TOP, 55), (.TOP_START_X, 0), (.TOP_END_X, 290)])).take 12)) :=
  ⟨rfl, by decide, by decide, by decide, by decide, by decide, by decide,
    setStrutsChanges_read_back (show (strutServer.tree 9).isSome from rfl) (by decide) (by decide)
      (by decide) (by decide) (by decide) (by decide) 12⟩

end Conky.X11
