import Conky.X11.WindowList
import Conky.X11.Struts

/-!
# Walking the window tree

Three walks of the tree of windows. `find_desktop_window_impl` goes down from a window, at most ten
levels, each time to the first child (in `XQueryTree` order) that is viewable, not
override-redirect and exactly of the size sought, and stops at a window with no such child;
`find_desktop_window` runs it from the root for the display size, then from there for the size of
the workarea `update_x11_workarea` computes. `query_x11_top_parent` goes up from a window, through
the parents `XQueryTree` reports, to the window just below the virtual root.

`find_desktop_window_impl` does not check what `XQueryTree` returns: where the request fails it
reads `n` and `children` unset (first level) or freed (deeper); the model has no result there. On a
window tree, where the start and every listed child whose attributes can be read answer
`XQueryTree`, the search returns the end of such a chain.
`query_x11_top_parent` loops until `XQueryTree` fails or the parent is the virtual root; on a tree
whose windows have a depth it returns after at most `depth + 1` turns, with the ancestor just below
the virtual root for a window below it.

`set_transparent_background` without an ARGB visual climbs from a window for at most 50 turns,
giving each window met `ParentRelative`, until it meets the root window. On a tree whose windows
have a depth it paints the parent chain from the window to the root, the root excluded, each
window once; it does not check what `XQueryTree` returns either, and from a window not below the
root it frees an uninitialised pointer.
-/

namespace Conky.X11

/-! ### Down: the desktop window -/

/-- The inner loop of `find_desktop_window_impl`: the first of `children` whose attributes can be
read and describe a viewable, not override-redirect window of exactly `w × h`; `none` when the
loop runs to `j == n`. -/
def firstDesktopChild (srv : Server) (w h : Int) : List Window → Option Window
  | [] => none
  | c :: children =>
    match srv.attributes c with
    | some attrs =>
      if attrs.map_state = .IsViewable ∧ attrs.override_redirect = false ∧ attrs.width = w ∧
          attrs.height = h then some c
      else firstDesktopChild srv w h children
    | none => firstDesktopChild srv w h children

/-- The outer loop of `find_desktop_window_impl` with `turns` of its ten turns left. `none` where
`XQueryTree` fails: the code then reads `n` and `children` without their having been set. -/
def findDesktopWindowLoop (srv : Server) (w h : Int) : Nat → Window → Option Window
  | 0, win => some win
  | turns + 1, win =>
    match srv.tree win with
    | none => none
    | some (_, children) =>
      match firstDesktopChild srv w h children with
      | some child => findDesktopWindowLoop srv w h turns child
      | none => some win

/-- `find_desktop_window_impl(win, w, h)`. -/
def findDesktopWindowImpl (srv : Server) (win : Window) (w h : Int) : Option Window :=
  findDesktopWindowLoop srv w h 10 win

/-- `XineramaScreenInfo`: the origin and size of a head. -/
structure XineramaScreenInfo where
  x_org : Int
  y_org : Int
  width : Int
  height : Int
  deriving DecidableEq, Repr

/-- What the server answers the requests of `update_x11_workarea`: `XineramaQueryExtension`,
`XineramaIsActive` and `XineramaQueryScreens` (`none` for a `nullptr`). A build without
`BUILD_XINERAMA` behaves as a server without the extension. -/
structure XineramaReplies where
  query_extension : Bool
  is_active : Bool
  screens : Option (List XineramaScreenInfo)
  deriving DecidableEq, Repr

/-- `update_x11_workarea()`: the display, or the head `head_index` when Xinerama is active and the
index is in range. -/
def updateX11Workarea (display_width display_height : Int) (xinerama : XineramaReplies)
    (head_index : Int) : Rect :=
  let workarea : Rect := ⟨0, 0, display_width, display_height⟩
  if !xinerama.query_extension then workarea
  else if !xinerama.is_active then workarea
  else
    match xinerama.screens with
    | none => workarea
    | some si =>
      let i := head_index
      if h : i < 0 ∨ i ≥ si.length then workarea
      else
        let ps := si.get ⟨i.toNat, by omega⟩
        ⟨ps.x_org, ps.y_org, ps.width, ps.height⟩

/-- `find_desktop_window(root)`: the search from the root for the display size, continued for the
size of the workarea. -/
def findDesktopWindow (srv : Server) (display_width display_height : Int)
    (xinerama : XineramaReplies) (head_index : Int) (root : Window) : Option Window :=
  (findDesktopWindowImpl srv root display_width display_height).bind fun desktop =>
    let workarea := updateX11Workarea display_width display_height xinerama head_index
    findDesktopWindowImpl srv desktop workarea.width workarea.height

/-- A child the search may go to, one whose attributes can be read and
that is viewable, not override-redirect and exactly `w × h`. -/
def matchesDesktop (srv : Server) (w h : Int) (c : Window) : Bool :=
  match srv.attributes c with
  | some a =>
    decide (a.map_state = .IsViewable ∧ a.override_redirect = false ∧ a.width = w ∧ a.height = h)
  | none => false

/-- The window `d` is reached from `r` in `k` steps, each to the first child in
`XQueryTree` order that matches. -/
inductive DesktopChain (srv : Server) (w h : Int) : Window → Nat → Window → Prop
  | refl (r : Window) : DesktopChain srv w h r 0 r
  | step {r c d p : Window} {k : Nat} {cs : List Window} : srv.tree r = some (p, cs) →
      cs.find? (matchesDesktop srv w h) = some c → DesktopChain srv w h c k d →
      DesktopChain srv w h r (k + 1) d

/-- The window `d` ends a search from `r` for `w × h`: a chain of at most 10 steps
that, when shorter, stops at a window none of whose children matches. -/
def DesktopSearchResult (srv : Server) (w h : Int) (r d : Window) : Prop :=
  ∃ k ≤ 10, DesktopChain srv w h r k d ∧
    (k < 10 → ∃ p cs, srv.tree d = some (p, cs) ∧ ∀ c ∈ cs, matchesDesktop srv w h c = false)

theorem firstDesktopChild_eq_find (srv : Server) (w h : Int) (children : List Window) :
    firstDesktopChild srv w h children = children.find? (matchesDesktop srv w h) := by
  induction children with
  | nil => rfl
  | cons c children ih =>
    cases ha : srv.attributes c with
    | none => simp [firstDesktopChild, matchesDesktop, ha, ih]
    | some a =>
      simp only [firstDesktopChild, ha, ih, List.find?_cons, matchesDesktop]
      split_ifs with hm <;> simp [hm]

/-- Where every listed child whose attributes can be read answers `XQueryTree`, the search with
`turns` turns left from a window that answers returns the end of a chain of at most `turns` steps,
which stops early only at a window without a matching child. -/
theorem findDesktopWindowLoop_chain {srv : Server} {w h : Int}
    (hwin : ∀ p q cs c, srv.tree p = some (q, cs) → c ∈ cs → (srv.attributes c).isSome →
      (srv.tree c).isSome) :
    ∀ turns r, (srv.tree r).isSome → ∃ d k, findDesktopWindowLoop srv w h turns r = some d ∧
      (srv.tree d).isSome ∧ k ≤ turns ∧ DesktopChain srv w h r k d ∧
      (k < turns → ∃ p cs, srv.tree d = some (p, cs) ∧ ∀ c ∈ cs, matchesDesktop srv w h c = false) := by
  intro turns
  induction turns with
  | zero => exact fun r hr => ⟨r, 0, rfl, hr, le_rfl, .refl r, fun h => absurd h (Nat.lt_irrefl 0)⟩
  | succ turns ih =>
    intro r hr
    obtain ⟨⟨p, cs⟩, htree⟩ := Option.isSome_iff_exists.mp hr
    cases hfind : cs.find? (matchesDesktop srv w h) with
    | none =>
      refine ⟨r, 0, ?_, hr, Nat.zero_le _, .refl r, fun _ => ⟨p, cs, htree, ?_⟩⟩
      · simp [findDesktopWindowLoop, htree, firstDesktopChild_eq_find, hfind]
      · simpa using List.find?_eq_none.mp hfind
    | some c =>
      have hm := List.find?_some hfind
      -- a matching child's attributes can be read
      have hc : (srv.tree c).isSome := hwin r p cs c htree (List.mem_of_find?_eq_some hfind) (by
        cases ha : srv.attributes c with
        | none => simp [matchesDesktop, ha] at hm
        | some a => rfl)
      obtain ⟨d, k, hloop, hd, hk, hchain, hend⟩ := ih c hc
      refine ⟨d, k + 1, ?_, hd, by omega, .step htree hfind hchain, fun hlt => hend (by omega)⟩
      simp [findDesktopWindowLoop, htree, firstDesktopChild_eq_find, hfind, hloop]

/-- On a window tree, `find_desktop_window_impl` from a window returns the end of a search chain,
and `find_desktop_window` the end of a chain for the workarea size continuing one for the display
size from the root. -/
theorem findDesktopWindow_chain {srv : Server}
    (hwin : ∀ p q cs c, srv.tree p = some (q, cs) → c ∈ cs → (srv.attributes c).isSome →
      (srv.tree c).isSome)
    {root : Window} (hroot : (srv.tree root).isSome) (display_width display_height : Int)
    (xinerama : XineramaReplies) (head_index : Int) :
    (∀ r w h, (srv.tree r).isSome →
      ∃ d, findDesktopWindowImpl srv r w h = some d ∧ DesktopSearchResult srv w h r d) ∧
    ∃ desktop d, findDesktopWindow srv display_width display_height xinerama head_index root = some d ∧
      DesktopSearchResult srv display_width display_height root desktop ∧
      DesktopSearchResult srv (updateX11Workarea display_width display_height xinerama head_index).width
        (updateX11Workarea display_width display_height xinerama head_index).height desktop d := by
  have search : ∀ r w h, (srv.tree r).isSome → ∃ d, findDesktopWindowImpl srv r w h = some d ∧
      (srv.tree d).isSome ∧ DesktopSearchResult srv w h r d := fun r w h hr => by
    obtain ⟨d, k, hloop, hd, hk, hchain, hend⟩ := findDesktopWindowLoop_chain hwin 10 r hr
    exact ⟨d, hloop, hd, k, hk, hchain, hend⟩
  refine ⟨fun r w h hr => (search r w h hr).imp fun d hd => ⟨hd.1, hd.2.2⟩, ?_⟩
  obtain ⟨desktop, h₁, hdesktop, hres₁⟩ := search root display_width display_height hroot
  obtain ⟨d, h₂, -, hres₂⟩ := search desktop
    (updateX11Workarea display_width display_height xinerama head_index).width
    (updateX11Workarea display_width display_height xinerama head_index).height hdesktop
  exact ⟨desktop, d, by simp [findDesktopWindow, h₁, h₂], hres₁, hres₂⟩

/-- A root (1) on a 100 × 100 display with a viewable window of the display's size, 5, and an
override-redirect one, 6. -/
def desktopServer100 : Server :=
  Server.flat 1 [6, 5] clientListAtoms (fun _ _ => none)
    (fun w => if w = 5 then some ⟨100, 100, .IsViewable, false⟩
      else if w = 6 then some ⟨100, 100, .IsViewable, true⟩ else none)
    (fun _ => (0, 0)) (by decide)

theorem findDesktopWindow_chain_desktopServer100 :
    (∀ p q cs c, desktopServer100.tree p = some (q, cs) → c ∈ cs →
      (desktopServer100.attributes c).isSome → (desktopServer100.tree c).isSome) ∧
    (desktopServer100.tree 1).isSome ∧
    ((∀ r w h, (desktopServer100.tree r).isSome → ∃ d, findDesktopWindowImpl desktopServer100 r w h = some d ∧
        DesktopSearchResult desktopServer100 w h r d) ∧
      ∃ desktop d, findDesktopWindow desktopServer100 100 100 ⟨false, false, none⟩ 0 1 = some d ∧
        DesktopSearchResult desktopServer100 100 100 1 desktop ∧
        DesktopSearchResult desktopServer100 (updateX11Workarea 100 100 ⟨false, false, none⟩ 0).width
          (updateX11Workarea 100 100 ⟨false, false, none⟩ 0).height desktop d) := by
  have hwin : ∀ p q cs c, desktopServer100.tree p = some (q, cs) → c ∈ cs →
      (desktopServer100.attributes c).isSome → (desktopServer100.tree c).isSome := by
    intro p q cs c htree hc _
    simp only [desktopServer100, Server.flat] at htree
    split_ifs at htree <;> cases htree
    · rcases List.mem_pair.mp hc with rfl | rfl <;> rfl
    · exact absurd hc (List.not_mem_nil c)
  have hroot : (desktopServer100.tree 1).isSome := rfl
  exact ⟨hwin, hroot, findDesktopWindow_chain hwin hroot 100 100 ⟨false, false, none⟩ 0⟩

/-! ### Up: the top-level parent -/

/-- `XQueryTree` reports `p` as the parent of `c`. -/
def ParentOf (srv : Server) (c p : Window) : Prop := ∃ cs, srv.tree c = some (p, cs)

/-- `a` is `c` or one of its ancestors, reached through the parents `XQueryTree` reports. -/
abbrev Climb (srv : Server) (c a : Window) : Prop := Relation.ReflTransGen (ParentOf srv) c a

/-- The loop of `query_x11_top_parent` from `current`, for at most `fuel` turns; `none` when the
fuel runs out. -/
def queryX11TopParentLoop (srv : Server) (root : Window) : Nat → Window → Option Window
  | 0, _ => none
  | fuel + 1, current =>
    match srv.tree current with
    | none => some current
    | some (parent, _) =>
      if parent = root then some current else queryX11TopParentLoop srv root fuel parent

/-- `query_x11_top_parent(display, child)`, its loop given `fuel` turns. -/
def queryX11TopParent (o : Host) (srv : Server) (fuel : Nat) (child : Window) : Option Window :=
  (vRootWindowOfScreen o srv).bind fun root =>
    if child = None ∨ child = root then some child else queryX11TopParentLoop srv root fuel child

theorem parentOf_unique {srv : Server} {c p p' : Window} (h : ParentOf srv c p)
    (h' : ParentOf srv c p') : p = p' := by
  obtain ⟨cs, h⟩ := h
  obtain ⟨cs', h'⟩ := h'
  rw [h] at h'
  exact (Prod.mk.inj (Option.some.inj h')).1

theorem queryX11TopParentLoop_of_parent {srv : Server} {root c p : Window} (h : ParentOf srv c p)
    (fuel : Nat) : queryX11TopParentLoop srv root (fuel + 1) c =
      if p = root then some c else queryX11TopParentLoop srv root fuel p := by
  obtain ⟨cs, h⟩ := h
  simp [queryX11TopParentLoop, h]

theorem climb_total {srv : Server} {x y z : Window} (hxy : Climb srv x y) (hxz : Climb srv x z) :
    Climb srv y z ∨ Climb srv z y := by
  induction hxy using Relation.ReflTransGen.head_induction_on with
  | refl => exact .inl hxz
  | head hxw hwy ih =>
    rcases Relation.ReflTransGen.cases_head hxz with rfl | ⟨v, hxv, hvz⟩
    · exact .inr (.head hxw hwy)
    · exact ih (parentOf_unique hxv hxw ▸ hvz)

section Depth

/- `depth` measures how far a window is from the top of a finite acyclic tree: a parent is less
deep than its child. -/
variable {srv : Server} {depth : Window → Nat}
  (hdepth : ∀ c p cs, srv.tree c = some (p, cs) → depth p < depth c)
include hdepth

theorem depth_le_of_climb {c a : Window} (h : Climb srv c a) : depth a ≤ depth c := by
  induction h with
  | refl => exact le_rfl
  | tail _ hp ih => obtain ⟨cs, hp⟩ := hp; exact (hdepth _ _ _ hp).le.trans ih

theorem queryX11TopParentLoop_returns (root : Window) :
    ∀ fuel fuel' c, depth c < fuel → depth c < fuel' →
      (queryX11TopParentLoop srv root fuel c).isSome ∧
        queryX11TopParentLoop srv root fuel c = queryX11TopParentLoop srv root fuel' c := by
  intro fuel
  induction fuel with
  | zero => exact fun _ _ h => absurd h (Nat.not_lt_zero _)
  | succ fuel ih =>
    intro fuel' c hc hc'
    obtain ⟨fuel', rfl⟩ : ∃ f, fuel' = f + 1 := ⟨fuel' - 1, by omega⟩
    cases htree : srv.tree c with
    | none => simp [queryX11TopParentLoop, htree]
    | some pcs =>
      have hp := hdepth _ _ _ htree
      rw [queryX11TopParentLoop_of_parent ⟨pcs.2, htree⟩, queryX11TopParentLoop_of_parent ⟨pcs.2, htree⟩]
      split_ifs
      · simp
      · exact ih fuel' pcs.1 (by omega) (by omega)

/-- From a window below the virtual root the loop returns the ancestor-or-self whose parent is the
virtual root. -/
theorem queryX11TopParentLoop_below {root c : Window} (h : Climb srv c root) (hc : c ≠ root) :
    ∃ top, (Climb srv c top ∧ ParentOf srv top root) ∧
      ∀ fuel, depth c < fuel → queryX11TopParentLoop srv root fuel c = some top := by
  induction h using Relation.ReflTransGen.head_induction_on with
  | refl => exact absurd rfl hc
  | head hcp hp ih =>
    rename_i c p
    obtain ⟨cs, htree⟩ := hcp
    have hd := hdepth _ _ _ htree
    by_cases hroot : p = root
    · subst hroot
      refine ⟨c, ⟨.refl, cs, htree⟩, fun fuel hfuel => ?_⟩
      obtain ⟨fuel, rfl⟩ : ∃ f, fuel = f + 1 := ⟨fuel - 1, by omega⟩
      rw [queryX11TopParentLoop_of_parent ⟨cs, htree⟩, if_pos rfl]
    · obtain ⟨top, ⟨hpt, htop⟩, hloop⟩ := ih hroot
      refine ⟨top, ⟨.head ⟨cs, htree⟩ hpt, htop⟩, fun fuel hfuel => ?_⟩
      obtain ⟨fuel, rfl⟩ : ∃ f, fuel = f + 1 := ⟨fuel - 1, by omega⟩
      rw [queryX11TopParentLoop_of_parent ⟨cs, htree⟩, if_neg hroot, hloop fuel (by omega)]

theorem climb_top_unique {c root a b : Window} (ha : Climb srv c a) (hap : ParentOf srv a root)
    (hb : Climb srv c b) (hbp : ParentOf srv b root) : a = b := by
  have above : ∀ {x y}, Climb srv x y → ParentOf srv x root → ParentOf srv y root → x = y := by
    intro x y hxy hx hy
    rcases Relation.ReflTransGen.cases_head hxy with rfl | ⟨z, hxz, hzy⟩
    · rfl
    · obtain rfl := parentOf_unique hxz hx
      obtain ⟨cs, hy⟩ := hy
      exact absurd (depth_le_of_climb hdepth hzy) (not_le.mpr (hdepth _ _ _ hy))
  rcases climb_total ha hb with h | h
  · exact above h hap hbp
  · exact (above h hbp hap).symm

end Depth

/-- On a tree whose windows have a depth, `query_x11_top_parent(display, c)` returns after more
turns than `c`'s depth, the same window for any such number; it returns `c` itself when `c` is
`None` or the virtual root `R`, and for a window below `R` the one ancestor-or-self whose parent
is `R`. `XQueryTree` fails on `None`, which is therefore below no window. -/
theorem queryX11TopParent_spec {o : Host} {srv : Server} {R : Window}
    (hR : vRootWindowOfScreen o srv = some R) (hnone : srv.tree None = none) (depth : Window → Nat)
    (hdepth : ∀ c p cs, srv.tree c = some (p, cs) → depth p < depth c) (c : Window) :
    (∃ top, ∀ fuel, depth c < fuel → queryX11TopParent o srv fuel c = some top) ∧
    ((c = None ∨ c = R) → ∀ fuel, queryX11TopParent o srv fuel c = some c) ∧
    (Climb srv c R → c ≠ R → ∃ top, (Climb srv c top ∧ ParentOf srv top R) ∧
      (∀ a, Climb srv c a → ParentOf srv a R → a = top) ∧
      ∀ fuel, depth c < fuel → queryX11TopParent o srv fuel c = some top) := by
  have hcall : ∀ fuel, queryX11TopParent o srv fuel c =
      if c = None ∨ c = R then some c else queryX11TopParentLoop srv R fuel c := by
    simp [queryX11TopParent, hR]
  refine ⟨?_, fun hc fuel => by rw [hcall, if_pos hc], fun hbelow hne => ?_⟩
  · by_cases hc : c = None ∨ c = R
    · exact ⟨c, fun fuel _ => by rw [hcall, if_pos hc]⟩
    · obtain ⟨top, htop⟩ := Option.isSome_iff_exists.mp
        (queryX11TopParentLoop_returns hdepth R (depth c + 1) (depth c + 1) c (by omega) (by omega)).1
      refine ⟨top, fun fuel hfuel => ?_⟩
      rw [hcall, if_neg hc, ← htop,
        (queryX11TopParentLoop_returns hdepth R fuel (depth c + 1) c hfuel (by omega)).2]
  · -- a window below `R` has a parent, so it is not `None`
    have hc : ¬(c = None ∨ c = R) := by
      rintro (rfl | rfl)
      · obtain ⟨p, ⟨cs, htree⟩, -⟩ := hbelow.cases_head.resolve_left hne
        simp [hnone] at htree
      · exact hne rfl
    obtain ⟨top, ⟨hct, htop⟩, hloop⟩ := queryX11TopParentLoop_below hdepth hbelow hne
    exact ⟨top, ⟨hct, htop⟩, fun a hca hap => climb_top_unique hdepth hca hap hct htop,
      fun fuel hfuel => by rw [hcall, if_neg hc, hloop fuel hfuel]⟩

/-- Depths for the windows of `sideBySideServer`: `None` above the root, the root above its two
children. -/
def sideBySideDepth (w : Window) : Nat := if w = 1 then 1 else if w = 5 ∨ w = 6 then 2 else 0

theorem sideBySideServer_depth : ∀ c p cs, sideBySideServer.tree c = some (p, cs) →
    sideBySideDepth p < sideBySideDepth c := by
  intro c p cs h
  simp only [sideBySideServer, Server.flat] at h
  split_ifs at h with h₁ h₂ <;> cases h
  · subst h₁; decide
  · rcases List.mem_pair.mp h₂ with rfl | rfl <;> decide

/-- A root (1) whose one child, 5, holds 7, which holds 8. -/
def chainServer : Server where
  root := 1
  atoms := clientListAtoms
  property _ _ := none
  tree w :=
    if w = 1 then some (None, [5]) else if w = 5 then some (1, [7])
    else if w = 7 then some (5, [8]) else if w = 8 then some (7, []) else none
  attributes _ := none
  origin _ := (0, 0)
  childAt _ _ _ := None
  wmHints _ := false
  weight w := if w = 1 then 3 else if w = 5 then 2 else if w = 7 then 1 else 0
  weight_children w p cs h := by
    dsimp only at h ⊢
    split_ifs at h <;> cases h <;> subst_vars <;> decide

def chainDepth (w : Window) : Nat :=
  if w = 1 then 1 else if w = 5 then 2 else if w = 7 then 3 else if w = 8 then 4 else 0

theorem chainServer_depth : ∀ c p cs, chainServer.tree c = some (p, cs) →
    chainDepth p < chainDepth c := by
  intro c p cs h
  simp only [chainServer] at h
  split_ifs at h <;> cases h <;> subst_vars <;> decide

theorem queryX11TopParent_spec_chain :
    vRootWindowOfScreen .little chainServer = some 1 ∧ chainServer.tree None = none ∧
    (∀ c p cs, chainServer.tree c = some (p, cs) → chainDepth p < chainDepth c) ∧
    ((∃ top, ∀ fuel, chainDepth 8 < fuel → queryX11TopParent .little chainServer fuel 8 = some top) ∧
      ((8 = None ∨ 8 = 1) → ∀ fuel, queryX11TopParent .little chainServer fuel 8 = some 8) ∧
      (Climb chainServer 8 1 → 8 ≠ 1 → ∃ top,
        (Climb chainServer 8 top ∧ ParentOf chainServer top 1) ∧
        (∀ a, Climb chainServer 8 a → ParentOf chainServer a 1 → a = top) ∧
        ∀ fuel, chainDepth 8 < fuel → queryX11TopParent .little chainServer fuel 8 = some top)) ∧
    queryX11TopParent .little chainServer 5 8 = some 5 :=
  ⟨vRootWindowOfScreen_eq_root _ _, rfl, chainServer_depth,
    queryX11TopParent_spec (vRootWindowOfScreen_eq_root _ _) rfl chainDepth chainServer_depth 8,
    by decide⟩

/-! ### Pseudo transparency -/

/-- What `set_transparent_background` asks of the server: `XSetWindowBackground` with the
background colour at `alpha` (`do_set_background`), or `XSetWindowBackgroundPixmap` with
`ParentRelative`. -/
inductive BackgroundRequest where
  | setBackground (w : Window) (alpha : Nat)
  | setParentRelative (w : Window)
  deriving DecidableEq, Repr

/-- The pseudo-transparency loop of `set_transparent_background` from `parent`, with `turns` of
its 50 turns left: the windows it gives `ParentRelative`, in order, until it meets the root window;
`none` where `XQueryTree` fails, after which the loop hands `XFree` the uninitialised
`children`. -/
def parentRelativeLoop (srv : Server) : Nat → Window → Option (List Window)
  | 0, _ => some []
  | turns + 1, parent =>
    if parent = srv.root then some []
    else
      match srv.tree parent with
      | some (grandparent, _) => (parentRelativeLoop srv turns grandparent).map (parent :: ·)
      | none => none

/-- `set_transparent_background(win)` built with ARGB support; `none` where its loop frees an
uninitialised pointer. The alpha reaches `do_set_background` as a `uint8_t`. -/
def setTransparentBackground (srv : Server) (have_argb_visual set_transparent : Bool)
    (own_window_argb_value : Int) (win : Window) : Option (List BackgroundRequest) :=
  if have_argb_visual then
    some [.setBackground win (if set_transparent then 0 else (own_window_argb_value % 256).toNat)]
  else if set_transparent then (parentRelativeLoop srv 50 win).map (·.map .setParentRelative)
  else some [.setBackground win 0]

section ParentRelative

variable {srv : Server} {depth : Window → Nat}
  (hdepth : ∀ c p cs, srv.tree c = some (p, cs) → depth p < depth c)
include hdepth

/-- From a window below the root within reach of its turns, the loop paints the parent chain up
to the root, the root excluded, each window once; the windows it paints are no deeper than the
window it starts from. -/
theorem parentRelativeLoop_chain {win : Window} (hclimb : Climb srv win srv.root) :
    ∀ turns, depth win ≤ depth srv.root + turns → ∃ ws, parentRelativeLoop srv turns win = some ws ∧
      (ws ++ [srv.root]).head? = some win ∧ List.Chain' (ParentOf srv) (ws ++ [srv.root]) ∧
      (ws ++ [srv.root]).Nodup ∧ ∀ x ∈ ws ++ [srv.root], depth x ≤ depth win := by
  have atRoot : ∀ turns, ∃ ws, parentRelativeLoop srv turns srv.root = some ws ∧
      (ws ++ [srv.root]).head? = some srv.root ∧ List.Chain' (ParentOf srv) (ws ++ [srv.root]) ∧
      (ws ++ [srv.root]).Nodup ∧ ∀ x ∈ ws ++ [srv.root], depth x ≤ depth srv.root := fun turns =>
    ⟨[], by cases turns <;> simp [parentRelativeLoop], rfl, List.chain'_singleton _,
      List.nodup_singleton _, by simp⟩
  induction hclimb using Relation.ReflTransGen.head_induction_on with
  | refl => exact fun turns _ => atRoot turns
  | head hwp hpr ih =>
    rename_i w p
    intro turns hturns
    by_cases hw : w = srv.root
    · subst hw
      exact atRoot turns
    obtain ⟨cs, htree⟩ := hwp
    have hp := hdepth _ _ _ htree
    have hroot := depth_le_of_climb hdepth hpr
    obtain ⟨turns, rfl⟩ : ∃ t, turns = t + 1 := ⟨turns - 1, by omega⟩
    obtain ⟨ws, hloop, hhead, hchain, hnodup, hle⟩ := ih turns (by omega)
    refine ⟨w :: ws, by simp [parentRelativeLoop, hw, htree, hloop], rfl, ?_, ?_, ?_⟩
    · -- the painted windows go up one parent at a time
      rw [List.cons_append]
      exact hchain.cons' fun y hy => (Option.some.inj (hy.symm.trans hhead)) ▸ ⟨cs, htree⟩
    · -- every window above `w` on the chain is less deep, so not `w`
      rw [List.cons_append, List.nodup_cons]
      exact ⟨fun hmem => absurd (hle w hmem) (by omega), hnodup⟩
    · intro x hx
      rw [List.cons_append, List.mem_cons] at hx
      rcases hx with rfl | hx
      · exact le_rfl
      · exact (hle x hx).trans hp.le

theorem parentRelativeLoop_of_not_climb :
    ∀ turns win, ¬Climb srv win srv.root → depth win < turns → parentRelativeLoop srv turns win = none := by
  intro turns
  induction turns with
  | zero => exact fun _ _ h => absurd h (Nat.not_lt_zero _)
  | succ turns ih =>
    intro win hnot hlt
    have hw : win ≠ srv.root := fun h => hnot (h ▸ .refl)
    cases htree : srv.tree win with
    | none => simp [parentRelativeLoop, hw, htree]
    | some pcs =>
      have hp := hdepth _ _ _ htree
      have hrest := ih pcs.1 (fun h => hnot (.head ⟨pcs.2, htree⟩ h)) (by omega)
      simp [parentRelativeLoop, hw, htree, hrest]

end ParentRelative

/-- Without an ARGB visual, `set_transparent_background` makes a window pseudo-transparent by
giving `ParentRelative` to it and to each of its ancestors below the root window, nearest first,
each once and never the root itself, when the root lies above it within the loop's 50 turns. When
the root does not lie above it and its climb ends within them, `XQueryTree` fails on the top
window and the loop frees an uninitialised pointer. -/
theorem setTransparentBackground_pseudo {srv : Server} {depth : Window → Nat}
    (hdepth : ∀ c p cs, srv.tree c = some (p, cs) → depth p < depth c)
    (own_window_argb_value : Int) (win : Window) :
    (Climb srv win srv.root → depth win ≤ depth srv.root + 50 → ∃ ws,
      setTransparentBackground srv false true own_window_argb_value win =
        some (ws.map .setParentRelative) ∧
      (ws ++ [srv.root]).head? = some win ∧ List.Chain' (ParentOf srv) (ws ++ [srv.root]) ∧
      (ws ++ [srv.root]).Nodup) ∧
    (¬Climb srv win srv.root → depth win < 50 →
      setTransparentBackground srv false true own_window_argb_value win = none) := by
  refine ⟨fun hclimb hturns => ?_, fun hnot hlt => ?_⟩
  · obtain ⟨ws, hloop, hhead, hchain, hnodup, -⟩ := parentRelativeLoop_chain hdepth hclimb 50 hturns
    exact ⟨ws, by simp [setTransparentBackground, hloop], hhead, hchain, hnodup⟩
  · simp [setTransparentBackground, parentRelativeLoop_of_not_climb hdepth 50 win hnot hlt]

theorem setTransparentBackground_pseudo_sideBySide :
    (∀ c p cs, sideBySideServer.tree c = some (p, cs) → sideBySideDepth p < sideBySideDepth c) ∧
    Climb sideBySideServer 5 sideBySideServer.root ∧
    sideBySideDepth 5 ≤ sideBySideDepth sideBySideServer.root + 50 ∧
    ((Climb sideBySideServer 5 sideBySideServer.root →
        sideBySideDepth 5 ≤ sideBySideDepth sideBySideServer.root + 50 → ∃ ws,
        setTransparentBackground sideBySideServer false true 255 5 = some (ws.map .setParentRelative) ∧
        (ws ++ [sideBySideServer.root]).head? = some 5 ∧
        List.Chain' (ParentOf sideBySideServer) (ws ++ [sideBySideServer.root]) ∧
        (ws ++ [sideBySideServer.root]).Nodup) ∧
      (¬Climb sideBySideServer 5 sideBySideServer.root → sideBySideDepth 5 < 50 →
        setTransparentBackground sideBySideServer false true 255 5 = none)) :=
  ⟨sideBySideServer_depth, .single ⟨[], rfl⟩, by decide,
    setTransparentBackground_pseudo sideBySideServer_depth 255 5⟩

end Conky.X11
