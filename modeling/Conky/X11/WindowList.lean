import Conky.X11.Server

/-!
# Enumerating the windows under the pointer

`x11_atom_window_list` reads a window list property of the root, `VRootWindowOfScreen` picks the
virtual root of the current desktop from `_NET_VIRTUAL_ROOTS`, `query_x11_windows` enumerates the
managed windows (the stacking client list, then the client list, then, when eager, every window
with WM hints below the virtual root) and `query_x11_windows_at_pos` keeps those whose rectangle
holds a point.

`x11_atom_window_list` accepts a reply only when its `actual_format` equals `XA_WINDOW`, the
atom 33, where the format of a window list is 32: no reply has that format, so the function
returns the empty list for every property. Everything above it
follows: the virtual root is always the root and the client lists are never read.
-/

namespace Conky.X11

/-- `x11_atom_window_list`: the windows listed in the property `atom` of `window`. -/
def x11AtomWindowList (srv : Server) (window : Window) (atom : Atom) : List Window :=
  match xGetWindowProperty srv window atom longLengthAll XA_WINDOW with
  | some r => if r.actual_format = XA_WINDOW ∧ 0 < r.nitems then r.items.map xlibLong else []
  | none => []

/-- The format check compares the format with an atom, so no list is ever returned. -/
theorem x11AtomWindowList_eq_nil (srv : Server) (window : Window) (atom : Atom) :
    x11AtomWindowList srv window atom = [] := by
  unfold x11AtomWindowList
  split
  · rename_i r hr
    have hfmt : r.actual_format ≠ XA_WINDOW := by
      rcases xGetWindowProperty_format hr with h | h | h | h <;> simp [h, XA_WINDOW]
    simp [hfmt]
  · rfl

/-- `VRootWindowOfScreen`: the entry of `_NET_VIRTUAL_ROOTS` at the current desktop, or the root.
`*cardinal` is read without checking the reply, so the result is `none` where that read goes
through a `NULL` or uninitialised pointer or past the buffer. -/
def vRootWindowOfScreen (o : Host) (srv : Server) : Option Window :=
  let root := srv.root
  let netVirtualRoots := srv.atoms.atom ._NET_VIRTUAL_ROOTS
  if netVirtualRoots = None then some root else
  let vroots := x11AtomWindowList srv root netVirtualRoots
  if vroots = [] then some root else
  let netCurrentDesktop := srv.atoms.atom ._NET_CURRENT_DESKTOP
  if netCurrentDesktop = None then some root else
  let cardinal := (xGetWindowProperty srv root netCurrentDesktop 1 XA_CARDINAL).bind (·.prop o)
  (readInt o cardinal).map fun c =>
    -- `vroots.size() > *cardinal` converts the `int` to `size_t`
    let i := (c % 2 ^ 64).toNat
    if h : i < vroots.length then vroots.get ⟨i, h⟩ else root

theorem vRootWindowOfScreen_eq_root (o : Host) (srv : Server) :
    vRootWindowOfScreen o srv = some srv.root := by
  simp [vRootWindowOfScreen, x11AtomWindowList_eq_nil]

/-- The atoms of a window manager that publishes client lists and virtual roots. -/
def clientListAtoms : AtomTable where
  atom
    | ._NET_VIRTUAL_ROOTS => 301
    | ._NET_CURRENT_DESKTOP => 302
    | ._NET_CLIENT_LIST_STACKING => 305
    | ._NET_CLIENT_LIST => 306
    | _ => None
  atom_injective := by decide

/-- A root (window 1) whose `_NET_VIRTUAL_ROOTS` lists windows 7 and 8 and whose current desktop
is the second one. -/
def virtualRootServer : Server :=
  Server.flat 1 [7, 8] clientListAtoms
    (fun w a => if w ≠ 1 then none
      else if a = 301 then some ⟨XA_WINDOW, 32, [7, 8], by decide, by decide⟩
      else if a = 302 then some ⟨XA_CARDINAL, 32, [1], by decide, by decide⟩ else none)
    (fun _ => none) (fun _ => (0, 0)) (by decide)

/-- Both properties are well formed and the desktop index is in range, yet the root comes back. -/
theorem vRootWindowOfScreen_virtualRootServer :
    xGetWindowProperty virtualRootServer 1 301 longLengthAll XA_WINDOW = some ⟨XA_WINDOW, 32, [7, 8]⟩ ∧
    xGetWindowProperty virtualRootServer 1 302 1 XA_CARDINAL = some ⟨XA_CARDINAL, 32, [1]⟩ ∧
    ∀ o, vRootWindowOfScreen o virtualRootServer = some 1 :=
  ⟨by decide, by decide, fun o => vRootWindowOfScreen_eq_root o _⟩

/-- The eager loop of `query_x11_windows`. `queue` is the vector read from its back: a window's
children are pushed in order, so the top-most child is visited next. -/
def queryX11WindowsEager (srv : Server) (queue result : List Window) : List Window :=
  match queue with
  | [] => result
  | current :: rest =>
    match _htree : srv.tree current with
    | some (_, children) =>
      queryX11WindowsEager srv (children.reverse ++ rest)
        (if srv.wmHints current then result ++ [current] else result)
    | none => queryX11WindowsEager srv rest result
termination_by (queue.map fun w => srv.weight w + 1).sum
decreasing_by
  · have := srv.weight_children _ _ _ _htree
    simp only [List.map_append, List.map_reverse, List.sum_append, List.sum_reverse,
      List.map_cons, List.sum_cons]
    omega
  · simp only [List.map_cons, List.sum_cons]
    omega

@[simp]
theorem queryX11WindowsEager_nil (srv : Server) (result : List Window) :
    queryX11WindowsEager srv [] result = result := by
  rw [queryX11WindowsEager]

theorem queryX11WindowsEager_cons_of_tree {srv : Server} {current parent : Window}
    {children : List Window} (htree : srv.tree current = some (parent, children))
    (rest result : List Window) :
    queryX11WindowsEager srv (current :: rest) result =
      queryX11WindowsEager srv (children.reverse ++ rest)
        (if srv.wmHints current then result ++ [current] else result) := by
  rw [queryX11WindowsEager]
  split <;> simp_all

theorem queryX11WindowsEager_cons_of_tree_none {srv : Server} {current : Window}
    (htree : srv.tree current = none) (rest result : List Window) :
    queryX11WindowsEager srv (current :: rest) result = queryX11WindowsEager srv rest result := by
  rw [queryX11WindowsEager]
  split <;> simp_all

theorem queryX11WindowsEager_no_hints {srv : Server} (hints : ∀ w, srv.wmHints w = false)
    (queue result : List Window) : queryX11WindowsEager srv queue result = result := by
  induction queue, result using queryX11WindowsEager.induct srv with
  | case1 result => exact queryX11WindowsEager_nil srv result
  | case2 result current rest _ _ htree ih =>
    simpa [queryX11WindowsEager_cons_of_tree htree, hints] using ih
  | case3 result current rest htree ih =>
    rwa [queryX11WindowsEager_cons_of_tree_none htree]

/-- `XQueryTree` lists `c` among the children of `p`. -/
def ChildOf (srv : Server) (p c : Window) : Prop := ∃ q cs, srv.tree p = some (q, cs) ∧ c ∈ cs

/-- A window tree proper: `XQueryTree` lists a window at most once, under at most one parent. -/
structure Server.TreeShaped (srv : Server) : Prop where
  children_nodup : ∀ w p cs, srv.tree w = some (p, cs) → cs.Nodup
  parent_unique : ∀ p₁ p₂ c, ChildOf srv p₁ c → ChildOf srv p₂ c → p₁ = p₂

/-- The windows below `r`, reached through windows whose `XQueryTree` succeeds. -/
abbrev Below (srv : Server) (r w : Window) : Prop := Relation.ReflTransGen (ChildOf srv) r w

theorem weight_lt_of_childOf {srv : Server} {p c : Window} (h : ChildOf srv p c) :
    srv.weight c < srv.weight p := by
  obtain ⟨q, cs, htree, hc⟩ := h
  have hle : ∀ l : List Window, c ∈ l → srv.weight c + 1 ≤ (l.map fun c => srv.weight c + 1).sum := by
    intro l hl
    induction l with
    | nil => cases hl
    | cons a l ih =>
      rw [List.map_cons, List.sum_cons]
      rcases List.mem_cons.mp hl with rfl | hl
      · omega
      · have := ih hl
        omega
  have := srv.weight_children _ _ _ htree
  have := hle cs hc
  omega

theorem weight_le_of_below {srv : Server} {r w : Window} (h : Below srv r w) :
    srv.weight w ≤ srv.weight r := by
  induction h with
  | refl => exact le_rfl
  | tail _ hc ih => exact (weight_lt_of_childOf hc).le.trans ih

theorem not_below_child {srv : Server} {p c : Window} (hc : ChildOf srv p c) : ¬Below srv c p :=
  fun h => absurd (weight_le_of_below h) (not_le.mpr (weight_lt_of_childOf hc))

section TreeShaped

variable {srv : Server} (hshape : srv.TreeShaped)
include hshape

theorem below_total {a b w : Window} (ha : Below srv a w) (hb : Below srv b w) :
    Below srv a b ∨ Below srv b a := by
  induction ha with
  | refl => exact .inr hb
  | @tail p c hap hpc ih =>
    rcases Relation.ReflTransGen.cases_tail hb with rfl | ⟨d, hbd, hdc⟩
    · exact .inl (hap.tail hpc)
    · exact ih (hshape.parent_unique _ _ _ hdc hpc ▸ hbd)

theorem not_below_siblings {p q : Window} {cs : List Window} (htree : srv.tree p = some (q, cs))
    {c₁ c₂ w : Window} (h₁ : c₁ ∈ cs) (h₂ : c₂ ∈ cs) (hne : c₁ ≠ c₂) (hw₁ : Below srv c₁ w)
    (hw₂ : Below srv c₂ w) : False := by
  have sibling : ∀ {a b}, a ∈ cs → b ∈ cs → a ≠ b → ¬Below srv a b := fun ha _ hab h => by
    rcases Relation.ReflTransGen.cases_tail h with rfl | ⟨d, had, hdb⟩
    · exact hab rfl
    · have hd : d = p := hshape.parent_unique _ _ _ hdb ⟨q, cs, htree, ‹_›⟩
      exact not_below_child ⟨q, cs, htree, ha⟩ (hd ▸ had)
  rcases below_total hshape hw₁ hw₂ with h | h
  · exact sibling h₁ h₂ hne h
  · exact sibling h₂ h₁ hne.symm h

end TreeShaped

/-- The windows with WM hints in the tree below `w`, in the order the eager loop lists them: `w`
first, then those below each child, the top-most child first. -/
def hintedBelow (srv : Server) (w : Window) : List Window :=
  match _htree : srv.tree w with
  | some (_, children) =>
    (if srv.wmHints w then [w] else []) ++
      children.reverse.attach.flatMap fun c => hintedBelow srv c.1
  | none => []
termination_by srv.weight w
decreasing_by exact weight_lt_of_childOf ⟨_, _, _htree, List.mem_reverse.mp c.2⟩

theorem hintedBelow_of_tree {srv : Server} {w p : Window} {cs : List Window}
    (htree : srv.tree w = some (p, cs)) :
    hintedBelow srv w = (if srv.wmHints w then [w] else []) ++ cs.reverse.flatMap (hintedBelow srv) := by
  rw [hintedBelow]
  split
  · rename_i htree'
    obtain ⟨-, rfl⟩ := Prod.mk.inj (Option.some.inj (htree'.symm.trans htree))
    simp only [List.flatMap, List.attach_map_val]
  · simp_all

theorem hintedBelow_of_tree_none {srv : Server} {w : Window} (htree : srv.tree w = none) :
    hintedBelow srv w = [] := by
  rw [hintedBelow]
  split <;> simp_all

theorem mem_hinted_self {srv : Server} {r w : Window} :
    w ∈ (if srv.wmHints r then [r] else []) ↔ w = r ∧ srv.wmHints r := by
  split_ifs with h <;> simp [h]

/-- The eager loop lists, after what it has, the hinted windows below each queued window, the
last queued first. -/
theorem queryX11WindowsEager_eq (srv : Server) (queue result : List Window) :
    queryX11WindowsEager srv queue result = result ++ queue.flatMap (hintedBelow srv) := by
  induction queue, result using queryX11WindowsEager.induct srv with
  | case1 result => simp
  | case2 result current rest _ _ htree ih =>
    rw [dite_eq_ite] at ih
    rw [queryX11WindowsEager_cons_of_tree htree, ih, List.flatMap_cons, hintedBelow_of_tree htree]
    split_ifs <;> simp
  | case3 result current rest htree ih =>
    rw [queryX11WindowsEager_cons_of_tree_none htree, ih, List.flatMap_cons,
      hintedBelow_of_tree_none htree, List.nil_append]

theorem mem_hintedBelow {srv : Server} {w : Window} :
    ∀ r, w ∈ hintedBelow srv r ↔ Below srv r w ∧ (srv.tree w).isSome ∧ srv.wmHints w := by
  intro r
  induction r using (measure srv.weight).wf.induction with
  | h r ih =>
    cases htree : srv.tree r with
    | none =>
      rw [hintedBelow_of_tree_none htree]
      refine ⟨fun h => absurd h (List.not_mem_nil w), fun ⟨hbelow, hw, _⟩ => ?_⟩
      rcases Relation.ReflTransGen.cases_head hbelow with rfl | ⟨c, ⟨q, cs, hrc, _⟩, _⟩
      · simp [htree] at hw
      · simp [htree] at hrc
    | some pcs =>
      obtain ⟨p, cs⟩ := pcs
      have hchild : ∀ c ∈ cs, ChildOf srv r c := fun c hc => ⟨p, cs, htree, hc⟩
      rw [hintedBelow_of_tree htree, Below, Relation.ReflTransGen.cases_head_iff]
      simp only [List.mem_append, List.mem_flatMap, List.mem_reverse]
      constructor
      · rintro (hw | ⟨c, hc, hw⟩)
        · obtain ⟨rfl, hh⟩ := mem_hinted_self.mp hw
          exact ⟨.inl rfl, by simp [htree], hh⟩
        · obtain ⟨hbelow, hw⟩ := (ih c (weight_lt_of_childOf (hchild c hc))).mp hw
          exact ⟨.inr ⟨c, hchild c hc, hbelow⟩, hw⟩
      · rintro ⟨rfl | ⟨c, ⟨q', cs', hrc, hc⟩, hbelow⟩, hw, hh⟩
        · exact .inl (mem_hinted_self.mpr ⟨rfl, hh⟩)
        · rw [htree, Option.some.injEq, Prod.mk.injEq] at hrc
          obtain ⟨rfl, rfl⟩ := hrc
          exact .inr ⟨c, hc, (ih c (weight_lt_of_childOf (hchild c hc))).mpr ⟨hbelow, hw, hh⟩⟩

theorem nodup_hintedBelow {srv : Server} (hshape : srv.TreeShaped) :
    ∀ r, (hintedBelow srv r).Nodup := by
  intro r
  induction r using (measure srv.weight).wf.induction with
  | h r ih =>
    cases htree : srv.tree r with
    | none => simp [hintedBelow_of_tree_none htree]
    | some pcs =>
      obtain ⟨p, cs⟩ := pcs
      have hchild : ∀ c ∈ cs, ChildOf srv r c := fun c hc => ⟨p, cs, htree, hc⟩
      rw [hintedBelow_of_tree htree, List.nodup_append, List.nodup_flatMap]
      refine ⟨by split_ifs <;> simp, ⟨fun c hc => ih c (weight_lt_of_childOf
        (hchild c (List.mem_reverse.mp hc))), ?_⟩, ?_⟩
      · refine (List.nodup_reverse.mpr (hshape.children_nodup _ _ _ htree)).pairwise_of_forall_ne
          fun c₁ h₁ c₂ h₂ hne => List.disjoint_left.mpr fun w hw₁ hw₂ => ?_
        rw [List.mem_reverse] at h₁ h₂
        exact not_below_siblings hshape htree h₁ h₂ hne ((mem_hintedBelow _).mp hw₁).1
          ((mem_hintedBelow _).mp hw₂).1
      · refine List.disjoint_left.mpr fun w hw hw' => ?_
        obtain ⟨rfl, -⟩ := mem_hinted_self.mp hw
        obtain ⟨c, hc, hwc⟩ := List.mem_flatMap.mp hw'
        exact not_below_child (hchild c (List.mem_reverse.mp hc)) ((mem_hintedBelow _).mp hwc).1

/-- In a window tree, the eager loop from a virtual root lists every window below it that answers
`XQueryTree` and has WM hints, and each once. -/
theorem queryX11WindowsEager_tree {srv : Server} (hshape : srv.TreeShaped) (vroot : Window) :
    (queryX11WindowsEager srv [vroot] []).Nodup ∧
      ∀ w, w ∈ queryX11WindowsEager srv [vroot] [] ↔
        Below srv vroot w ∧ (srv.tree w).isSome ∧ srv.wmHints w := by
  simp only [queryX11WindowsEager_eq, List.nil_append, List.flatMap_cons, List.flatMap_nil,
    List.append_nil]
  exact ⟨nodup_hintedBelow hshape vroot, fun w => mem_hintedBelow vroot⟩

theorem treeShaped_of_flat {srv : Server} {root : Window} {children : List Window}
    (htree : ∀ w, srv.tree w =
      if w = root then some (None, children) else if w ∈ children then some (root, []) else none)
    (hnodup : children.Nodup) : srv.TreeShaped := by
  have hchild : ∀ p c, ChildOf srv p c → p = root := by
    rintro p c ⟨q, cs, h, hc⟩
    rw [htree] at h
    split_ifs at h with h₁ <;> cases h
    · exact h₁
    · exact absurd hc (List.not_mem_nil c)
  refine ⟨fun w p cs h => ?_, fun p₁ p₂ c h₁ h₂ => (hchild _ _ h₁).trans (hchild _ _ h₂).symm⟩
  rw [htree] at h
  split_ifs at h <;> cases h
  · exact hnodup
  · exact List.nodup_nil

/-- Two 100 × 100 top-level windows with WM hints side by side: window 5 at x = 0 and window 6 at
x = 100. -/
def sideBySideServer : Server :=
  { Server.flat 1 [5, 6] clientListAtoms (fun _ _ => none)
      (fun w => if w = 5 ∨ w = 6 then some ⟨100, 100, .IsViewable, false⟩ else none)
      (fun w => if w = 6 then (100, 0) else (0, 0)) (by decide) with
    wmHints := fun w => w == 5 || w == 6 }

theorem sideBySideServer_treeShaped : sideBySideServer.TreeShaped :=
  treeShaped_of_flat (fun _ => rfl) (by decide)

theorem queryX11WindowsEager_sideBySide :
    sideBySideServer.TreeShaped ∧ ((queryX11WindowsEager sideBySideServer [1] []).Nodup ∧
      ∀ w, w ∈ queryX11WindowsEager sideBySideServer [1] [] ↔
        Below sideBySideServer 1 w ∧ (sideBySideServer.tree w).isSome ∧ sideBySideServer.wmHints w) :=
  ⟨sideBySideServer_treeShaped, queryX11WindowsEager_tree sideBySideServer_treeShaped 1⟩

theorem queryX11WindowsEager_sideBySideServer : queryX11WindowsEager sideBySideServer [1] [] = [6, 5] := by
  have h₁ : sideBySideServer.tree 1 = some (None, [5, 6]) := rfl
  have h₅ : sideBySideServer.tree 5 = some (1, []) := rfl
  have h₆ : sideBySideServer.tree 6 = some (1, []) := rfl
  simp only [queryX11WindowsEager_eq, hintedBelow_of_tree h₁, hintedBelow_of_tree h₅,
    hintedBelow_of_tree h₆, List.flatMap_cons, List.flatMap_nil, List.reverse_cons, List.reverse_nil,
    List.nil_append, List.singleton_append, List.cons_append, List.append_nil]
  decide

/-- `query_x11_windows`: the stacking client list, else the client list, else (when `eager`) the
windows with WM hints below the virtual root. -/
def queryX11Windows (o : Host) (srv : Server) (eager : Bool) : Option (List Window) :=
  let root := srv.root
  let stacking := srv.atoms.atom ._NET_CLIENT_LIST_STACKING
  let result := if stacking ≠ None then x11AtomWindowList srv root stacking else []
  if result ≠ [] then some result else
  let clients := srv.atoms.atom ._NET_CLIENT_LIST
  let result := if clients ≠ None then x11AtomWindowList srv root clients else result
  if result ≠ [] then some result else
  if eager then (vRootWindowOfScreen o srv).map fun vroot => queryX11WindowsEager srv [vroot] result
  else some result

/-- Only the eager traversal from the root can list a window. -/
theorem queryX11Windows_eq (o : Host) (srv : Server) (eager : Bool) :
    queryX11Windows o srv eager =
      some (if eager then queryX11WindowsEager srv [srv.root] [] else []) := by
  cases eager <;> simp [queryX11Windows, x11AtomWindowList_eq_nil, vRootWindowOfScreen_eq_root]

/-- A root whose `_NET_CLIENT_LIST_STACKING` lists its one child, window 5. -/
def stackingServer : Server :=
  Server.flat 1 [5] clientListAtoms
    (fun w a => if w = 1 ∧ a = 305 then some ⟨XA_WINDOW, 32, [5], by decide, by decide⟩ else none)
    (fun _ => none) (fun _ => (0, 0)) (by decide)

/-- The stacking list is a well-formed list of one window, yet no enumeration returns it. -/
theorem queryX11Windows_stackingServer :
    xGetWindowProperty stackingServer 1 305 longLengthAll XA_WINDOW = some ⟨XA_WINDOW, 32, [5]⟩ ∧
    x11AtomWindowList stackingServer 1 305 = [] ∧
    ∀ o eager, queryX11Windows o stackingServer eager = some [] := by
  refine ⟨by decide, x11AtomWindowList_eq_nil _ _ _, fun o eager => ?_⟩
  rw [queryX11Windows_eq, queryX11WindowsEager_no_hints fun _ => rfl]
  cases eager <;> rfl

/-- The loop of `query_x11_windows_at_pos`. `attr` is declared before the loop, so a window whose
attributes cannot be read is judged on the last ones read. -/
def queryX11WindowsAtPosLoop (srv : Server) (root : Window) (pos : Int × Int)
    (predicate : WindowAttributes → Bool) : WindowAttributes → List Window → List Window
  | _, [] => []
  | attr, current :: windows =>
    let (pos_x, pos_y, _) := xTranslateCoordinates srv current root 0 0
    let attr := (srv.attributes current).getD attr
    if pos_x ≤ pos.1 ∧ pos_y ≤ pos.2 ∧ pos_x + attr.width ≥ pos.1 ∧ pos_y + attr.height ≥ pos.2 ∧
        predicate attr then
      current :: queryX11WindowsAtPosLoop srv root pos predicate attr windows
    else queryX11WindowsAtPosLoop srv root pos predicate attr windows

/-- `query_x11_windows_at_pos(display, pos, predicate, eager)`; `attr` stands for the contents of
the uninitialised `XWindowAttributes` before the first read. -/
def queryX11WindowsAtPos (o : Host) (srv : Server) (pos : Int × Int)
    (predicate : WindowAttributes → Bool) (eager : Bool) (attr : WindowAttributes) :
    Option (List Window) :=
  (vRootWindowOfScreen o srv).bind fun root =>
    (queryX11Windows o srv eager).map (queryX11WindowsAtPosLoop srv root pos predicate attr)

theorem queryX11WindowsAtPos_not_eager (o : Host) (srv : Server) (pos : Int × Int)
    (predicate : WindowAttributes → Bool) (attr : WindowAttributes) :
    queryX11WindowsAtPos o srv pos predicate false attr = some [] := by
  simp [queryX11WindowsAtPos, vRootWindowOfScreen_eq_root, queryX11Windows_eq,
    queryX11WindowsAtPosLoop]

/-- The test `query_x11_windows_at_pos` makes of a window whose attributes can be read: the point
lies in its closed rectangle `[x, x+width] × [y, y+height]`, at its position relative to `root`,
and its attributes satisfy `predicate`. -/
def hitsClosedRect (srv : Server) (root : Window) (pos : Int × Int)
    (predicate : WindowAttributes → Bool) (w : Window) : Bool :=
  match srv.attributes w with
  | some a =>
    let x := (srv.origin w).1 - (srv.origin root).1
    let y := (srv.origin w).2 - (srv.origin root).2
    decide (x ≤ pos.1 ∧ pos.1 ≤ x + a.width ∧ y ≤ pos.2 ∧ pos.2 ≤ y + a.height) && predicate a
  | none => false

theorem queryX11WindowsAtPosLoop_eq_filter {srv : Server} {root : Window} {pos : Int × Int}
    {predicate : WindowAttributes → Bool} {windows : List Window}
    (hattr : ∀ w ∈ windows, (srv.attributes w).isSome) (attr : WindowAttributes) :
    queryX11WindowsAtPosLoop srv root pos predicate attr windows =
      windows.filter (hitsClosedRect srv root pos predicate) := by
  induction windows generalizing attr with
  | nil => rfl
  | cons w windows ih =>
    obtain ⟨a, ha⟩ := Option.isSome_iff_exists.mp (hattr w (List.mem_cons_self w windows))
    have ih := ih (fun v hv => hattr v (List.mem_cons_of_mem w hv)) a
    simp only [queryX11WindowsAtPosLoop, xTranslateCoordinates, ha, Option.getD_some, ih,
      List.filter_cons, hitsClosedRect, zero_add, ge_iff_le, Bool.and_eq_true, decide_eq_true_eq]
    -- the loop tests the four bounds in another order
    exact if_congr ⟨fun ⟨h₁, h₂, h₃, h₄, hp⟩ => ⟨⟨h₁, h₃, h₂, h₄⟩, hp⟩,
      fun ⟨⟨h₁, h₃, h₂, h₄⟩, hp⟩ => ⟨h₁, h₂, h₃, h₄, hp⟩⟩ rfl rfl

/-- The whole hit test with the eager traversal: the hinted windows below the root, in
depth-first order, that pass the closed-rectangle test, where their attributes can be read. -/
theorem queryX11WindowsAtPos_eager (o : Host) (srv : Server) (pos : Int × Int)
    (predicate : WindowAttributes → Bool) (attr : WindowAttributes)
    (hattr : ∀ w ∈ hintedBelow srv srv.root, (srv.attributes w).isSome) :
    queryX11WindowsAtPos o srv pos predicate true attr =
      some ((hintedBelow srv srv.root).filter (hitsClosedRect srv srv.root pos predicate)) := by
  have henum : queryX11WindowsEager srv [srv.root] [] = hintedBelow srv srv.root := by
    simp [queryX11WindowsEager_eq]
  simp only [queryX11WindowsAtPos, vRootWindowOfScreen_eq_root, queryX11Windows_eq, if_true, henum,
    Option.some_bind, Option.map_some', queryX11WindowsAtPosLoop_eq_filter hattr attr]

theorem queryX11WindowsAtPos_eager_sideBySide :
    (∀ w ∈ hintedBelow sideBySideServer sideBySideServer.root,
      (sideBySideServer.attributes w).isSome) ∧
    queryX11WindowsAtPos .little sideBySideServer (50, 50) (fun _ => true) true
        ⟨0, 0, .IsViewable, false⟩ =
      some ((hintedBelow sideBySideServer sideBySideServer.root).filter
        (hitsClosedRect sideBySideServer sideBySideServer.root (50, 50) fun _ => true)) := by
  have hlist : hintedBelow sideBySideServer sideBySideServer.root = [6, 5] := by
    simpa [queryX11WindowsEager_eq] using queryX11WindowsEager_sideBySideServer
  have hattr : ∀ w ∈ hintedBelow sideBySideServer sideBySideServer.root,
      (sideBySideServer.attributes w).isSome := by
    rw [hlist]
    decide
  exact ⟨hattr, queryX11WindowsAtPos_eager .little sideBySideServer (50, 50) (fun _ => true) _ hattr⟩

/-- The enumerated windows whose attributes satisfy `predicate` and whose
area `[ox, ox+width) × [oy, oy+height)`, at their absolute origin, holds `pos`. -/
def windowsAtPosSpec (srv : Server) (pos : Int × Int) (predicate : WindowAttributes → Bool)
    (windows : List Window) : List Window :=
  windows.filter fun w =>
    match srv.attributes w with
    | some a =>
      decide ((srv.origin w).1 ≤ pos.1 ∧ pos.1 < (srv.origin w).1 + a.width ∧
        (srv.origin w).2 ≤ pos.2 ∧ pos.2 < (srv.origin w).2 + a.height) && predicate a
    | none => false

/-- The point (100, 50) on the edge between the two windows is attributed to both, where only the
right one's area holds it. -/
theorem queryX11WindowsAtPos_edge (attr : WindowAttributes) :
    queryX11Windows .little sideBySideServer true = some [6, 5] ∧
      queryX11WindowsAtPos .little sideBySideServer (100, 50) (fun _ => true) true attr = some [6, 5] ∧
      windowsAtPosSpec sideBySideServer (100, 50) (fun _ => true) [6, 5] = [6] := by
  have henum : queryX11Windows .little sideBySideServer true = some [6, 5] := by
    rw [queryX11Windows_eq, if_pos rfl]
    exact congrArg some queryX11WindowsEager_sideBySideServer
  refine ⟨henum, ?_, by decide⟩
  have hattr : ∀ w ∈ [6, 5], (sideBySideServer.attributes w).isSome := by decide
  simp only [queryX11WindowsAtPos, vRootWindowOfScreen_eq_root, henum, Option.some_bind,
    Option.map_some', queryX11WindowsAtPosLoop_eq_filter hattr attr]
  decide

end Conky.X11
