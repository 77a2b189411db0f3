import Mathlib.Algebra.BigOperators.Group.List
import Mathlib.Tactic.DeriveFintype
import Mathlib.Algebra.Order.Ring.Nat

/-!
# The X server behind x11.cc

The overlay code talks to an X server through Xlib. This file gives the part of the server's
state those requests read and the replies Xlib builds from it. Windows and atoms are resource
ids (`None` is 0). The server holds the atoms interned so far, the properties of every window,
the window tree as `XQueryTree` reports it (parent and children, bottom-most child first), the
attributes, absolute origins and WM hints of windows, and a weight that certifies the tree
finite and acyclic.

A reply to `XGetWindowProperty` follows the protocol: an absent property comes back with type
`None`, one of another type than the requested one comes back without items, and the value is
cut at `long_length` 32-bit units. Xlib hands the items back in a buffer of `char`, `short` or
`long` by format, followed by a NUL byte; the code reinterprets that buffer, so the model
computes its bytes for the host's byte order.

`XChangeProperty` follows the protocol too: a replace stores the items, an append or a prepend
adds them to a property of the same type and format and is refused otherwise. The error handler
conky installs names errors from a table indexed one place off.
-/

namespace Conky.X11

/-- An X resource id: a `Window` or an `Atom`. -/
abbrev XID := Nat

abbrev Window := XID

abbrev Atom := XID

/-- `None` of X.h: no window, no atom. -/
def None : XID := 0

def AnyPropertyType : Atom := 0

def XA_ATOM : Atom := 4

def XA_CARDINAL : Atom := 6

def XA_WINDOW : Atom := 33

/-- The atom names x11.cc interns, by the string it passes to `XInternAtom`. -/
inductive AtomName where
  | _NET_VIRTUAL_ROOTS
  | _NET_CURRENT_DESKTOP
  | _NET_NUMBER_OF_DESKTOPS
  | _NET_DESKTOP_NAMES
  | _NET_CLIENT_LIST_STACKING
  | _NET_CLIENT_LIST
  | UTF8_STRING
  | _NET_WM_STRUT
  | _NET_WM_STRUT_PARTIAL
  | _NET_WM_WINDOW_TYPE
  | _NET_WM_WINDOW_TYPE_DESKTOP
  | _NET_WM_WINDOW_TYPE_DOCK
  | _NET_WM_WINDOW_TYPE_UTILITY
  | _NET_WM_WINDOW_TYPE_NORMAL
  | _MOTIF_WM_HINTS
  | _WIN_LAYER
  | _NET_WM_STATE
  | _NET_WM_STATE_BELOW
  | _NET_WM_STATE_ABOVE
  | _NET_WM_DESKTOP
  | _NET_WM_STATE_STICKY
  | _NET_WM_STATE_SKIP_TASKBAR
  | _NET_WM_STATE_SKIP_PAGER
  deriving DecidableEq, Repr, Fintype

/-- The atoms the server has interned, `None` for a name nobody has interned yet. An atom names
one string, so two names never share an interned atom. -/
structure AtomTable where
  atom : AtomName → Atom
  atom_injective : ∀ a b, atom a = atom b → atom a ≠ None → a = b

/-- The server never forgets an atom: a later table keeps every atom of an earlier one. -/
def AtomTable.Extends (t' t : AtomTable) : Prop :=
  ∀ a, t.atom a ≠ None → t'.atom a = t.atom a

instance (t' t : AtomTable) : Decidable (t'.Extends t) :=
  inferInstanceAs (Decidable (∀ a, t.atom a ≠ None → t'.atom a = t.atom a))

theorem AtomTable.Extends.refl (t : AtomTable) : t.Extends t := fun _ _ => rfl

theorem AtomTable.Extends.trans {t'' t' t : AtomTable} (h₂ : t''.Extends t') (h₁ : t'.Extends t) :
    t''.Extends t := fun a ha => (h₂ a (h₁ a ha ▸ ha)).trans (h₁ a ha)

theorem AtomTable.atom_ne {t : AtomTable} {a b : AtomName} (hab : a ≠ b) (ha : t.atom a ≠ None) :
    t.atom a ≠ t.atom b := fun h => hab (t.atom_injective a b h ha)

/-- A property as the server stores it: a type, a format of 8, 16 or 32 bits and items that fit
the format. -/
structure Property where
  type : Atom
  format : Nat
  items : List Nat
  format_valid : format = 8 ∨ format = 16 ∨ format = 32
  items_lt : ∀ v ∈ items, v < 2 ^ format

/-- `map_state` of `XWindowAttributes`. -/
inductive MapState where
  | IsUnmapped
  | IsUnviewable
  | IsViewable
  deriving DecidableEq, Repr

/-- The fields of `XWindowAttributes` the code reads. -/
structure WindowAttributes where
  width : Int
  height : Int
  map_state : MapState
  override_redirect : Bool
  deriving DecidableEq, Repr

/-- The server state the requests of x11.cc read. `tree w` is the reply of `XQueryTree` (the
parent and the children, bottom-most first), `none` when `w` is not a window; `attributes w` that
of `XGetWindowAttributes`; `origin w` the absolute position of `w`'s origin and `childAt w x y`
the child of `w` that `XTranslateCoordinates` reports at `(x, y)` in `w`. A window outweighs all
the windows below it together, so the tree is finite and has no cycle. -/
structure Server where
  root : Window
  atoms : AtomTable
  property : Window → Atom → Option Property
  tree : Window → Option (Window × List Window)
  attributes : Window → Option WindowAttributes
  origin : Window → Int × Int
  childAt : Window → Int → Int → Window
  wmHints : Window → Bool
  weight : Window → Nat
  weight_children : ∀ w p cs, tree w = some (p, cs) → (cs.map fun c => weight c + 1).sum ≤ weight w

/-- A server whose windows are the root and its top-level `children`, none of which has children
of its own. -/
def Server.flat (root : Window) (children : List Window) (atoms : AtomTable)
    (property : Window → Atom → Option Property) (attributes : Window → Option WindowAttributes)
    (origin : Window → Int × Int) (hroot : root ∉ children) : Server where
  root := root
  atoms := atoms
  property := property
  tree w := if w = root then some (None, children) else if w ∈ children then some (root, []) else none
  attributes := attributes
  origin := origin
  childAt _ _ _ := None
  wmHints _ := false
  weight w := if w = root then children.length else 0
  weight_children w p cs h := by
    dsimp only at h ⊢
    split_ifs at h with h₁ h₂ <;> cases h
    · have hone : (children.map fun c => (if c = root then children.length else 0) + 1) =
          children.map fun _ => 1 :=
        List.map_congr_left fun c hc => by rw [if_neg (ne_of_mem_of_not_mem hc hroot)]
      simp [h₁, hone]
    · simp

/-- The reply of `XGetWindowProperty`: `actual_type`, `actual_format` and the `nitems` items. -/
structure PropertyReply where
  actual_type : Atom
  actual_format : Nat
  items : List Nat
  deriving DecidableEq, Repr

def PropertyReply.nitems (r : PropertyReply) : Nat := r.items.length

/-- `XGetWindowProperty(display, w, property, 0, long_length, False, req_type, ...)`; `none` when
the request fails, because `w` is no window or `property` is `None`. -/
def xGetWindowProperty (srv : Server) (w : Window) (property : Atom) (long_length : Nat)
    (req_type : Atom) : Option PropertyReply :=
  if (srv.tree w).isNone ∨ property = None then none
  else some <|
    match srv.property w property with
    | none => ⟨None, 0, []⟩
    | some p =>
      if req_type ≠ AnyPropertyType ∧ p.type ≠ req_type then ⟨p.type, p.format, []⟩
      else ⟨p.type, p.format, p.items.take (4 * long_length / (p.format / 8))⟩

/-- `(~0L)` as `long_length`: the protocol's largest length, all of any property. -/
def longLengthAll : Nat := 0xFFFFFFFF

theorem xGetWindowProperty_format {srv : Server} {w : Window} {property : Atom} {n : Nat}
    {req_type : Atom} {r : PropertyReply} (h : xGetWindowProperty srv w property n req_type = some r) :
    r.actual_format = 0 ∨ r.actual_format = 8 ∨ r.actual_format = 16 ∨ r.actual_format = 32 := by
  unfold xGetWindowProperty at h
  split_ifs at h with hfail
  cases h
  split
  · exact .inl rfl
  · rename_i p _
    split_ifs <;> exact .inr p.format_valid

theorem xGetWindowProperty_of_property {srv : Server} {w : Window} {property : Atom} {n : Nat}
    {p : Property} (hw : (srv.tree w).isSome) (hprop : property ≠ None)
    (hp : srv.property w property = some p) (hlen : p.items.length ≤ 4 * n / (p.format / 8)) :
    xGetWindowProperty srv w property n p.type = some ⟨p.type, p.format, p.items⟩ := by
  simp [xGetWindowProperty, hw, hprop, hp, List.take_of_length_le hlen, Option.isNone_iff_eq_none,
    Option.isSome_iff_ne_none.mp hw]

/-- The `mode` of `XChangeProperty`. -/
inductive PropMode where
  | PropModeReplace
  | PropModePrepend
  | PropModeAppend
  deriving DecidableEq, Repr

/-- `XChangeProperty(display, w, property, type, format, mode, data, nelements)` without its
window: `data` holds the `nelements` values Xlib reads, `char`s, `short`s or `long`s by format. -/
structure PropertyChange where
  property : Atom
  type : Atom
  format : Nat
  mode : PropMode
  data : List Nat
  deriving DecidableEq, Repr

/-- The items a request stores: the low `format` bits of each value, as Xlib sends them. -/
def PropertyChange.items (c : PropertyChange) : List Nat := c.data.map (· % 2 ^ c.format)

theorem PropertyChange.items_lt (c : PropertyChange) : ∀ v ∈ c.items, v < 2 ^ c.format := by
  simp only [PropertyChange.items, List.mem_map]
  rintro _ ⟨v, -, rfl⟩
  exact Nat.mod_lt _ (Nat.two_pow_pos _)

theorem PropertyChange.items_append_lt (c : PropertyChange) {p : Property} (h : p.format = c.format) :
    ∀ v ∈ p.items ++ c.items, v < 2 ^ c.format := by
  intro v hv
  rcases List.mem_append.mp hv with hv | hv
  · exact h ▸ p.items_lt v hv
  · exact c.items_lt v hv

/-- What a `ChangeProperty` request leaves at its property, given what is there; `none` when the
server refuses it: a format other than 8, 16 or 32, or a prepend or an append to a property of
another type or format. Replacing, or writing to an absent property, stores the items alone. -/
def PropertyChange.apply (c : PropertyChange) (old : Option Property) : Option Property :=
  if hf : c.format = 8 ∨ c.format = 16 ∨ c.format = 32 then
    match c.mode, old with
    | .PropModeReplace, _ | _, none => some ⟨c.type, c.format, c.items, hf, c.items_lt⟩
    | .PropModePrepend, some p =>
      if h : p.type = c.type ∧ p.format = c.format then
        some ⟨c.type, c.format, c.items ++ p.items, hf,
          fun v hv => c.items_append_lt h.2 v (List.mem_append.mpr (List.mem_append.mp hv).symm)⟩
      else none
    | .PropModeAppend, some p =>
      if h : p.type = c.type ∧ p.format = c.format then
        some ⟨c.type, c.format, p.items ++ c.items, hf, c.items_append_lt h.2⟩
      else none
  else none

/-- The request at its property, with the checks on its atoms: a request whose property or type
is not an atom is refused too. -/
def PropertyChange.applyAt (c : PropertyChange) (old : Option Property) : Option Property :=
  if c.property = None ∨ c.type = None then old else (c.apply old).or old

/-- The server with property `property` of `w` set to `p`. -/
def Server.setProperty (srv : Server) (w : Window) (property : Atom) (p : Option Property) :
    Server :=
  { srv with property := fun w' a => if w' = w ∧ a = property then p else srv.property w' a }

/-- `XChangeProperty` on `w`. A request the server refuses is reported asynchronously and changes
nothing. -/
def xChangeProperty (srv : Server) (w : Window) (c : PropertyChange) : Server :=
  if (srv.tree w).isNone then srv
  else srv.setProperty w c.property (c.applyAt (srv.property w c.property))

/-- Consecutive `XChangeProperty` requests on `w`. -/
def applyChanges (srv : Server) (w : Window) (cs : List PropertyChange) : Server :=
  cs.foldl (fun s c => xChangeProperty s w c) srv

@[simp]
theorem xChangeProperty_tree (srv : Server) (w : Window) (c : PropertyChange) :
    (xChangeProperty srv w c).tree = srv.tree := by
  unfold xChangeProperty
  split_ifs <;> rfl

@[simp]
theorem xChangeProperty_atoms (srv : Server) (w : Window) (c : PropertyChange) :
    (xChangeProperty srv w c).atoms = srv.atoms := by
  unfold xChangeProperty
  split_ifs <;> rfl

@[simp]
theorem xChangeProperty_root (srv : Server) (w : Window) (c : PropertyChange) :
    (xChangeProperty srv w c).root = srv.root := by
  unfold xChangeProperty
  split_ifs <;> rfl

/-- A request changes its own property of its own window only. -/
theorem xChangeProperty_property (srv : Server) (w : Window) (c : PropertyChange) (w' : Window)
    (a : Atom) : (xChangeProperty srv w c).property w' a =
      if (srv.tree w).isSome ∧ w' = w ∧ a = c.property then c.applyAt (srv.property w a)
      else srv.property w' a := by
  unfold xChangeProperty Server.setProperty
  cases srv.tree w with
  | none => simp
  | some _ =>
    by_cases h : w' = w ∧ a = c.property
    · obtain ⟨rfl, rfl⟩ := h
      simp
    · simp [h]

theorem applyChanges_property {srv : Server} {w : Window} (hw : (srv.tree w).isSome)
    (cs : List PropertyChange) (a : Atom) : (applyChanges srv w cs).property w a =
      (cs.filter (·.property = a)).foldl (fun old c => c.applyAt old) (srv.property w a) := by
  induction cs generalizing srv with
  | nil => rfl
  | cons c cs ih =>
    have hw' : ((xChangeProperty srv w c).tree w).isSome := by rwa [xChangeProperty_tree]
    rw [applyChanges, List.foldl_cons, ← applyChanges, ih hw', xChangeProperty_property]
    by_cases hc : c.property = a
    · subst hc
      simp [hw]
    · simp [hc, Ne.symm hc]

@[simp]
theorem applyChanges_tree (srv : Server) (w : Window) (cs : List PropertyChange) :
    (applyChanges srv w cs).tree = srv.tree := by
  induction cs generalizing srv with
  | nil => rfl
  | cons c cs ih => rw [applyChanges, List.foldl_cons, ← applyChanges, ih, xChangeProperty_tree]

/-- The value a property holds: its type, format and items. -/
def Property.value (p : Property) : Atom × Nat × List Nat := (p.type, p.format, p.items)

theorem PropertyChange.applyAt_none {c : PropertyChange} (hp : c.property ≠ None)
    (ht : c.type ≠ None) (hf : c.format = 8 ∨ c.format = 16 ∨ c.format = 32) :
    (c.applyAt none).map Property.value = some (c.type, c.format, c.items) := by
  obtain ⟨property, type, format, mode, data⟩ := c
  cases mode <;> simp_all [PropertyChange.applyAt, PropertyChange.apply, Property.value]

theorem PropertyChange.applyAt_append {c : PropertyChange} (hp : c.property ≠ None)
    (ht : c.type ≠ None) (hf : c.format = 8 ∨ c.format = 16 ∨ c.format = 32)
    (hm : c.mode = .PropModeAppend) {old : Option Property} {xs : List Nat}
    (hold : old.map Property.value = some (c.type, c.format, xs)) :
    (c.applyAt old).map Property.value = some (c.type, c.format, xs ++ c.items) := by
  obtain ⟨p, rfl, hv⟩ := Option.map_eq_some'.mp hold
  simp only [Property.value, Prod.mk.injEq] at hv
  obtain ⟨property, type, format, mode, data⟩ := c
  subst hm
  simp_all [PropertyChange.applyAt, PropertyChange.apply, Property.value]

theorem foldl_applyAt_appends {t f : Nat} (ht : t ≠ None) (hf : f = 8 ∨ f = 16 ∨ f = 32)
    (cs : List PropertyChange) (hcs : ∀ c ∈ cs, c.property ≠ None ∧ c.type = t ∧ c.format = f ∧
      c.mode = .PropModeAppend) {old : Option Property} {xs : List Nat}
    (hold : old.map Property.value = some (t, f, xs)) :
    (cs.foldl (fun old c => c.applyAt old) old).map Property.value =
      some (t, f, xs ++ cs.flatMap PropertyChange.items) := by
  induction cs generalizing old xs with
  | nil => simpa using hold
  | cons c cs ih =>
    obtain ⟨hp, hct, hcf, hm⟩ := hcs c (List.mem_cons_self c cs)
    subst hct hcf
    rw [List.foldl_cons, List.flatMap_cons, ← List.append_assoc]
    exact ih (fun c' hc' => hcs c' (List.mem_cons_of_mem c hc')) (c.applyAt_append hp ht hf hm hold)

theorem foldl_applyAt_of_none {c : PropertyChange} (hp : c.property ≠ None) (ht : c.type ≠ None)
    (hf : c.format = 8 ∨ c.format = 16 ∨ c.format = 32) (cs : List PropertyChange)
    (hcs : ∀ c' ∈ cs, c'.property ≠ None ∧ c'.type = c.type ∧ c'.format = c.format ∧
      c'.mode = .PropModeAppend) :
    ((c :: cs).foldl (fun old c => c.applyAt old) none).map Property.value =
      some (c.type, c.format, (c :: cs).flatMap PropertyChange.items) := by
  rw [List.foldl_cons, List.flatMap_cons]
  exact foldl_applyAt_appends ht hf cs hcs (c.applyAt_none hp ht hf)

/-- A replace stores its items alone, whatever the property held. -/
theorem PropertyChange.applyAt_replace {c : PropertyChange} (hp : c.property ≠ None)
    (ht : c.type ≠ None) (hf : c.format = 8 ∨ c.format = 16 ∨ c.format = 32)
    (hm : c.mode = .PropModeReplace) (old : Option Property) :
    (c.applyAt old).map Property.value = some (c.type, c.format, c.items) := by
  obtain ⟨property, type, format, mode, data⟩ := c
  subst hm
  cases old <;> simp_all [PropertyChange.applyAt, PropertyChange.apply, Property.value]

/-- A property read with its own type comes back with its items cut at `long_length`. -/
theorem xGetWindowProperty_of_value {srv : Server} {w : Window} {property t f : Nat}
    {xs : List Nat} (hw : (srv.tree w).isSome) (hprop : property ≠ None)
    (hp : (srv.property w property).map Property.value = some (t, f, xs)) (long_length : Nat) :
    xGetWindowProperty srv w property long_length t =
      some ⟨t, f, xs.take (4 * long_length / (f / 8))⟩ := by
  obtain ⟨p, hpp, hv⟩ := Option.map_eq_some'.mp hp
  simp only [Property.value, Prod.mk.injEq] at hv
  obtain ⟨rfl, rfl, rfl⟩ := hv
  simp [xGetWindowProperty, hw, hprop, hpp, Option.isNone_iff_eq_none, Option.isSome_iff_ne_none.mp hw]

/-- The items property `a` of `w` holds after the requests `cs`; none when it is absent. -/
def storedItems (srv : Server) (w : Window) (cs : List PropertyChange) (a : Atom) : List Nat :=
  (((applyChanges srv w cs).property w a).map Property.items).getD []

theorem storedItems_congr {srv : Server} {w : Window} (hw : (srv.tree w).isSome) {a : Atom}
    {cs cs' : List PropertyChange}
    (h : cs.filter (·.property = a) = cs'.filter (·.property = a)) :
    storedItems srv w cs a = storedItems srv w cs' a := by
  simp only [storedItems, applyChanges_property hw, h]

theorem storedItems_of_uniform {srv : Server} {w : Window} (hw : (srv.tree w).isSome) {a : Atom}
    (hfresh : srv.property w a = none) {cs : List PropertyChange}
    (hvalid : ∀ c ∈ cs.filter (·.property = a),
      c.property ≠ None ∧ c.type ≠ None ∧ (c.format = 8 ∨ c.format = 16 ∨ c.format = 32))
    (hsame : ∀ c ∈ cs.filter (·.property = a), ∀ c' ∈ cs.filter (·.property = a),
      c.type = c'.type ∧ c.format = c'.format)
    (hmode : (∀ c ∈ cs.filter (·.property = a), c.mode = .PropModeAppend) ∨
      (cs.filter (·.property = a)).length ≤ 1) :
    storedItems srv w cs a = (cs.filter (·.property = a)).flatMap PropertyChange.items := by
  unfold storedItems
  rw [applyChanges_property hw, hfresh]
  generalize cs.filter (·.property = a) = L at *
  match L, hvalid, hsame, hmode with
  | [], _, _, _ => rfl
  | c :: L', hvalid, hsame, hmode =>
    have hc := List.mem_cons_self c L'
    obtain ⟨hp, ht, hf⟩ := hvalid c hc
    have hrest : ∀ c' ∈ L', c'.property ≠ None ∧ c'.type = c.type ∧ c'.format = c.format ∧
        c'.mode = .PropModeAppend := by
      intro c' hc'
      have hc'' := List.mem_cons_of_mem c hc'
      refine ⟨(hvalid c' hc'').1, (hsame c' hc'' c hc).1, (hsame c' hc'' c hc).2, ?_⟩
      rcases hmode with hm | hm
      · exact hm c' hc''
      · cases L' with
        | nil => cases hc'
        | cons _ _ => simp at hm
    have h := foldl_applyAt_of_none hp ht hf L' hrest
    rw [show Property.items = (fun v : Atom × Nat × List Nat => v.2.2) ∘ Property.value from rfl,
      ← Option.map_map, h]
    rfl

/-- The byte order of the host running conky. -/
inductive ByteOrder where
  | little
  | big
  deriving DecidableEq, Repr

/-- What the casts of x11.cc read of Xlib's buffers depends on in the host running conky: its byte
order, and whether a C `long` has 8 bytes (LP64) or 4 (ILP32). An `int` has 4 bytes on both. -/
structure Host where
  endian : ByteOrder
  lp64 : Bool
  deriving DecidableEq, Repr

/-- A little-endian LP64 host, such as x86-64. -/
def Host.little : Host := ⟨.little, true⟩

/-- A big-endian LP64 host, such as s390x. -/
def Host.big : Host := ⟨.big, true⟩

/-- The `n` bytes of `v` as they lie in memory. -/
def bytesOf : ByteOrder → Nat → Nat → List Nat
  | .little, n, v => (List.range n).map fun i => v / 256 ^ i % 256
  | .big, n, v => (List.range n).reverse.map fun i => v / 256 ^ i % 256

/-- The 64-bit C `long` Xlib stores a format-32 item in: the 32-bit value, sign extended. -/
def xlibLong (v : Nat) : Nat := if v < 2 ^ 31 then v else v + (2 ^ 64 - 2 ^ 32)

/-- The bytes of the C `long` Xlib stores a format-32 item in. -/
def longBytesOf (o : Host) (v : Nat) : List Nat :=
  if o.lp64 then bytesOf o.endian 8 (xlibLong v) else bytesOf o.endian 4 v

/-- The buffer `prop_return` points to: `NULL` for an absent property, otherwise the items as
`char`, `short` or `long` by format, then a NUL byte. -/
def PropertyReply.prop (o : Host) (r : PropertyReply) : Option (List Nat) :=
  if r.actual_type = None then none
  else some (r.items.flatMap (fun v => match r.actual_format with
    | 8 => [v]
    | 16 => bytesOf o.endian 2 v
    | _ => longBytesOf o v) ++ [0])

/-- The `int` a C program reads at the start of a buffer; `none` when the buffer is `NULL`,
uninitialised or shorter than an `int`. -/
def readInt (o : Host) : Option (List Nat) → Option Int
  | some (b₀ :: b₁ :: b₂ :: b₃ :: _) =>
    let u : Nat := match o.endian with
      | .little => b₀ + 256 * b₁ + 256 ^ 2 * b₂ + 256 ^ 3 * b₃
      | .big => b₃ + 256 * b₂ + 256 ^ 2 * b₁ + 256 ^ 3 * b₀
    some (if u < 2 ^ 31 then u else (u : Int) - 2 ^ 32)
  | _ => none

/-- `XTranslateCoordinates(display, src, dest, x, y, ...)`: the point in `dest`'s coordinates and
the child of `dest` there. -/
def xTranslateCoordinates (srv : Server) (src dest : Window) (x y : Int) : Int × Int × Window :=
  let dx := x + (srv.origin src).1 - (srv.origin dest).1
  let dy := y + (srv.origin src).2 - (srv.origin dest).2
  (dx, dy, srv.childAt dest dx dy)

/-- The names `x11_error_handler` prints for the error codes below 17, by index (its table
`NAMES`). -/
def errorNames : List String :=
  ["request", "value", "window", "pixmap", "atom", "cursor", "font", "match", "drawable", "access",
    "alloc", "colormap", "G context", "ID choice", "name", "length", "implementation"]

/-- The error name `x11_error_handler` prints without xcb-errors: `NAMES[error_code]` for a code
from 1 to 16, else the code in decimal as `snprintf` writes it into 4 bytes. -/
def x11ErrorName (error_code : Nat) : String :=
  if 0 < error_code ∧ error_code < 17 then errorNames.getD error_code default
  else (toString error_code).take 3

/-- The error a code denotes: X.h numbers them from `BadRequest` (1) to `BadImplementation` (17),
in the order of `NAMES`. -/
def protocolErrorName (error_code : Nat) : Option String :=
  if 0 < error_code then errorNames.get? (error_code - 1) else none

/-- `BadImplementation` is printed as its number. -/
example : x11ErrorName 17 = "17" := by decide

end Conky.X11
