import Conky.X11.Desktop

/-!
# Runs of the desktop cache

A run starts with `init_x11` and goes on with calls of `get_x11_desktop_info`, one for each
property change the root reports; between two calls the server may change any property and
intern new atoms, but never forgets one. `Reachable o srv c` says that the cache `c` is reached
by such a run with the server now in state `srv`.

Along every run the derived name is up to date (deriving it again changes nothing) and each
static atom is `None` or the server's atom of its name. So a call for an untracked atom, or one
whose property no longer reads well, leaves the cache as it was, and a call for a changed
property gives what the cold start would, provided the property's atom was interned at the last
cold start. The derived name may lag behind the current desktop: it is not cleared when the list
has no entry for the new desktop.

End to end, a window manager that renames its desktops, writing the names each followed by a NUL,
is read whole at the next call: the cache holds the list as written and the current desktop's
entry, or its old name where the list has none.
-/

namespace Conky.X11

/-- The cache states conky reaches with the server in state `srv`. -/
inductive Reachable (o : Host) : Server → DesktopCache → Prop
  | init (srv : Server) (c : DesktopCache) : Reachable o srv (initX11 o srv c)
  | call {srv : Server} {c : DesktopCache} (atom : Atom) :
      Reachable o srv c → Reachable o srv (getX11DesktopInfo o srv atom c)
  | serverChange {srv : Server} {c : DesktopCache} (srv' : Server) :
      Reachable o srv c → srv'.atoms.Extends srv.atoms → Reachable o srv' c

/-- The derived name is up to date: deriving it again changes nothing. -/
def DesktopInfo.NameSynced (d : DesktopInfo) : Prop :=
  getX11DesktopCurrentName d.all_names d = d

/-- Each static atom is `None` or the table's atom of its name. -/
def DesktopAtoms.Interned (a : DesktopAtoms) (t : AtomTable) : Prop :=
  (a.atom_current = None ∨ a.atom_current = t.atom ._NET_CURRENT_DESKTOP) ∧
  (a.atom_number = None ∨ a.atom_number = t.atom ._NET_NUMBER_OF_DESKTOPS) ∧
  (a.atom_names = None ∨ a.atom_names = t.atom ._NET_DESKTOP_NAMES)

/-- What every reachable state satisfies. -/
structure DesktopCache.Invariant (srv : Server) (c : DesktopCache) : Prop where
  synced : c.desktop.NameSynced
  interned : c.atoms.Interned srv.atoms

theorem NameSynced_iff (d : DesktopInfo) :
    d.NameSynced ↔ ∀ e, desktopName d.all_names d.current = some e → d.name = e := by
  unfold DesktopInfo.NameSynced
  rw [getX11DesktopCurrentName_eq]
  cases desktopName d.all_names d.current <;> simp [DesktopInfo.ext_iff, eq_comm]

theorem getX11DesktopCurrentName_synced (d : DesktopInfo) :
    (getX11DesktopCurrentName d.all_names d).NameSynced :=
  getX11DesktopCurrentName_idem d.all_names d

theorem interned_of_extends {x : Atom} {n : AtomName} {t t' : AtomTable}
    (h : x = None ∨ x = t.atom n) (ht : t'.Extends t) : x = None ∨ x = t'.atom n := by
  by_cases hx : x = None
  · exact .inl hx
  · rcases h with h | h
    · exact absurd h hx
    · exact .inr (h.trans (ht n (h ▸ hx)).symm)

theorem DesktopAtoms.Interned.mono {a : DesktopAtoms} {t t' : AtomTable} (h : a.Interned t)
    (ht : t'.Extends t) : a.Interned t' :=
  ⟨interned_of_extends h.1 ht, interned_of_extends h.2.1 ht, interned_of_extends h.2.2 ht⟩

theorem interned_ne {x y : Atom} {n m : AtomName} {t : AtomTable} (hx : x = None ∨ x = t.atom n)
    (hy : y = None ∨ y = t.atom m) (hnm : n ≠ m) (hx₀ : x ≠ None) : x ≠ y := by
  rcases hx with hx | rfl
  · exact absurd hx hx₀
  · rcases hy with rfl | rfl
    · exact hx₀
    · exact t.atom_ne hnm hx₀

section Step

variable {o : Host} {srv : Server} {root atom : Atom}

theorem getX11DesktopNumber_synced {d : DesktopInfo} (h : d.NameSynced) :
    (getX11DesktopNumber o srv root atom d).NameSynced := by
  unfold getX11DesktopNumber DesktopInfo.NameSynced at *
  rw [readDesktopProperty_eq]
  cases acceptedReply srv root atom 1 XA_CARDINAL cardinalAccepted
  · exact h
  · simp only [Option.map_some', Option.getD_some]
    rw [getX11DesktopCurrentName_number_update, h]

theorem getX11DesktopInfo_zero_invariant (c : DesktopCache) :
    (getX11DesktopInfo o srv 0 c).Invariant srv :=
  ⟨getX11DesktopCurrentName_synced _, .inr rfl, .inr rfl, .inr rfl⟩

/-- One call keeps the invariant. -/
theorem DesktopCache.Invariant.getX11DesktopInfo {c : DesktopCache} (h : c.Invariant srv)
    (atom : Atom) : (getX11DesktopInfo o srv atom c).Invariant srv := by
  unfold Conky.X11.getX11DesktopInfo
  split_ifs
  · exact getX11DesktopInfo_zero_invariant c
  · exact ⟨getX11DesktopCurrentName_synced _, h.interned⟩
  · exact ⟨getX11DesktopNumber_synced h.synced, h.interned⟩
  · exact ⟨getX11DesktopCurrentName_synced _, h.interned⟩
  · exact h

end Step

/-- Every reachable cache satisfies the invariant. -/
theorem Reachable.invariant {o : Host} {srv : Server} {c : DesktopCache}
    (h : Reachable o srv c) : c.Invariant srv := by
  induction h with
  | init srv c => exact getX11DesktopInfo_zero_invariant _
  | call atom _ ih => exact ih.getX11DesktopInfo atom
  | serverChange srv' _ ht ih => exact ⟨ih.synced, ih.interned.mono ht⟩

/-- A window manager with the desktop atoms interned. -/
def desktopAtomTable : AtomTable where
  atom
    | ._NET_CURRENT_DESKTOP => 302
    | ._NET_NUMBER_OF_DESKTOPS => 303
    | ._NET_DESKTOP_NAMES => 304
    | .UTF8_STRING => 310
    | _ => None
  atom_injective := by decide

/-- A root (1) on desktop `current` (counted from 0) of two, whose name list names one desktop,
"A". -/
def oneNameServer (current : Nat) (h : current < 2 ^ 32) : Server :=
  Server.flat 1 [] desktopAtomTable
    (fun w a => if w ≠ 1 then none
      else if a = 302 then some ⟨XA_CARDINAL, 32, [current], by decide, by simpa using h⟩
      else if a = 303 then some ⟨XA_CARDINAL, 32, [2], by decide, by decide⟩
      else if a = 304 then some ⟨310, 8, [65, 0], by decide, by decide⟩ else none)
    (fun _ => none) (fun _ => (0, 0)) (by decide)

/-- In a reachable cache, the name is that of the current desktop whenever the list has one. -/
theorem Reachable.name_eq {o : Host} {srv : Server} {c : DesktopCache} {e : List Nat}
    (h : Reachable o srv c) (he : desktopName c.desktop.all_names c.desktop.current = some e) :
    c.desktop.name = e :=
  (NameSynced_iff _).mp h.invariant.synced e he

/-- The cache after `init_x11` with the window manager on desktop 1, named "A". -/
def oneNameCache : DesktopCache :=
  initX11 .little (oneNameServer 0 (by decide)) ⟨⟨0, 0, 0⟩, ⟨1, 1, [], []⟩⟩

theorem Reachable.name_eq_oneNameCache :
    Reachable .little (oneNameServer 0 (by decide)) oneNameCache ∧
    desktopName oneNameCache.desktop.all_names oneNameCache.desktop.current = some [65] ∧
    oneNameCache.desktop.name = [65] :=
  ⟨.init _ _, by decide, Reachable.name_eq (.init _ _) (by decide)⟩

/-- The cache once the window manager, started on desktop 1, moves to desktop 2. -/
def staleNameCache : DesktopCache :=
  getX11DesktopInfo .little (oneNameServer 1 (by decide)) 302
    (initX11 .little (oneNameServer 0 (by decide)) ⟨⟨0, 0, 0⟩, ⟨1, 1, [], []⟩⟩)

/-- That cache is reachable and calls desktop 2 by the name of desktop 1, the list's only entry. -/
theorem staleName_reachable :
    Reachable .little (oneNameServer 1 (by decide)) staleNameCache ∧
    staleNameCache.desktop = ⟨2, 2, [65, 0], [65]⟩ ∧ nulEntries [65, 0] = [[65]] :=
  ⟨.call 302 (.serverChange _ (.init _ _) fun _ _ => rfl), by decide, by decide⟩

/-- The window manager on desktop 257 (index 256): a little-endian host reads desktop 1. With two
desktops, a big-endian host reads none. -/
theorem cardinal_reads_first_byte :
    (getX11DesktopCurrent .little (oneNameServer 256 (by decide)) 1 302 ⟨1, 1, [], []⟩).current = 1 ∧
      (getX11DesktopNumber .big (oneNameServer 0 (by decide)) 1 303 ⟨1, 1, [], []⟩).number = 0 := by
  decide

/-- For every value below 2^31 of a `CARDINAL` property of the shape the readers accept, the
current desktop and the desktop count reach the cache through the first byte of the value in
memory: its low byte on a little-endian host, and on a big-endian one 0 when a `long` has 8 bytes
and the high byte of the value when it has 4. -/
theorem getX11DesktopCurrent_low_byte {o : Host} {srv : Server} {root atom v : Nat}
    {p : Property} (hroot : (srv.tree root).isSome) (hatom : atom ≠ None)
    (hp : srv.property root atom = some p)
    (hshape : p.type = XA_CARDINAL ∧ p.format = 32 ∧ p.items = [v]) (hv : v < 2 ^ 31)
    (d : DesktopInfo) :
    getX11DesktopCurrent o srv root atom d =
        { d with current := ((match o.endian with
          | .little => v % 256
          | .big => if o.lp64 then 0 else v / 2 ^ 24 : Nat) : Int) + 1 } ∧
      getX11DesktopNumber o srv root atom d =
        { d with number := ((match o.endian with
          | .little => v % 256
          | .big => if o.lp64 then 0 else v / 2 ^ 24 : Nat) : Int) } := by
  have h := @getX11DesktopCurrent_of_cardinal o srv root atom v p hroot hatom hp hshape d
  rw [firstByte_format32 o [] (show XA_CARDINAL ≠ None by decide) hv] at h
  obtain ⟨endian, lp64⟩ := o
  cases endian <;> exact h

theorem getX11DesktopCurrent_low_byte_257 :
    ((oneNameServer 256 (by decide)).tree 1).isSome ∧ (302 : Nat) ≠ None ∧
    (∃ p, (oneNameServer 256 (by decide)).property 1 302 = some p ∧
      p.type = XA_CARDINAL ∧ p.format = 32 ∧ p.items = [256]) ∧ (256 : Nat) < 2 ^ 31 ∧
    getX11DesktopCurrent .little (oneNameServer 256 (by decide)) 1 302 ⟨1, 1, [], []⟩ =
        { (⟨1, 1, [], []⟩ : DesktopInfo) with current := ((256 % 256 : Nat) : Int) + 1 } ∧
      getX11DesktopNumber .little (oneNameServer 256 (by decide)) 1 302 ⟨1, 1, [], []⟩ =
        { (⟨1, 1, [], []⟩ : DesktopInfo) with number := ((256 % 256 : Nat) : Int) } :=
  ⟨rfl, by decide, ⟨_, rfl, rfl, rfl, rfl⟩, by decide,
    getX11DesktopCurrent_low_byte (by rfl) (by decide) (by rfl) ⟨rfl, rfl, rfl⟩ (by decide) _⟩

/-- A window manager that has not interned `_NET_DESKTOP_NAMES` yet. -/
def earlyAtomTable : AtomTable where
  atom
    | ._NET_CURRENT_DESKTOP => 302
    | ._NET_NUMBER_OF_DESKTOPS => 303
    | .UTF8_STRING => 310
    | _ => None
  atom_injective := by decide

/-- A root (1) on the first of one desktop, with `names` as its property 304. -/
def namesLaterServer (atoms : AtomTable) (names : Option Property) : Server :=
  Server.flat 1 [] atoms
    (fun w a => if w ≠ 1 then none
      else if a = 302 then some ⟨XA_CARDINAL, 32, [0], by decide, by decide⟩
      else if a = 303 then some ⟨XA_CARDINAL, 32, [1], by decide, by decide⟩
      else if a = 304 then names else none)
    (fun _ => none) (fun _ => (0, 0)) (by decide)

/-- The server at `init_x11`, before the window manager names its desktops. -/
def earlyServer : Server := namesLaterServer earlyAtomTable none

/-- The server once the window manager has interned `_NET_DESKTOP_NAMES` and named its desktop
"D". -/
def lateServer : Server :=
  namesLaterServer desktopAtomTable (some ⟨310, 8, [68, 0], by decide, by decide⟩)

def earlyCache : DesktopCache := initX11 .little earlyServer ⟨⟨0, 0, 0⟩, ⟨1, 1, [], []⟩⟩

/-- The request of a `CARDINAL` reader of `atom` fails or brings a reply it rejects. -/
def CardinalRejected (srv : Server) (atom : Atom) : Prop :=
  ∀ r, xGetWindowProperty srv srv.root atom 1 XA_CARDINAL = some r → cardinalAccepted r = false

/-- The request of `get_x11_desktop_names` for `atom` fails or brings a reply it rejects. -/
def NamesRejected (srv : Server) (atom : Atom) : Prop :=
  ∀ r, xGetWindowProperty srv srv.root atom longLengthAll (srv.atoms.atom .UTF8_STRING) = some r →
    utf8Accepted (srv.atoms.atom .UTF8_STRING) r = false

/-- A notification for an atom the cache does not track, or for a tracked property that is now
absent or malformed, leaves every field of the cache as it was. -/
theorem getX11DesktopInfo_unchanged {o : Host} {srv : Server} {c : DesktopCache} {atom : Atom}
    (hc : Reachable o srv c) (hatom : atom ≠ None)
    (h : (atom ≠ c.atoms.atom_current ∧ atom ≠ c.atoms.atom_number ∧ atom ≠ c.atoms.atom_names) ∨
      (atom = c.atoms.atom_current ∧ CardinalRejected srv atom) ∨
      (atom = c.atoms.atom_number ∧ CardinalRejected srv atom) ∨
      (atom = c.atoms.atom_names ∧ NamesRejected srv atom)) :
    (getX11DesktopInfo o srv atom c).desktop = c.desktop := by
  obtain ⟨hsynced, hcur, hnum, hnames⟩ := hc.invariant
  have hzero : atom ≠ 0 := hatom
  -- the `CARDINAL` readers reject what `atom` reads as, and the name is already derived
  have hcardinal (hrej : CardinalRejected srv atom) :
      getX11DesktopCurrentName
          (getX11DesktopCurrent o srv srv.root atom c.desktop).all_names
          (getX11DesktopCurrent o srv srv.root atom c.desktop) = c.desktop ∧
        getX11DesktopNumber o srv srv.root atom c.desktop = c.desktop := by
    simp only [getX11DesktopCurrent, getX11DesktopNumber, readDesktopProperty_of_rejected hrej]
    exact ⟨hsynced, trivial⟩
  unfold getX11DesktopInfo
  rw [if_neg hzero]
  rcases h with ⟨h₁, h₂, h₃⟩ | ⟨h₁, hrej⟩ | ⟨h₂, hrej⟩ | ⟨h₃, hrej⟩
  · rw [if_neg h₁, if_neg h₂, if_neg h₃]
  · rw [if_pos h₁, ← h₁]
    exact (hcardinal hrej).1
  · split_ifs with h₁
    · rw [← h₁]
      exact (hcardinal hrej).1
    · rw [← h₂]
      exact (hcardinal hrej).2
  · have h₁ := interned_ne hnames hcur (by decide) (h₃ ▸ hatom)
    have h₂ := interned_ne hnames hnum (by decide) (h₃ ▸ hatom)
    rw [if_neg (h₃ ▸ h₁), if_neg (h₃ ▸ h₂), if_pos h₃, ← h₃]
    simp only [getX11DesktopNames, readDesktopProperty_of_rejected hrej]
    exact hsynced

/-- The server once the window manager has rewritten `_NET_CURRENT_DESKTOP` with 16-bit items. -/
def shortCurrentServer : Server :=
  xChangeProperty (oneNameServer 0 (by decide)) 1 ⟨302, XA_CARDINAL, 16, .PropModeReplace, [1]⟩

/-- A notification for an atom nobody tracks, and one for the current desktop once it is stored
with 16-bit items, leave the cache after `init_x11` as it was. -/
theorem getX11DesktopInfo_unchanged_oneNameCache :
    (Reachable .little (oneNameServer 0 (by decide)) oneNameCache ∧ (999 : Atom) ≠ None ∧
      (999 ≠ oneNameCache.atoms.atom_current ∧ 999 ≠ oneNameCache.atoms.atom_number ∧
        999 ≠ oneNameCache.atoms.atom_names) ∧
      (getX11DesktopInfo .little (oneNameServer 0 (by decide)) 999 oneNameCache).desktop =
        oneNameCache.desktop) ∧
    (Reachable .little shortCurrentServer oneNameCache ∧ (302 : Atom) ≠ None ∧
      (302 = oneNameCache.atoms.atom_current ∧ CardinalRejected shortCurrentServer 302) ∧
      (getX11DesktopInfo .little shortCurrentServer 302 oneNameCache).desktop =
        oneNameCache.desktop) := by
  have hc : Reachable .little shortCurrentServer oneNameCache :=
    .serverChange _ (.init _ _) (by rw [shortCurrentServer, xChangeProperty_atoms]; exact .refl _)
  have hrej : CardinalRejected shortCurrentServer 302 := fun r hr => by
    rw [← Option.some.inj ((show xGetWindowProperty shortCurrentServer shortCurrentServer.root 302 1
      XA_CARDINAL = some ⟨XA_CARDINAL, 16, [1]⟩ from rfl).symm.trans hr)]
    rfl
  exact ⟨⟨.init _ _, by decide, by decide,
      getX11DesktopInfo_unchanged (.init _ _) (by decide) (.inl (by decide))⟩,
    ⟨hc, by decide, ⟨rfl, hrej⟩,
      getX11DesktopInfo_unchanged hc (by decide) (.inr (.inl ⟨rfl, hrej⟩))⟩⟩

/-- The three properties the cache follows. -/
inductive DesktopProperty where
  | current
  | number
  | names
  deriving DecidableEq, Repr

def DesktopProperty.atomName : DesktopProperty → AtomName
  | .current => ._NET_CURRENT_DESKTOP
  | .number => ._NET_NUMBER_OF_DESKTOPS
  | .names => ._NET_DESKTOP_NAMES

/-- The static atom `get_x11_desktop_info` keeps for the property. -/
def DesktopProperty.static (p : DesktopProperty) (a : DesktopAtoms) : Atom :=
  match p with
  | .current => a.atom_current
  | .number => a.atom_number
  | .names => a.atom_names

/-- The cold-start reader of the property on `srv`. -/
def DesktopProperty.read (o : Host) (srv : Server) : DesktopProperty → DesktopInfo → DesktopInfo
  | .current => getX11DesktopCurrent o srv srv.root (srv.atoms.atom ._NET_CURRENT_DESKTOP)
  | .number => getX11DesktopNumber o srv srv.root (srv.atoms.atom ._NET_NUMBER_OF_DESKTOPS)
  | .names => getX11DesktopNames srv srv.root (srv.atoms.atom ._NET_DESKTOP_NAMES)

/-- The cache holds what the property reads as on `srv`: reading it again changes nothing. -/
def DesktopCache.AgreesOn (o : Host) (srv : Server) (c : DesktopCache) (p : DesktopProperty) :
    Prop :=
  p.read o srv c.desktop = c.desktop

instance (o : Host) (srv : Server) (c : DesktopCache) (p : DesktopProperty) :
    Decidable (c.AgreesOn o srv p) :=
  inferInstanceAs (Decidable (p.read o srv c.desktop = c.desktop))

/-- The cache agrees with every property at start; then the name list appears, and refreshing it
alone leaves the cache without names, where a cold start reads them. -/
theorem lateNames_not_cold :
    Reachable .little earlyServer earlyCache ∧
    (∀ p, earlyCache.AgreesOn .little earlyServer p) ∧
    lateServer.atoms.Extends earlyServer.atoms ∧
    earlyCache.AgreesOn .little lateServer .current ∧
    earlyCache.AgreesOn .little lateServer .number ∧
    (getX11DesktopInfo .little lateServer (lateServer.atoms.atom ._NET_DESKTOP_NAMES) earlyCache).desktop ≠
      (getX11DesktopInfo .little lateServer 0 earlyCache).desktop := by
  refine ⟨.init _ _, fun p => ?_, by decide, by decide, by decide, by decide⟩
  cases p <;> decide

/-- After a property changed, refreshing it alone gives what a cold start gives, when its static
atom was interned at the last cold start and the cache agrees with the two other properties. -/
theorem getX11DesktopInfo_eq_cold {o : Host} {srv : Server} {c : DesktopCache}
    (p : DesktopProperty) (hc : Reachable o srv c) (hagree : ∀ q, q ≠ p → c.AgreesOn o srv q)
    (hstatic : p.static c.atoms ≠ None) :
    (getX11DesktopInfo o srv (srv.atoms.atom p.atomName) c).desktop =
      (getX11DesktopInfo o srv 0 c).desktop := by
  obtain ⟨hsynced, hcur, hnum, hnames⟩ := hc.invariant
  cases p with
  | current =>
    have h₀ : c.atoms.atom_current ≠ 0 := hstatic
    have hs : c.atoms.atom_current = srv.atoms.atom ._NET_CURRENT_DESKTOP := hcur.resolve_left hstatic
    have hN := hagree .number (by decide)
    have hA := hagree .names (by decide)
    simp only [DesktopCache.AgreesOn, DesktopProperty.read, getX11DesktopNumber,
      getX11DesktopNames] at hN hA
    simp only [DesktopProperty.atomName, getX11DesktopInfo, ← hs, if_neg h₀, if_true,
      getX11DesktopCurrent, getX11DesktopNumber, getX11DesktopNames]
    rw [readDesktopProperty_of_fixed (fun _ _ _ => rfl) hN,
      readDesktopProperty_of_fixed (fun _ _ _ => rfl) hA]
  | number =>
    have h₀ : c.atoms.atom_number ≠ 0 := hstatic
    have hs : c.atoms.atom_number = srv.atoms.atom ._NET_NUMBER_OF_DESKTOPS := hnum.resolve_left hstatic
    have hne := interned_ne hnum hcur (by decide) hstatic
    have hC := hagree .current (by decide)
    have hA := hagree .names (by decide)
    simp only [DesktopCache.AgreesOn, DesktopProperty.read, getX11DesktopNames] at hC hA
    simp only [DesktopProperty.atomName, getX11DesktopInfo, ← hs, if_neg h₀, if_neg hne, if_true,
      hC, getX11DesktopNames, getX11DesktopNumber]
    rw [readDesktopProperty_of_fixed (fun _ _ _ => rfl) hA]
    exact (getX11DesktopNumber_synced hsynced).symm
  | names =>
    have h₀ : c.atoms.atom_names ≠ 0 := hstatic
    have hs : c.atoms.atom_names = srv.atoms.atom ._NET_DESKTOP_NAMES := hnames.resolve_left hstatic
    have hne₁ := interned_ne hnames hcur (by decide) hstatic
    have hne₂ := interned_ne hnames hnum (by decide) hstatic
    have hC := hagree .current (by decide)
    have hN := hagree .number (by decide)
    simp only [DesktopCache.AgreesOn, DesktopProperty.read] at hC hN
    simp only [DesktopProperty.atomName, getX11DesktopInfo, ← hs, if_neg h₀, if_neg hne₁,
      if_neg hne₂, if_true, hC, hN]

/-- The window manager, started on desktop 1, moves to desktop 2: refreshing the current desktop
alone gives what the cold start gives, which differs from the cache. -/
theorem getX11DesktopInfo_eq_cold_current :
    Reachable .little (oneNameServer 1 (by decide)) oneNameCache ∧
    (∀ q, q ≠ DesktopProperty.current →
      oneNameCache.AgreesOn .little (oneNameServer 1 (by decide)) q) ∧
    DesktopProperty.current.static oneNameCache.atoms ≠ None ∧
    (getX11DesktopInfo .little (oneNameServer 1 (by decide))
        ((oneNameServer 1 (by decide)).atoms.atom DesktopProperty.current.atomName)
        oneNameCache).desktop =
      (getX11DesktopInfo .little (oneNameServer 1 (by decide)) 0 oneNameCache).desktop ∧
    (getX11DesktopInfo .little (oneNameServer 1 (by decide)) 0 oneNameCache).desktop ≠
      oneNameCache.desktop := by
  have hc : Reachable .little (oneNameServer 1 (by decide)) oneNameCache :=
    .serverChange _ (.init _ _) fun _ _ => rfl
  have hagree : ∀ q, q ≠ DesktopProperty.current →
      oneNameCache.AgreesOn .little (oneNameServer 1 (by decide)) q := by
    rintro (_ | _ | _) hq
    · exact absurd rfl hq
    all_goals decide
  exact ⟨hc, hagree, by decide, getX11DesktopInfo_eq_cold .current hc hagree (by decide), by decide⟩

/-! ### A window manager renaming its desktops -/

/-- The window manager's request renaming its desktops `names`: `_NET_DESKTOP_NAMES` of the root
replaced by the list, as a `UTF8_STRING`. -/
def renameDesktops (srv : Server) (names : List (List Nat)) : Server :=
  xChangeProperty srv srv.root
    ⟨srv.atoms.atom ._NET_DESKTOP_NAMES, srv.atoms.atom .UTF8_STRING, 8, .PropModeReplace,
      desktopNamesValue names⟩

theorem desktopNamesValue_mod {names : List (List Nat)} (h : ∀ n ∈ names, ∀ b ∈ n, 0 < b ∧ b < 256) :
    (desktopNamesValue names).map (· % 2 ^ 8) = desktopNamesValue names := by
  refine (List.map_congr_left fun b hb => Nat.mod_eq_of_lt ?_).trans (List.map_id _)
  simp only [desktopNamesValue, List.mem_flatMap, List.mem_append, List.mem_singleton] at hb
  obtain ⟨n, hn, hb | rfl⟩ := hb
  · exact (h n hn b hb).2
  · decide

/-- A rename is read whole: from every reachable cache that tracks `_NET_DESKTOP_NAMES`, handling
the window manager's notification stores the new list and names the current desktop after its
entry in it, keeping the old name when it has none. An empty list is rejected, and the cache
stays as it was. -/
theorem Reachable.desktopNames_round_trip {o : Host} {srv : Server} {c : DesktopCache}
    (h : Reachable o srv c) (hroot : (srv.tree srv.root).isSome) (hnames : c.atoms.atom_names ≠ None)
    (hutf8 : srv.atoms.atom .UTF8_STRING ≠ None) {names : List (List Nat)}
    (hbytes : ∀ n ∈ names, ∀ b ∈ n, 0 < b ∧ b < 256)
    (hlength : (desktopNamesValue names).length ≤ 4 * longLengthAll) :
    getX11DesktopInfo o (renameDesktops srv names) c.atoms.atom_names c =
      if names = [] then c
      else { c with desktop := { c.desktop with
        all_names := desktopNamesValue names
        name := (if 0 < c.desktop.current then names[(c.desktop.current - 1).toNat]? else none).getD
          c.desktop.name } } := by
  obtain ⟨hsynced, hcur, hnum, hnam⟩ := h.invariant
  have hs : c.atoms.atom_names = srv.atoms.atom ._NET_DESKTOP_NAMES := hnam.resolve_left hnames
  have hne₁ := interned_ne hnam hcur (by decide) hnames
  have hne₂ := interned_ne hnam hnum (by decide) hnames
  -- the root's names property now holds the list, byte for byte
  have hvalue : ((renameDesktops srv names).property srv.root c.atoms.atom_names).map Property.value =
      some (srv.atoms.atom .UTF8_STRING, 8, desktopNamesValue names) := by
    rw [renameDesktops, xChangeProperty_property, if_pos ⟨hroot, rfl, hs⟩,
      PropertyChange.applyAt_replace (hs ▸ hnames) hutf8 (.inl rfl) rfl, PropertyChange.items,
      desktopNamesValue_mod hbytes]
  have hreply : xGetWindowProperty (renameDesktops srv names) srv.root c.atoms.atom_names
      longLengthAll (srv.atoms.atom .UTF8_STRING) =
        some ⟨srv.atoms.atom .UTF8_STRING, 8, desktopNamesValue names⟩ := by
    rw [xGetWindowProperty_of_value (by rwa [renameDesktops, xChangeProperty_tree]) hnames hvalue,
      Nat.div_one, List.take_of_length_le hlength]
  have hroot' : (renameDesktops srv names).root = srv.root := xChangeProperty_root _ _ _
  have hatoms : (renameDesktops srv names).atoms = srv.atoms := xChangeProperty_atoms _ _ _
  have h₀ : c.atoms.atom_names ≠ 0 := hnames
  simp only [getX11DesktopInfo, hroot', if_neg h₀, if_neg hne₁, if_neg hne₂, if_true,
    getX11DesktopNames, readDesktopProperty, if_neg hnames, hatoms, hreply]
  by_cases hnil : names = []
  · subst hnil
    simp only [desktopNamesValue, utf8Accepted, PropertyReply.nitems, List.flatMap_nil,
      List.length_nil, lt_irrefl, decide_False, Bool.and_false, Bool.false_and, Bool.false_eq_true,
      if_false, if_true]
    exact congrArg _ hsynced
  · obtain ⟨n, names', rfl⟩ := List.exists_cons_of_ne_nil hnil
    have hpos : 0 < (desktopNamesValue (n :: names')).length := by
      simp [desktopNamesValue]
    simp only [utf8Accepted, PropertyReply.nitems, beq_self_eq_true, hpos, decide_True,
      Bool.and_self, if_true, if_neg hnil, getX11DesktopCurrentName_eq, desktopName,
      nulEntries_desktopNamesValue fun n hn h0 => (lt_irrefl 0 (hbytes n hn 0 h0).1), entryAt]
    rw [if_congr (show 0 ≤ c.desktop.current - 1 ↔ 0 < c.desktop.current by omega) rfl rfl]

theorem Reachable.desktopNames_round_trip_oneNameCache :
    Reachable .little (oneNameServer 0 (by decide)) oneNameCache ∧
    ((oneNameServer 0 (by decide)).tree (oneNameServer 0 (by decide)).root).isSome ∧
    oneNameCache.atoms.atom_names ≠ None ∧
    (oneNameServer 0 (by decide)).atoms.atom .UTF8_STRING ≠ None ∧
    (∀ n ∈ [[66], [67, 68]], ∀ b ∈ n, 0 < b ∧ b < 256) ∧
    (desktopNamesValue [[66], [67, 68]]).length ≤ 4 * longLengthAll ∧
    getX11DesktopInfo .little (renameDesktops (oneNameServer 0 (by decide)) [[66], [67, 68]])
        oneNameCache.atoms.atom_names oneNameCache =
      if [[66], [67, 68]] = ([] : List (List Nat)) then oneNameCache
      else { oneNameCache with desktop := { oneNameCache.desktop with
        all_names := desktopNamesValue [[66], [67, 68]]
        name := (if 0 < oneNameCache.desktop.current then
            [[66], [67, 68]][(oneNameCache.desktop.current - 1).toNat]? else none).getD
          oneNameCache.desktop.name } } :=
  ⟨.init _ _, rfl, by decide, by decide, by decide, by decide,
    Reachable.desktopNames_round_trip
      (show Reachable .little (oneNameServer 0 (by decide)) oneNameCache from .init _ _) rfl
      (by decide) (by decide) (by decide) (by decide)⟩

end Conky.X11
