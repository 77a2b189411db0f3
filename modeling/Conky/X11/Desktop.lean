import Conky.X11.Server

/-!
# The desktop cache

`info.x11.desktop` caches, from three properties of the root window, the window manager's
current desktop (counted from 1), the number of desktops, the list of desktop names (each ended
by a NUL byte) and the name of the current desktop. `get_x11_desktop_info(display, 0)` interns
the three atoms, keeps them in static variables and reads all three properties; a later call
with the atom of a changed property re-reads that property only. The name of the current desktop
is derived again whenever the current desktop or the name list is read.

Each reader leaves its field alone when the request fails or the reply is not what it expects.
The derived name is the `current`-th NUL-terminated entry of the list when there is one, and is
left unchanged otherwise.
-/

namespace Conky.X11

/-- `info.x11.desktop`; strings are lists of bytes. -/
@[ext]
structure DesktopInfo where
  current : Int
  number : Int
  all_names : List Nat
  name : List Nat
  deriving DecidableEq, Repr

/-- The static atoms of `get_x11_desktop_info`. -/
structure DesktopAtoms where
  atom_current : Atom
  atom_number : Atom
  atom_names : Atom
  deriving DecidableEq, Repr

/-- What a call of `get_x11_desktop_info` reads and writes besides the server. -/
structure DesktopCache where
  atoms : DesktopAtoms
  desktop : DesktopInfo
  deriving DecidableEq, Repr

/-- `prop[0]` through an `unsigned char *`: the first byte of the reply's buffer. -/
def PropertyReply.firstByte (o : Host) (r : PropertyReply) : Nat :=
  ((r.prop o).bind List.head?).getD 0

/-- The shared body of the three readers of x11.cc: request the property `atom` of `root` as
`req_type` and, when `accept` holds of the reply, store it with `set`. -/
def readDesktopProperty (srv : Server) (root atom : Atom) (long_length : Nat) (req_type : Atom)
    (accept : PropertyReply → Bool) (set : DesktopInfo → PropertyReply → DesktopInfo)
    (d : DesktopInfo) : DesktopInfo :=
  if atom = None then d
  else
    match xGetWindowProperty srv root atom long_length req_type with
    | some r => if accept r then set d r else d
    | none => d

/-- The check of the two `CARDINAL` readers: one 32-bit `CARDINAL`. -/
def cardinalAccepted (r : PropertyReply) : Bool :=
  r.actual_type == XA_CARDINAL && r.nitems == 1 && r.actual_format == 32

/-- The check of `get_x11_desktop_names`: a nonempty string of 8-bit items of type `utf8`. -/
def utf8Accepted (utf8 : Atom) (r : PropertyReply) : Bool :=
  r.actual_type == utf8 && decide (0 < r.nitems) && r.actual_format == 8

/-- `get_x11_desktop_current`. -/
def getX11DesktopCurrent (o : Host) (srv : Server) (root atom : Atom) :
    DesktopInfo → DesktopInfo :=
  readDesktopProperty srv root atom 1 XA_CARDINAL cardinalAccepted
    fun d r => { d with current := r.firstByte o + 1 }

/-- `get_x11_desktop_number`. -/
def getX11DesktopNumber (o : Host) (srv : Server) (root atom : Atom) :
    DesktopInfo → DesktopInfo :=
  readDesktopProperty srv root atom 1 XA_CARDINAL cardinalAccepted
    fun d r => { d with number := r.firstByte o }

/-- `get_x11_desktop_names`; `ATOM(UTF8_STRING)` interns the atom if need be, which the server
state is taken after. -/
def getX11DesktopNames (srv : Server) (root atom : Atom) : DesktopInfo → DesktopInfo :=
  readDesktopProperty srv root atom longLengthAll (srv.atoms.atom .UTF8_STRING)
    (utf8Accepted (srv.atoms.atom .UTF8_STRING)) fun d r => { d with all_names := r.items }

/-- The reply a reader stores, if any. -/
def acceptedReply (srv : Server) (root atom : Atom) (long_length : Nat) (req_type : Atom)
    (accept : PropertyReply → Bool) : Option PropertyReply :=
  if atom = None then none else (xGetWindowProperty srv root atom long_length req_type).filter accept

theorem readDesktopProperty_eq (srv : Server) (root atom : Atom) (long_length : Nat)
    (req_type : Atom) (accept : PropertyReply → Bool) (set : DesktopInfo → PropertyReply → DesktopInfo)
    (d : DesktopInfo) : readDesktopProperty srv root atom long_length req_type accept set d =
      ((acceptedReply srv root atom long_length req_type accept).map (set d)).getD d := by
  unfold readDesktopProperty acceptedReply
  split_ifs
  · rfl
  · split <;> simp_all [Option.filter]
    split <;> rfl

theorem readDesktopProperty_of_fixed {srv : Server} {root atom root' atom' : Atom}
    {long_length long_length' : Nat} {req_type req_type' : Atom} {accept accept' : PropertyReply → Bool}
    {set set' : DesktopInfo → PropertyReply → DesktopInfo}
    (hcomm : ∀ d r r', set (set' d r') r = set' (set d r) r') {d : DesktopInfo}
    (hd : readDesktopProperty srv root atom long_length req_type accept set d = d) :
    readDesktopProperty srv root atom long_length req_type accept set
        (readDesktopProperty srv root' atom' long_length' req_type' accept' set' d) =
      readDesktopProperty srv root' atom' long_length' req_type' accept' set' d := by
  rw [readDesktopProperty_eq] at hd ⊢
  rw [readDesktopProperty_eq]
  cases ha : acceptedReply srv root atom long_length req_type accept <;>
    cases acceptedReply srv root' atom' long_length' req_type' accept' <;>
    simp only [ha, Option.map_some', Option.map_none', Option.getD_some, Option.getD_none] at hd ⊢
  · exact hd
  · rw [hcomm, hd]

/-- A reader changes nothing unless the request succeeds with a reply it accepts. -/
theorem readDesktopProperty_of_rejected {srv : Server} {root atom : Atom} {long_length : Nat}
    {req_type : Atom} {accept : PropertyReply → Bool} {set : DesktopInfo → PropertyReply → DesktopInfo}
    (h : ∀ r, xGetWindowProperty srv root atom long_length req_type = some r → accept r = false)
    (d : DesktopInfo) : readDesktopProperty srv root atom long_length req_type accept set d = d := by
  unfold readDesktopProperty
  split_ifs
  · rfl
  · split
    · rename_i r hr
      simp [h r hr]
    · rfl

@[simp]
theorem readDesktopProperty_none {srv : Server} {root : Atom} {long_length : Nat} {req_type : Atom}
    {accept : PropertyReply → Bool} {set : DesktopInfo → PropertyReply → DesktopInfo} (d : DesktopInfo) :
    readDesktopProperty srv root None long_length req_type accept set d = d := by
  simp [readDesktopProperty]

/-- `prop[0]` of a reply of format 32: the low byte of the first item's `long` on a little-endian
host and its high byte on a big-endian one, which is 0 for an item below `2^31` in an 8-byte
`long`. -/
theorem firstByte_format32 (o : Host) {type v : Nat} (items : List Nat) (htype : type ≠ None)
    (hv : v < 2 ^ 31) : PropertyReply.firstByte o ⟨type, 32, v :: items⟩ =
      match o.endian with
      | .little => v % 256
      | .big => if o.lp64 then 0 else v / 2 ^ 24 := by
  have hlong : xlibLong v = v := if_pos hv
  obtain ⟨endian, lp64⟩ := o
  cases endian <;> cases lp64 <;>
    simp [PropertyReply.firstByte, PropertyReply.prop, longBytesOf, htype, bytesOf, hlong,
      List.range_succ_eq_map, List.range_succ] <;> omega

/-- The two `CARDINAL` readers on a well-formed property of one item `v`: they store what
`prop[0]` reads of it. -/
theorem getX11DesktopCurrent_of_cardinal {o : Host} {srv : Server} {root atom v : Nat}
    {p : Property} (hroot : (srv.tree root).isSome) (hatom : atom ≠ None)
    (hp : srv.property root atom = some p) (hshape : p.type = XA_CARDINAL ∧ p.format = 32 ∧ p.items = [v])
    (d : DesktopInfo) :
    getX11DesktopCurrent o srv root atom d =
        { d with current := PropertyReply.firstByte o ⟨XA_CARDINAL, 32, [v]⟩ + 1 } ∧
      getX11DesktopNumber o srv root atom d =
        { d with number := PropertyReply.firstByte o ⟨XA_CARDINAL, 32, [v]⟩ } := by
  obtain ⟨htype, hformat, hitems⟩ := hshape
  have hreply : xGetWindowProperty srv root atom 1 XA_CARDINAL = some ⟨XA_CARDINAL, 32, [v]⟩ := by
    rw [← htype, xGetWindowProperty_of_property hroot hatom hp (by simp [hitems, hformat]), htype,
      hformat, hitems]
  constructor <;> simp [getX11DesktopCurrent, getX11DesktopNumber, readDesktopProperty, hatom, hreply,
    cardinalAccepted, PropertyReply.nitems]

/-- `names.c_str() + j`: the bytes from `j` up to the first NUL. -/
def cString (s : List Nat) : List Nat := s.takeWhile (· ≠ 0)

/-- The loop of `get_x11_desktop_current_name` at byte `i` (`rest` is `names` from `i` on): `j`
is where the entry being read starts and `k` counts the NULs passed; the name is assigned at the
`current`-th NUL and the loop left. -/
def currentNameLoop (names : List Nat) (current : Int) (name : List Nat) :
    List Nat → Nat → Nat → Int → List Nat
  | [], _, _, _ => name
  | c :: rest, i, j, k =>
    if c = 0 then
      if k + 1 = current then cString (names.drop j)
      else currentNameLoop names current name rest (i + 1) (i + 1) (k + 1)
    else currentNameLoop names current name rest (i + 1) j k

/-- `get_x11_desktop_current_name(names)`. -/
def getX11DesktopCurrentName (names : List Nat) (d : DesktopInfo) : DesktopInfo :=
  { d with name := currentNameLoop names d.current d.name names 0 0 0 }

/-- The NUL-terminated entries of `rest`, the first of which starts with `pre`; a last entry
without its NUL is not one. -/
def nulEntriesFrom (pre : List Nat) : List Nat → List (List Nat)
  | [] => []
  | c :: rest => if c = 0 then pre :: nulEntriesFrom [] rest else nulEntriesFrom (pre ++ [c]) rest

/-- The entries of a name list: the bytes before each NUL, back to the previous one. -/
def nulEntries (names : List Nat) : List (List Nat) := nulEntriesFrom [] names

/-- The entry at an `int` index, none for a negative one. -/
def entryAt (entries : List (List Nat)) (n : Int) : Option (List Nat) :=
  if 0 ≤ n then entries[n.toNat]? else none

/-- The name of desktop `current` (counted from 1) in a name list, if the list has one. -/
def desktopName (names : List Nat) (current : Int) : Option (List Nat) :=
  entryAt (nulEntries names) (current - 1)

theorem entryAt_cons (e : List Nat) (entries : List (List Nat)) (n : Int) :
    entryAt (e :: entries) n = if n = 0 then some e else entryAt entries (n - 1) := by
  unfold entryAt
  by_cases h0 : n = 0
  · simp [h0]
  · by_cases hn : 0 ≤ n
    · rw [if_neg h0, if_pos hn, if_pos (by omega), show n.toNat = (n - 1).toNat + 1 by omega,
        List.getElem?_cons_succ]
    · rw [if_neg h0, if_neg hn, if_neg (by omega)]

theorem cString_append_nul {pre rest : List Nat} (hpre : 0 ∉ pre) :
    cString (pre ++ 0 :: rest) = pre := by
  induction pre with
  | nil => simp [cString]
  | cons c pre ih =>
    simp only [List.mem_cons, not_or] at hpre
    simp [cString, List.takeWhile, Ne.symm hpre.1] at ih ⊢
    exact ih hpre.2

theorem currentNameLoop_eq (names : List Nat) (current : Int) (name : List Nat) :
    ∀ (rest : List Nat) (i j : Nat) (k : Int) (pre : List Nat), names.drop i = rest →
      names.drop j = pre ++ rest → 0 ∉ pre →
      currentNameLoop names current name rest i j k =
        (entryAt (nulEntriesFrom pre rest) (current - k - 1)).getD name := by
  intro rest
  induction rest with
  | nil => intro i j k pre _ _ _; simp [currentNameLoop, nulEntriesFrom, entryAt]
  | cons c rest ih =>
    intro i j k pre hi hj hpre
    have hi' : names.drop (i + 1) = rest := by
      rw [← List.drop_drop, hi]; rfl
    by_cases hc : c = 0
    · subst hc
      simp only [currentNameLoop, nulEntriesFrom, if_true, entryAt_cons]
      by_cases hk : k + 1 = current
      · rw [if_pos hk, if_pos (by omega), hj, cString_append_nul hpre]; rfl
      · rw [if_neg hk, if_neg (by omega), ih (i + 1) (i + 1) (k + 1) [] hi' (by simpa using hi')
          (List.not_mem_nil 0)]
        congr 2
        omega
    · simp only [currentNameLoop, nulEntriesFrom, if_neg hc]
      exact ih (i + 1) j k (pre ++ [c]) hi' (by simpa using hj) (by simp [hpre, Ne.symm hc])

/-- The derived name is the entry of the current desktop when the list has one, and stays as it
was otherwise. -/
theorem getX11DesktopCurrentName_eq (names : List Nat) (d : DesktopInfo) :
    getX11DesktopCurrentName names d = { d with name := (desktopName names d.current).getD d.name } := by
  rw [getX11DesktopCurrentName, currentNameLoop_eq names d.current d.name names 0 0 0 [] rfl rfl
    (List.not_mem_nil 0)]
  simp [desktopName, nulEntries]

@[simp]
theorem getX11DesktopCurrentName_current (names : List Nat) (d : DesktopInfo) :
    (getX11DesktopCurrentName names d).current = d.current := rfl

@[simp]
theorem getX11DesktopCurrentName_number (names : List Nat) (d : DesktopInfo) :
    (getX11DesktopCurrentName names d).number = d.number := rfl

@[simp]
theorem getX11DesktopCurrentName_all_names (names : List Nat) (d : DesktopInfo) :
    (getX11DesktopCurrentName names d).all_names = d.all_names := rfl

theorem getX11DesktopCurrentName_idem (names : List Nat) (d : DesktopInfo) :
    getX11DesktopCurrentName names (getX11DesktopCurrentName names d) =
      getX11DesktopCurrentName names d := by
  simp only [getX11DesktopCurrentName_eq]
  cases desktopName names d.current <;> rfl

theorem getX11DesktopCurrentName_number_update (names : List Nat) (d : DesktopInfo) (n : Int) :
    getX11DesktopCurrentName names { d with number := n } =
      { getX11DesktopCurrentName names d with number := n } := rfl

/-- A name list split at its NUL bytes, where a trailing NUL (or the
empty list) starts no extra, empty element. -/
def nulSplit (names : List Nat) : List (List Nat) :=
  let parts := names.splitOn 0
  if parts.getLast? = some [] then parts.dropLast else parts

theorem nulEntriesFrom_eq (pre rest : List Nat) :
    nulEntriesFrom pre rest = ((rest.splitOn 0).modifyHead (pre ++ ·)).dropLast := by
  induction rest generalizing pre with
  | nil => rfl
  | cons c rest ih =>
    by_cases hc : c = 0
    · subst hc
      simp only [nulEntriesFrom, if_true, ih, List.splitOn, List.splitOnP_cons, beq_self_eq_true,
        List.modifyHead_cons, List.append_nil, List.nil_append]
      rw [List.dropLast_cons_of_ne_nil (List.splitOnP_ne_nil _ _)]
      exact congrArg _ (congrArg List.dropLast (congrFun List.modifyHead_id _))
    · simp only [nulEntriesFrom, if_neg hc, ih, List.splitOn, List.splitOnP_cons,
        beq_iff_eq, hc, if_false, List.modifyHead_modifyHead, Function.comp_def, List.append_assoc,
        List.singleton_append]

/-- The entries the code counts are the parts of the list split at its NULs but the last: a name
after the last NUL is never an entry. -/
theorem nulEntries_eq_dropLast (names : List Nat) : nulEntries names = (names.splitOn 0).dropLast :=
  (nulEntriesFrom_eq [] names).trans (congrArg List.dropLast (congrFun List.modifyHead_id _))

/-- The value a window manager gives `_NET_DESKTOP_NAMES`, each name
followed by a NUL. -/
def desktopNamesValue (names : List (List Nat)) : List Nat := names.flatMap (· ++ [0])

theorem nulEntriesFrom_append {pre n : List Nat} (hn : 0 ∉ n) (rest : List Nat) :
    nulEntriesFrom pre (n ++ 0 :: rest) = (pre ++ n) :: nulEntriesFrom [] rest := by
  induction n generalizing pre with
  | nil => simp [nulEntriesFrom]
  | cons c n ih =>
    simp only [List.mem_cons, not_or] at hn
    rw [List.cons_append, nulEntriesFrom, if_neg (Ne.symm hn.1), ih hn.2, List.append_assoc,
      List.singleton_append]

theorem nulEntries_desktopNamesValue {names : List (List Nat)} (h : ∀ n ∈ names, 0 ∉ n) :
    nulEntries (desktopNamesValue names) = names := by
  induction names with
  | nil => rfl
  | cons n names ih =>
    rw [List.forall_mem_cons] at h
    rw [desktopNamesValue, List.flatMap_cons, List.append_assoc, List.singleton_append, nulEntries,
      nulEntriesFrom_append h.1, List.nil_append, ← nulEntries, ← desktopNamesValue, ih h.2]

/-- `get_x11_desktop_current_name` reads the name list as its parts between NULs, the part after
the last NUL dropped: desktop `current` (counted from 1) gets the `current`-th part when there is
one, and the name stays as it was otherwise. -/
theorem getX11DesktopCurrentName_splitOn (names : List Nat) (d : DesktopInfo) :
    getX11DesktopCurrentName names d =
      { d with name := (if 0 < d.current then ((names.splitOn 0).dropLast)[(d.current - 1).toNat]?
          else none).getD d.name } := by
  rw [getX11DesktopCurrentName_eq, desktopName, nulEntries_eq_dropLast, entryAt]
  congr 2
  exact if_congr (by omega) rfl rfl

/-- A list whose last name has no NUL: its split names desktop 2 "B", and deriving the name of
desktop 2 keeps the name it had. -/
theorem currentName_unterminated :
    nulSplit [65, 0, 66] = [[65], [66]] ∧
      (getX11DesktopCurrentName [65, 0, 66] ⟨2, 2, [65, 0, 66], [65]⟩).name = [65] := by
  decide

/-- `get_x11_desktop_info(display, atom)`: with `atom = 0`, intern the three atoms and read every
property; otherwise re-read the property whose static atom `atom` is, if any. -/
def getX11DesktopInfo (o : Host) (srv : Server) (atom : Atom) (c : DesktopCache) :
    DesktopCache :=
  let root := srv.root
  if atom = 0 then
    let atoms : DesktopAtoms := ⟨srv.atoms.atom ._NET_CURRENT_DESKTOP,
      srv.atoms.atom ._NET_NUMBER_OF_DESKTOPS, srv.atoms.atom ._NET_DESKTOP_NAMES⟩
    let d := getX11DesktopCurrent o srv root atoms.atom_current c.desktop
    let d := getX11DesktopNumber o srv root atoms.atom_number d
    let d := getX11DesktopNames srv root atoms.atom_names d
    ⟨atoms, getX11DesktopCurrentName d.all_names d⟩
  else if atom = c.atoms.atom_current then
    let d := getX11DesktopCurrent o srv root c.atoms.atom_current c.desktop
    ⟨c.atoms, getX11DesktopCurrentName d.all_names d⟩
  else if atom = c.atoms.atom_number then
    ⟨c.atoms, getX11DesktopNumber o srv root c.atoms.atom_number c.desktop⟩
  else if atom = c.atoms.atom_names then
    let d := getX11DesktopNames srv root c.atoms.atom_names c.desktop
    ⟨c.atoms, getX11DesktopCurrentName d.all_names d⟩
  else c

/-- The desktop part of `init_x11`: reset the cache, then refresh it from scratch. -/
def initX11 (o : Host) (srv : Server) (c : DesktopCache) : DesktopCache :=
  getX11DesktopInfo o srv 0 { c with desktop := ⟨1, 1, [], []⟩ }

end Conky.X11
