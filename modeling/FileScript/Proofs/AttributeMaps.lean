import FileScript.Proofs.Numbers
import FileScript.Proofs.OpenDirectories
import FileScript.Proofs.XattrRequests

/-!
# Extended attributes as maps

Every inode has a map from names to values, and this map goes where the inode goes. The maps of all
inodes are followed along a history as plain functions.

1. `AttributeMaps.step`: a request that sets or removes an attribute and is carried out changes one
   value of one map, and nothing else changes any.
2. `Store.Carries.request`: the attributes of the inodes are these maps before and after each
   request. What has no number yet has an empty map, so what is made begins with one.
3. `Store.after_eq_iff`: a map holds what the last request about a name left there.
4. `Store.mapsAttributes_after_new`: the requests on attributes read and change these maps.
-/

namespace FileScript

/-- The path of what a request makes if nothing is there. -/
def Operation.makes? : Operation → Option String
  | openFile path _ | create path _ | mkdir path _ => some path
  | _ => none

/-- The values of attributes by the numbers of inodes and the names of the attributes. -/
abbrev AttributeMaps := Nat → String → Option ByteArray

namespace AttributeMaps

/-- The maps after an attribute of what is at a path got a value, or lost it. -/
def mark (m : AttributeMaps) (s : Store) (path name : String) (value : Option ByteArray) :
    AttributeMaps := fun ino key =>
  if s.names[Path.normalize path]? = some ino ∧ name = key then value else m ino key

/-- The maps after a request to the store `s` that ended with a result. -/
def step (m : AttributeMaps) (s : Store) : Operation → Except Errno Answer → AttributeMaps
  | .setXattr path name value _, .ok _ => m.mark s path name (some value)
  | .removeXattr path name, .ok _ => m.mark s path name none
  | _, _ => m

/-- The maps after a history of the store `s`. -/
def after (m : AttributeMaps) (s : Store) : List (Timespec × Operation) → AttributeMaps
  | [] => m
  | (now, op) :: history =>
    (m.step s op (s.request now op).1).after (s.request now op).2 history

theorem step_error (m : AttributeMaps) (s : Store) (op : Operation) (e : Errno) :
    m.step s op (.error e) = m := by
  unfold step
  split <;> first | rfl | simp_all

theorem step_of_marks?_eq_none (m : AttributeMaps) (s : Store) {op : Operation}
    (h : op.marks? = none) (result : Except Errno Answer) : m.step s op result = m := by
  unfold step
  split <;> first | rfl | cases h

theorem mark_of_named (m : AttributeMaps) {s : Store} {path : String} {ino : Nat}
    (h : s.names[Path.normalize path]? = some ino) (name : String) (value : Option ByteArray)
    (key : String) : m.mark s path name value ino key = if name = key then value else m ino key :=
  if_congr (and_iff_right h) rfl rfl

/-- Maps of other inodes are left alone. -/
theorem mark_of_elsewhere (m : AttributeMaps) {s : Store} {path : String} {ino : Nat}
    (h : s.names[Path.normalize path]? ≠ some ino) (name : String) (value : Option ByteArray) :
    m.mark s path name value ino = m ino :=
  funext fun _ => if_neg fun hmarked => h hmarked.1

theorem step_of_elsewhere (m : AttributeMaps) {s : Store} {op : Operation} {ino : Nat}
    (h : ∀ path, op.marks? = some path → s.names[Path.normalize path]? ≠ some ino)
    (result : Except Errno Answer) : m.step s op result ino = m ino := by
  unfold step
  split
  · exact m.mark_of_elsewhere (h _ rfl) _ _
  · exact m.mark_of_elsewhere (h _ rfl) _ _
  · rfl

end AttributeMaps

namespace Store

variable {s t : Store} {now : Timespec} {op : Operation} {m : AttributeMaps}

/-! ## The maps of a store -/

/-- The attributes of the inodes are the maps `m`, which are empty where there is no inode yet. -/
structure Carries (s : Store) (m : AttributeMaps) : Prop where
  maps : s.Each fun ino i => ∀ name, i.xattrs[name]? = m ino name
  fresh : ∀ ⦃ino⦄, s.nextInode ≤ ino → ∀ name, m ino name = none

theorem lasting_maps (m : AttributeMaps) :
    Lasting fun ino i => ∀ name, i.xattrs[name]? = m ino name := by
  intro ino i j hi _ hxattrs name
  rw [hxattrs]
  exact hi name

theorem carries_new (now : Timespec) (uid gid : Nat) :
    (Store.new now uid gid).Carries fun _ _ => none where
  maps := each_new now uid gid fun _ => rfl
  fresh _ _ _ := rfl

namespace Carries

theorem contains_eq (h : s.Carries m) {ino : Nat} {i : Inode} (hi : s.inodes[ino]? = some i)
    (name : String) : i.xattrs.contains name = (m ino name).isSome := by
  rw [← h.maps hi, Std.TreeMap.contains_eq_isSome_getElem?]

/-- Setting or removing an attribute of an inode updates its map, and no other. -/
theorem mark (h : s.Carries m) (hs : s.Sound) {path name : String} {ino : Nat} {old new : Inode}
    {value : Option ByteArray} (hino : s.names[Path.normalize path]? = some ino)
    (hold : s.inodes[ino]? = some old)
    (hnew : ∀ key, new.xattrs[key]? = if name = key then value else old.xattrs[key]?) :
    (s.setInode ino new).Carries (m.mark s path name value) where
  maps other j hj key := by
    simp only [setInode, Std.TreeMap.getElem?_insert, compare_eq_iff_eq] at hj
    split at hj
    · next he =>
      cases he
      cases hj
      rw [m.mark_of_named hino, hnew, h.maps hold]
    · next hne =>
      rw [m.mark_of_elsewhere fun hother => hne (Option.some.inj (hino.symm.trans hother))]
      exact h.maps hj key
  fresh other hle key := by
    have hlt : ino < s.nextInode := hs.inode_lt (profile_of_inode hold)
    rw [m.mark_of_elsewhere fun hother =>
      (hlt.trans_le hle).ne (Option.some.inj (hino.symm.trans hother))]
    exact h.fresh hle key

theorem request_of_marks?_eq_none (h : s.Carries m) (hs : s.Consistent) (now : Timespec)
    (hmarks : op.marks? = none) : (s.request now op).2.Carries m := by
  refine ⟨Each.of_effect h.maps (lasting_maps m) ?made ?described (request_effect hs now op),
    fun ino hle => ?fresh⟩
  case made =>
    intro node mode name
    rw [h.fresh le_rfl]
    rfl
  case described =>
    intro ino old new hold _ hxattrs name
    rw [hxattrs hmarks]
    exact h.maps hold name
  case fresh => exact h.fresh ((hs.request_descends now op).nextInode_le.trans hle)

/-- An attribute that is set or removed is one of an inode that is there. -/
theorem request_of_marks (h : s.Carries m) (hs : s.Consistent) {path : String}
    (hmarks : op.marks? = some path) {answer : Answer}
    (hrequest : s.request now op = (.ok answer, t)) : t.Carries (m.step s op (.ok answer)) := by
  cases hino : s.names[Path.normalize path]? with
  | none => exact (good_of_request (marks_refused hmarks hino) hrequest).elim
  | some ino =>
    obtain ⟨i, hi, -⟩ := hs.inode_of_named hino
    cases op with
    | setXattr path name value flags =>
      cases hmarks
      have hends : Ends ((Operation.setXattr path name value flags).perform now) s _ _ :=
        ends_done (setXattr_ends hino hi value flags)
      obtain ⟨-, -, rfl⟩ := good_of_request hends hrequest
      refine h.mark hs.toSound hino hi fun key => ?_
      simp [Std.TreeMap.getElem?_insert]
    | removeXattr path name =>
      cases hmarks
      have hends : Ends ((Operation.removeXattr path name).perform now) s _ _ :=
        ends_done (removeXattr_ends hino hi)
      obtain ⟨-, -, rfl⟩ := good_of_request hends hrequest
      refine h.mark hs.toSound hino hi fun key => ?_
      simp [Std.TreeMap.getElem?_erase]
    | _ => cases hmarks

/-- The maps go on with every request, whether it is carried out or refused. -/
theorem request (h : s.Carries m) (hs : s.Consistent) (now : Timespec) (op : Operation) :
    (s.request now op).2.Carries (m.step s op (s.request now op).1) := by
  cases hmarks : op.marks? with
  | none =>
    rw [m.step_of_marks?_eq_none s hmarks]
    exact h.request_of_marks?_eq_none hs now hmarks
  | some path =>
    obtain ⟨result, t, hrequest⟩ : ∃ result t, s.request now op = (result, t) := ⟨_, _, rfl⟩
    rw [hrequest]
    cases result with
    | error e =>
      rw [eq_of_request_error hs hrequest, m.step_error]
      exact h
    | ok answer => exact h.request_of_marks hs hmarks hrequest

theorem after (h : s.Carries m) (hs : s.Consistent) (history : List (Timespec × Operation)) :
    (s.after history).Carries (m.after s history) := by
  induction history generalizing s m with
  | nil => exact h
  | cons step history ih => exact ih (h.request hs step.1 step.2) (hs.request step.1 step.2)

end Carries

/-! ## What is asked and made -/

/-- A request is carried out. -/
def CarriesOut (s : Store) (now : Timespec) (op : Operation) : Prop :=
  ∃ answer, (s.request now op).1 = .ok answer

theorem carriesOut_iff {good : Answer → Store → Prop} {bad : Errno → Store → Prop} {p : Prop}
    (h : Ends (op.perform now) s good bad) (hgood : ∀ answer t, good answer t → p)
    (hbad : ∀ e t, bad e t → ¬ p) : s.CarriesOut now op ↔ p := by
  obtain ⟨answer, t, heq, ht⟩ | ⟨e, t, heq, ht⟩ := request_cases h
  · exact iff_of_true ⟨answer, congrArg _ heq⟩ (hgood answer t ht)
  · refine iff_of_false ?_ (hbad e t ht)
    rintro ⟨answer, hok⟩
    cases (congrArg Prod.fst heq).symm.trans hok

/-- The attributes of the inodes are the maps `m`: requests read the maps, and change them where
they are made to. -/
structure MapsAttributes (s : Store) (m : AttributeMaps) : Prop where
  maps : ∀ ⦃ino : Nat⦄ ⦃i : Inode⦄, s.inodes[ino]? = some i → ∀ name, i.xattrs[name]? = m ino name
  read_missing : ∀ ⦃path name : String⦄ ⦃ino : Nat⦄, s.names[Path.normalize path]? = some ino →
    m ino name = none → ∀ now buffer,
      s.request now (.getXattr path name buffer) = (.error .noData, s)
  read_size : ∀ ⦃path name : String⦄ ⦃ino : Nat⦄ ⦃value : ByteArray⦄,
    s.names[Path.normalize path]? = some ino → m ino name = some value → ∀ now,
      s.request now (.getXattr path name .empty) = (.ok (.filled value.size .empty), s)
  read_short : ∀ ⦃path name : String⦄ ⦃ino : Nat⦄ ⦃value buffer : ByteArray⦄,
    s.names[Path.normalize path]? = some ino → m ino name = some value → 0 < buffer.size →
      buffer.size < value.size → ∀ now,
        s.request now (.getXattr path name buffer) = (.error .outOfRange, s)
  read_value : ∀ ⦃path name : String⦄ ⦃ino : Nat⦄ ⦃value buffer : ByteArray⦄,
    s.names[Path.normalize path]? = some ino → m ino name = some value →
      value.size ≤ buffer.size → ∀ now, ∃ filled,
        s.request now (.getXattr path name buffer) = (.ok (.filled value.size filled), s) ∧
        filled.size = buffer.size ∧ filled.extract 0 value.size = value ∧
        filled.extract value.size filled.size = buffer.extract value.size buffer.size
  set_iff : ∀ ⦃path name : String⦄ ⦃ino : Nat⦄, s.names[Path.normalize path]? = some ino →
    IsAttributeName name → ∀ now value (flags : XattrFlags),
      s.CarriesOut now (.setXattr path name value flags) ↔
        flags.bits = 0 ∨ (flags.bits = 1 ∧ m ino name = none) ∨
          (flags.bits = 2 ∧ m ino name ≠ none)
  remove_iff : ∀ ⦃path name : String⦄ ⦃ino : Nat⦄, s.names[Path.normalize path]? = some ino →
    ∀ now, s.CarriesOut now (.removeXattr path name) ↔ m ino name ≠ none
  /-- An inode keeps its attributes when it is not at the path of which a request sets or removes
  one: under every other request, and under those that are made of another inode. -/
  kept : ∀ ⦃ino : Nat⦄ ⦃i j : Inode⦄ ⦃now : Timespec⦄ ⦃op : Operation⦄,
    s.inodes[ino]? = some i → (s.request now op).2.inodes[ino]? = some j →
      (∀ path, op.marks? = some path → s.names[Path.normalize path]? ≠ some ino) →
        ∀ name : String, j.xattrs[name]? = i.xattrs[name]?
  /-- What is made at a path has no attributes, whatever had this path before. -/
  made : ∀ ⦃path : String⦄ ⦃now : Timespec⦄ ⦃op : Operation⦄, op.makes? = some path →
    s.names[Path.normalize path]? = none → s.CarriesOut now op →
      ∃ (ino : Nat) (i : Inode), (s.request now op).2.names[Path.normalize path]? = some ino ∧
        (s.request now op).2.inodes[ino]? = some i ∧ ∀ name : String, i.xattrs[name]? = none

/-- What is made at a path gets a number that nothing has yet. -/
theorem makes_ends (hs : s.Consistent) {path : String} (hmakes : op.makes? = some path)
    (hfree : s.names[Path.normalize path]? = none) :
    Ends (op.perform now) s (fun _ t => t.names[Path.normalize path]? = some s.nextInode)
      fun _ _ => True := by
  have hlink : ∀ node mode, (s.link now (Path.normalize path) node mode).names[
      Path.normalize path]? = some s.nextInode := by
    intro node mode
    rw [getElem?_names_link, if_pos rfl]
  cases op with
  | openFile path flags =>
    cases hmakes
    refine Ends.map_iff.mpr ((openFile_ends hs path flags).mono ?_ fun _ _ _ => trivial)
    rintro handle t ⟨mid, ino, i, hloc, -, -, heq⟩
    have hnames : t.names = mid.names :=
      (congrArg (fun p => p.2.names) heq.symm).trans (names_prepared flags ino i)
    cases hloc with
    | found hino => cases hfree.symm.trans hino
    | made => rw [hnames, hlink]
  | create path mode =>
    cases hmakes
    refine Ends.map_iff.mpr ((create_ends path mode).mono ?_ fun _ _ _ => trivial)
    rintro handle t ⟨-, -, heq⟩
    rw [← hlink (.file .empty) mode]
    exact congrArg (fun p => p.2.names[Path.normalize path]?) heq.symm
  | mkdir path mode =>
    cases hmakes
    refine Ends.bind_iff.mpr (Ends.bind_iff.mpr
      ((insertNode_ends _ _ _).mono ?_ fun _ _ _ => trivial))
    rintro ino t ⟨-, rfl, -⟩
    exact hlink .directory mode
  | _ => cases hmakes

/-- What is told about an attribute that has a value, or none, into a buffer. -/
def told : Option ByteArray → ByteArray → Except Errno Answer
  | none, _ => .error .noData
  | some value, buffer => (copyOut value buffer).map fun copied => .filled copied.1 copied.2

/-- An attribute is read from the map of the inode that a path names. -/
theorem Carries.request_getXattr (h : s.Carries m) (hs : s.Consistent) {path : String} {ino : Nat}
    (hino : s.names[Path.normalize path]? = some ino) (now : Timespec) (name : String)
    (buffer : ByteArray) :
    s.request now (.getXattr path name buffer) = (told (m ino name) buffer, s) := by
  obtain ⟨i, hi, -⟩ := hs.inode_of_named hino
  have hends : Ends ((Operation.getXattr path name buffer).perform now) s
      (fun answer t => t = s ∧ told (m ino name) buffer = .ok answer)
      fun e t => t = s ∧ told (m ino name) buffer = .error e := by
    rw [← h.maps hi name]
    refine Ends.bind_iff.mpr ((getXattr_ends hino hi buffer).mono ?_ ?_)
    · rintro result t ⟨rfl, value, hvalue, hcopy⟩
      refine ⟨rfl, ?_⟩
      rw [hvalue, told, hcopy]
      rfl
    · rintro e t ⟨rfl, ⟨hnone, rfl⟩ | ⟨value, hvalue, hcopy⟩⟩
      · exact ⟨rfl, by rw [hnone, told]⟩
      · refine ⟨rfl, ?_⟩
        rw [hvalue, told, hcopy]
        rfl
  obtain ⟨answer, t, heq, rfl, htold⟩ | ⟨e, t, heq, rfl, htold⟩ := request_cases hends <;>
    rw [heq, htold]

theorem told_of_lt {value buffer : ByteArray} (hsome : 0 < buffer.size)
    (hshort : buffer.size < value.size) : told (some value) buffer = .error .outOfRange := by
  rw [told, copyOut, if_neg hsome.ne', if_pos hshort]
  rfl

theorem told_of_le {value buffer : ByteArray} (hfits : value.size ≤ buffer.size) :
    ∃ filled, told (some value) buffer = .ok (.filled value.size filled) ∧
      filled.size = buffer.size ∧ filled.extract 0 value.size = value ∧
      filled.extract value.size filled.size = buffer.extract value.size buffer.size := by
  obtain ⟨filled, hcopy, hfilled⟩ := copyOut_of_size_le hfits
  refine ⟨filled, ?_, hfilled⟩
  rw [told, hcopy]
  rfl

theorem Carries.mapsAttributes (h : s.Carries m) (hs : s.Consistent) : s.MapsAttributes m := by
  refine ⟨h.maps, ?missing, ?size, ?short, ?value, ?set, ?remove, ?kept, ?made⟩
  case missing =>
    intro path name ino hino hnone now buffer
    rw [h.request_getXattr hs hino, hnone, told]
  case size =>
    intro path name ino value hino hvalue now
    rw [h.request_getXattr hs hino, hvalue]
    rfl
  case short =>
    intro path name ino value buffer hino hvalue hsome hshort now
    rw [h.request_getXattr hs hino, hvalue, told_of_lt hsome hshort]
  case value =>
    intro path name ino value buffer hino hvalue hfits now
    obtain ⟨filled, htold, hfilled⟩ := told_of_le hfits
    exact ⟨filled, by rw [h.request_getXattr hs hino, hvalue, htold], hfilled⟩
  case set =>
    intro path name ino hino hname now value flags
    obtain ⟨i, hi, -⟩ := hs.inode_of_named hino
    have hends : Ends ((Operation.setXattr path name value flags).perform now) s _ _ :=
      ends_done (setXattr_ends hino hi value flags)
    rw [carriesOut_iff hends (fun _ _ ht => ht.2.1) fun _ _ ht => ht.2, and_iff_right hname,
      h.contains_eq hi, XattrFlags.Admits, Option.isSome_eq_false_iff, Option.isNone_iff_eq_none,
      Option.isSome_iff_ne_none]
  case remove =>
    intro path name ino hino now
    obtain ⟨i, hi, -⟩ := hs.inode_of_named hino
    have hends : Ends ((Operation.removeXattr path name).perform now) s _ _ :=
      ends_done (removeXattr_ends hino hi)
    rw [carriesOut_iff hends (fun _ _ ht => ht.2.1) fun _ _ ht => Bool.not_eq_true _ ▸ ht.2,
      h.contains_eq hi, Option.isSome_iff_ne_none]
  case kept =>
    intro ino i j now op hi hj hother name
    rw [(h.request hs now op).maps hj, m.step_of_elsewhere hother, h.maps hi]
  case made =>
    rintro path now op hmakes hfree ⟨answer, hdone⟩
    have hrequest : s.request now op = (.ok answer, (s.request now op).2) := Prod.ext hdone rfl
    have hnamed := good_of_request (makes_ends hs hmakes hfree) hrequest
    obtain ⟨i, hi, -⟩ := (hs.request now op).inode_of_named hnamed
    have hmarks : op.marks? = none := by cases op <;> first | rfl | cases hmakes
    refine ⟨s.nextInode, i, hnamed, hi, fun name => ?_⟩
    rw [(h.request hs now op).maps hi, m.step_of_marks?_eq_none s hmarks, h.fresh le_rfl]

/-! ## The last request about an attribute -/

/-- A request that the store carries out sets the attribute `name` of the inode `ino` to a value, or
takes it away, by whatever path it names the inode. -/
inductive Marks (s : Store) (now : Timespec) (ino : Nat) (name : String) :
    Operation → Option ByteArray → Prop
  | set {path : String} {value : ByteArray} {flags : XattrFlags}
      (hino : s.names[Path.normalize path]? = some ino)
      (hdone : s.CarriesOut now (.setXattr path name value flags)) :
      Marks s now ino name (.setXattr path name value flags) (some value)
  | remove {path : String} (hino : s.names[Path.normalize path]? = some ino)
      (hdone : s.CarriesOut now (.removeXattr path name)) :
      Marks s now ino name (.removeXattr path name) none

/-- No request of a history is carried out that sets or takes away the attribute. -/
def Unmarked (s : Store) (ino : Nat) (name : String) : List (Timespec × Operation) → Prop
  | [] => True
  | (now, op) :: history =>
    (∀ value, ¬ s.Marks now ino name op value) ∧ (s.request now op).2.Unmarked ino name history

/-- Of the requests of a history that are carried out and set or take away the attribute, the last
one leaves it with this value. -/
def LastMarked (s : Store) (history : List (Timespec × Operation)) (ino : Nat) (name : String)
    (value : Option ByteArray) : Prop :=
  ∃ before now op rest, history = before ++ (now, op) :: rest ∧
    (s.after before).Marks now ino name op value ∧
    ((s.after before).request now op).2.Unmarked ino name rest

section Marks

variable {ino : Nat} {name : String} {value : Option ByteArray}
  {history : List (Timespec × Operation)}

theorem lastMarked_cons : s.LastMarked ((now, op) :: history) ino name value ↔
    (s.request now op).2.LastMarked history ino name value ∨
      s.Marks now ino name op value ∧ (s.request now op).2.Unmarked ino name history := by
  constructor
  · rintro ⟨before, now', op', rest, hsplit, hmarks, hrest⟩
    obtain ⟨rfl, hsplit⟩ | ⟨before, rfl, hsplit⟩ := List.cons_eq_append_iff.mp hsplit
    · cases hsplit
      exact .inr ⟨hmarks, hrest⟩
    · exact .inl ⟨before, now', op', rest, List.tail_eq_of_cons_eq hsplit, hmarks, hrest⟩
  · rintro (⟨before, now', op', rest, rfl, hmarks, hrest⟩ | ⟨hmarks, hrest⟩)
    · exact ⟨(now, op) :: before, now', op', rest, rfl, hmarks, hrest⟩
    · exact ⟨[], now, op, history, rfl, hmarks, hrest⟩

theorem Marks.step_eq (h : s.Marks now ino name op value) :
    m.step s op (s.request now op).1 ino name = value := by
  cases h with
  | set hino hdone =>
    obtain ⟨answer, hdone⟩ := hdone
    rw [hdone, AttributeMaps.step, m.mark_of_named hino, if_pos rfl]
  | remove hino hdone =>
    obtain ⟨answer, hdone⟩ := hdone
    rw [hdone, AttributeMaps.step, m.mark_of_named hino, if_pos rfl]

theorem step_eq_of_not_marks (h : ∀ value, ¬ s.Marks now ino name op value) :
    m.step s op (s.request now op).1 ino name = m ino name := by
  cases hresult : (s.request now op).1 with
  | error e => rw [m.step_error]
  | ok answer =>
    cases op with
    | setXattr path key value flags =>
      refine if_neg ?_
      rintro ⟨hino, rfl⟩
      exact h _ (.set hino ⟨answer, hresult⟩)
    | removeXattr path key =>
      refine if_neg ?_
      rintro ⟨hino, rfl⟩
      exact h _ (.remove hino ⟨answer, hresult⟩)
    | _ => rfl

/-- What a map holds after a history is what the last request about it left there. -/
theorem after_eq_iff (m : AttributeMaps) (s : Store) (history : List (Timespec × Operation)) :
    m.after s history ino name = value ↔
      s.LastMarked history ino name value ∨ s.Unmarked ino name history ∧ m ino name = value := by
  induction history generalizing s m with
  | nil =>
    refine ⟨fun h => .inr ⟨trivial, h⟩, ?_⟩
    rintro (⟨before, now, op, rest, hsplit, -⟩ | ⟨-, h⟩)
    · exact absurd hsplit.symm (List.append_ne_nil_of_right_ne_nil _ (List.cons_ne_nil _ _))
    · exact h
  | cons step history ih =>
    obtain ⟨now, op⟩ := step
    rw [AttributeMaps.after, ih, lastMarked_cons, Unmarked, or_assoc]
    refine or_congr_right ?_
    by_cases hmarked : ∃ left, s.Marks now ino name op left
    · obtain ⟨left, hleft⟩ := hmarked
      have hunique : s.Marks now ino name op value ↔ left = value := by
        refine ⟨fun h => hleft.step_eq.symm.trans (h.step_eq (m := m)), ?_⟩
        rintro rfl
        exact hleft
      rw [hleft.step_eq, hunique]
      constructor
      · exact fun h => .inl h.symm
      · rintro (h | ⟨⟨hnone, -⟩, -⟩)
        · exact h.symm
        · exact absurd hleft (hnone left)
    · have hnone : ∀ left, ¬ s.Marks now ino name op left := not_exists.mp hmarked
      rw [step_eq_of_not_marks hnone]
      constructor
      · exact fun h => .inr ⟨⟨hnone, h.1⟩, h.2⟩
      · rintro (⟨h, -⟩ | ⟨⟨-, hrest⟩, h⟩)
        · exact absurd h (hnone value)
        · exact ⟨hrest, h⟩

end Marks

/-- **After every history of a new store, the attributes of the inodes are maps in which every name
has the value that the last request about it gave it.** The maps are what requests about attributes
read, they go with the inodes when these get other paths, and they are empty where something is made
anew. -/
theorem mapsAttributes_after_new (now : Timespec) (uid gid : Nat)
    (history : List (Timespec × Operation)) :
    ∃ m : AttributeMaps,
      (∀ ino name value, m ino name = some value ↔
        (Store.new now uid gid).LastMarked history ino name (some value)) ∧
      ((Store.new now uid gid).after history).MapsAttributes m := by
  have hs : (Store.new now uid gid).Consistent := consistent_new now uid gid
  refine ⟨AttributeMaps.after (fun _ _ => none) (Store.new now uid gid) history, ?_, ?_⟩
  · intro ino name value
    rw [after_eq_iff, or_iff_left]
    rintro ⟨-, h⟩
    cases h
  · exact ((carries_new now uid gid).after hs history).mapsAttributes (hs.after history)

end Store

end FileScript
