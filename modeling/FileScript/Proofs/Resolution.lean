import FileScript.Proofs.Histories

/-!
# Paths that lead nowhere

A path that names nothing is refused for one of two reasons (`Store.Unresolvable`): a file stands
above it, or it is simply not there. The store only looks at the nearest place above the path that
is named. This is enough because nothing stands below a file, so that a file above the path is the
nearest (`Store.missing_unresolvable`); and a walk up from the path comes to that place, or to the
root, in as many steps as the path has components (`Names.climb_parent`).

Requests that look for something at a path fail for this reason (`Store.request_of_unresolved`), and
so do requests that make something there, if there is no directory to hold it
(`Store.request_of_creates`).
-/

namespace FileScript

namespace Path

/-- A place above a path, on the way from the root to it. -/
def IsAbove (above path : String) : Prop :=
  isNormal above = true ∧ ∃ rest, rest ≠ [] ∧ components path = components above ++ rest

theorem isAbove_iff {names : List String} (h : AreNames names) {above : String} :
    IsAbove above (ofComponents names) ↔
      ∃ before rest, names = before ++ rest ∧ rest ≠ [] ∧ above = ofComponents before := by
  unfold IsAbove
  rw [components_ofComponents h]
  constructor
  · rintro ⟨hnormal, rest, hne, rfl⟩
    exact ⟨components above, rest, rfl, hne, (isNormal_iff.mp hnormal).symm⟩
  · rintro ⟨before, rest, rfl, hne, rfl⟩
    have hbefore := (areNames_append.mp h).1
    exact ⟨isNormal_ofComponents hbefore, rest, hne, by rw [components_ofComponents hbefore]⟩

/-- Steps down from the root, spelled one after the other. -/
theorem foldl_steps {names : List String} (h : AreNames names) (hne : names ≠ []) :
    names.foldl (fun top step => top ++ "/" ++ step) "" = ofComponents names := by
  induction names using List.reverseRecOn with
  | nil => exact absurd rfl hne
  | append_singleton above name ih =>
    obtain ⟨habove, -⟩ := areNames_concat.mp h
    rw [List.foldl_append, List.foldl_cons, List.foldl_nil]
    by_cases hnil : above = []
    · rw [hnil]
      exact (ofComponents_singleton name).symm
    · rw [ih habove hnil, ofComponents_concat habove, stem_ofComponents habove hnil]

end Path

/-! ## The nearest named place -/

namespace Names

variable {names : Names} {above : List String} {name : String}

/-- The walk from a normal path up to the first place that is named, or to the root, in so many
steps: the inode number that is found, if any. The walk is not at its end if the steps do not
suffice. -/
def climb (names : Names) : (steps : Nat) → String → Option (Option Nat)
  | 0, _ => none
  | steps + 1, path =>
    match names[path]? with
    | some ino => some (some ino)
    | none => if path = Path.root then some none else climb names steps (Path.parent path)

theorem lastNamed_concat (top : String) (found : Option Nat) (steps : List String) (last : String) :
    names.lastNamed top found (steps ++ [last]) =
      (names[(steps ++ [last]).foldl (fun top step => top ++ "/" ++ step) top]? <|>
        names.lastNamed top found steps) := by
  induction steps generalizing top found with
  | nil => rfl
  | cons step steps ih => exact ih _ _

/-- The last place that is named on the way from the root through some names. -/
def nearest (names : Names) (above : List String) : Option Nat :=
  names.lastNamed "" names[Path.root]? above

theorem nearest_concat (h : Path.AreNames (above ++ [name])) :
    names.nearest (above ++ [name]) =
      (names[Path.ofComponents (above ++ [name])]? <|> names.nearest above) := by
  rw [nearest, lastNamed_concat, Path.foldl_steps h (by simp)]
  rfl

theorem nearestAbove_concat (h : Path.AreNames (above ++ [name])) :
    names.nearestAbove (Path.ofComponents (above ++ [name])) = names.nearest above := by
  rw [nearestAbove, Path.components_ofComponents h, List.dropLast_concat]
  rfl

/-- A walk up ends at the nearest named place. -/
theorem climb_ofComponents (h : Path.AreNames above) {steps : Nat} (hsteps : above.length < steps) :
    names.climb steps (Path.ofComponents above) = some (names.nearest above) := by
  induction above using List.reverseRecOn generalizing steps with
  | nil =>
    obtain ⟨steps, rfl⟩ := Nat.exists_eq_add_of_lt hsteps
    rw [climb, Path.ofComponents_nil]
    unfold nearest lastNamed
    cases names[Path.root]? <;> simp
  | append_singleton above name ih =>
    obtain ⟨steps, rfl⟩ := Nat.exists_eq_add_of_lt hsteps
    obtain ⟨habove, hname⟩ := Path.areNames_concat.mp h
    rw [climb, nearest_concat h]
    cases hino : names[Path.ofComponents (above ++ [name])]? with
    | some ino => rfl
    | none =>
      have hroot : Path.ofComponents (above ++ [name]) ≠ Path.root := fun he => by
        simpa using (Path.ofComponents_eq_root_iff h).mp he
      dsimp only
      rw [if_neg hroot, Path.parent_ofComponents_concat habove hname, ih habove ?_]
      · rfl
      · simp only [List.length_append, List.length_singleton]
        omega

/-- **A walk up from a path ends**, after no more steps than the path has components. -/
theorem climb_parent {path : String} (hnormal : Path.isNormal path = true)
    (hroot : path ≠ Path.root) {steps : Nat} (hsteps : (Path.components path).length ≤ steps) :
    names.climb steps (Path.parent path) = some (names.nearestAbove path) := by
  obtain ⟨above, name, habove, hname, rfl⟩ := Path.exists_names_concat hnormal hroot
  have hpath := Path.areNames_concat.mpr ⟨habove, hname⟩
  rw [Path.components_ofComponents hpath, List.length_append, List.length_singleton] at hsteps
  rw [Path.parent_ofComponents_concat habove hname, nearestAbove_concat hpath,
    climb_ofComponents habove hsteps]

end Names

namespace Store

variable {s : Store} {key : String}

/-! ## Why a path leads nowhere -/

/-- A normal path names a file. -/
def NamesFile (s : Store) (key : String) : Prop :=
  ∃ ino i, s.names[key]? = some ino ∧ s.inodes[ino]? = some i ∧ i.kind = .file

/-- A file stands above a path. -/
def BelowFile (s : Store) (key : String) : Prop :=
  ∃ above, Path.IsAbove above key ∧ s.NamesFile above

/-- The errors of requests that look for something at a path that names nothing. -/
inductive Unresolvable (s : Store) (key : String) : Errno → Prop
  | belowFile (h : s.BelowFile key) : Unresolvable s key .notADirectory
  | absent (h : ¬ s.BelowFile key) : Unresolvable s key .notFound

/-- On the way down from the root something is named, if only the root. -/
theorem Sound.exists_nearest (h : s.Sound) {above : List String} (habove : Path.AreNames above) :
    ∃ before rest ino, above = before ++ rest ∧ s.names[Path.ofComponents before]? = some ino ∧
      s.names.nearest above = some ino := by
  induction above using List.reverseRecOn with
  | nil => exact ⟨[], [], rootInode, rfl, h.root_named, h.root_named⟩
  | append_singleton above name ih =>
    rw [Names.nearest_concat habove]
    cases hino : s.names[Path.ofComponents (above ++ [name])]? with
    | some ino => exact ⟨above ++ [name], [], ino, (List.append_nil _).symm, hino, rfl⟩
    | none =>
      obtain ⟨before, rest, ino, heq, hbefore, hnearest⟩ := ih (Path.areNames_concat.mp habove).1
      exact ⟨before, rest ++ [name], ino, by rw [heq, List.append_assoc], hbefore, hnearest⟩

/-- A file above a path is the nearest named place, because nothing stands below it. -/
theorem Sound.nearest_of_file (h : s.Sound) {before rest : List String}
    (hnames : Path.AreNames (before ++ rest)) {ino : Nat} {i : Inode}
    (hino : s.names[Path.ofComponents before]? = some ino) (hi : s.inodes[ino]? = some i)
    (hkind : i.kind = .file) : s.names.nearest (before ++ rest) = some ino := by
  have hbefore := (Path.areNames_append.mp hnames).1
  induction rest using List.reverseRecOn with
  | nil =>
    rw [List.append_nil]
    induction before using List.reverseRecOn with
    | nil => exact hino
    | append_singleton above name =>
      rw [Names.nearest_concat hbefore, hino]
      rfl
  | append_singleton rest name ih =>
    have hfree : s.names[Path.ofComponents (before ++ (rest ++ [name]))]? = none := by
      refine h.free_below_of_not_directory hbefore (fun up hup hp => ?_)
        (Path.areNames_append.mp hnames).2 (by simp)
      rw [← Option.some.inj (hino.symm.trans hup), profile_of_inode hi, hkind] at hp
      cases hp
    rw [← List.append_assoc] at hnames hfree ⊢
    rw [Names.nearest_concat hnames, hfree]
    exact ih (Path.areNames_concat.mp hnames).1

theorem missing_cases (s : Store) (key : String) :
    s.missing key = .notADirectory ∧ (∃ above i, s.names.nearestAbove key = some above ∧
        s.inodes[above]? = some i ∧ i.kind = .file) ∨
      s.missing key = .notFound ∧ ∀ above i, s.names.nearestAbove key = some above →
        s.inodes[above]? = some i → i.kind ≠ .file := by
  unfold missing
  cases habove : s.names.nearestAbove key with
  | none => simp
  | some above =>
    by_cases hfile : (s.inodes[above]?.map Inode.kind) = some .file
    · obtain ⟨i, hi, hkind⟩ := Option.map_eq_some_iff.mp hfile
      exact .inl ⟨if_pos hfile, above, i, rfl, hi, hkind⟩
    · refine .inr ⟨if_neg hfile, ?_⟩
      rintro _ i ⟨⟩ hi hkind
      exact hfile (by rw [hi, Option.map_some, hkind])

/-- **A path that names nothing is refused because it is below a file, or else because it is not
there.** -/
theorem Sound.missing_unresolvable (h : s.Sound) (hnormal : Path.isNormal key = true)
    (hroot : key ≠ Path.root) : s.Unresolvable key (s.missing key) := by
  obtain ⟨above, name, habove, hname, rfl⟩ := Path.exists_names_concat hnormal hroot
  have hkey := Path.areNames_concat.mpr ⟨habove, hname⟩
  have hcases := s.missing_cases (Path.ofComponents (above ++ [name]))
  rw [Names.nearestAbove_concat hkey] at hcases
  rcases hcases with ⟨hmissing, up, i, hup, hi, hkind⟩ | ⟨hmissing, hnot⟩ <;> rw [hmissing]
  · obtain ⟨before, rest, ino, rfl, hino, hnearest⟩ := h.exists_nearest habove
    cases hup.symm.trans hnearest
    refine .belowFile ⟨Path.ofComponents before, (Path.isAbove_iff hkey).mpr ?_, up, i, hino, hi,
      hkind⟩
    exact ⟨before, rest ++ [name], List.append_assoc .., by simp, rfl⟩
  · refine .absent ?_
    rintro ⟨_, habove', up, i, hup, hi, hkind⟩
    obtain ⟨before, rest, heq, hne, rfl⟩ := (Path.isAbove_iff hkey).mp habove'
    obtain ⟨rest, last, rfl⟩ := (List.eq_nil_or_concat rest).resolve_left hne
    rw [List.concat_eq_append, ← List.append_assoc] at heq
    obtain ⟨rfl, -⟩ := List.append_inj' heq rfl
    exact hnot up i (h.nearest_of_file habove hup hi hkind) hi hkind

end Store

/-! ## Requests that look for something -/

namespace Operation

/-- The path at which a request looks for something before anything else can go wrong. Flags and the
name of an attribute that is to be set are looked at first, and so is whether a file is to be
made. -/
def resolves? : Operation → Option String
  | stat path | access path _ | chmod path _ | chown path _ | utime path _ _ | openDir path
  | rmdir path | unlink path | truncate path _ | getXattr path _ _ | removeXattr path _
  | listXattr path _ | rename path _ => some path
  | openFile path flags =>
    if flags.hasValidAccess = true ∧ flags.contains .create = false then some path else none
  | setXattr path name _ flags =>
    if name ≠ "" ∧ name.utf8ByteSize ≤ Store.maxNameSize ∧ flags.isValid = true then some path
    else none
  | _ => none

/-- The path at which a request makes something. -/
def creates? : Operation → Option String
  | create path _ | mkdir path _ | rename _ path => some path
  | openFile path flags =>
    if flags.hasValidAccess = true ∧ flags.contains .create = true then some path else none
  | _ => none

/-- What is checked of a request that makes something before the place where it is to be made: only
for a rename there is anything, namely that the source is there, is not the root, and does not hold
its target. -/
def IsCleared (s : Store) : Operation → Prop
  | rename source target =>
    (∃ ino : Nat, s.names[Path.normalize source]? = some ino) ∧
      Path.normalize source ≠ Path.root ∧
      (Path.normalize target).startsWith (Path.normalize source ++ "/") = false
  | _ => True

end Operation

namespace Store

variable {s : Store} {now : Timespec} {op : Operation} {path : String}

theorem ends_ask_resolve_of_free (hfree : s.names[Path.normalize path]? = none)
    {good : String × Nat → Store → Prop} {bad : Errno → Store → Prop} :
    Ends (ask (·.resolve path)) s good bad ↔ bad (s.missing (Path.normalize path)) s := by
  have hresolve : s.resolve path = .error (s.missing (Path.normalize path)) := by
    unfold resolve
    simp only [hfree]
  rw [Ends.ask_iff, hresolve]
  simp

/-- A request for something at a path that names nothing is refused for that reason alone. -/
theorem request_of_unresolved (hop : op.resolves? = some path)
    (hfree : s.names[Path.normalize path]? = none) (now : Timespec) :
    s.request now op = (.error (s.missing (Path.normalize path)), s) := by
  have hends : Ends (op.perform now) s (fun _ _ => False)
      fun e t => e = s.missing (Path.normalize path) ∧ t = s := by
    cases op with
    | stat | access | chmod | chown | utime | openDir | rmdir | unlink | truncate | getXattr
    | removeXattr | listXattr | rename =>
      cases hop
      simp only [Operation.perform, Store.stat, Store.access, Store.chmod, Store.chown, Store.utime,
        changeInode, Store.openDir, Store.rmdir, Store.unlink, Store.truncate, Store.getXattr,
        Store.removeXattr, Store.listXattr, Store.rename, Ends.bind_iff, Ends.map_iff,
        ends_ask_resolve_of_free hfree, and_self]
    | openFile _ flags =>
      obtain ⟨⟨hvalid, hcreate⟩, ⟨⟩⟩ := Option.ite_none_right_eq_some.mp hop
      simp only [Operation.perform, Store.openFile, locate, Ends.bind_iff, Ends.map_iff,
        Ends.get_iff, hfree, hvalid, hcreate, if_true, Bool.false_eq_true, if_false,
        Ends.throw_iff, and_self]
    | setXattr _ name _ flags =>
      obtain ⟨⟨hname, hshort, hvalid⟩, ⟨⟩⟩ := Option.ite_none_right_eq_some.mp hop
      simp only [Operation.perform, Store.setXattr, Ends.bind_iff, hname, not_lt.mpr hshort, hvalid,
        if_true, if_false, Ends.pure_iff, ends_ask_resolve_of_free hfree, and_self]
    | _ => cases hop
  rcases request_cases hends with ⟨_, _, -, h⟩ | ⟨e, t, heq, rfl, rfl⟩
  · exact h.elim
  · exact heq

/-! ## Requests that make something -/

theorem Sound.ne_root_of_free (h : s.Sound) (hfree : s.names[key]? = none) :
    key ≠ Path.root := by
  rintro rfl
  rw [h.root_named] at hfree
  cases hfree

/-- Something can be made at a free place with a short name if there is a directory above it; if
not, the place leads nowhere. -/
theorem Sound.checkParent_cases (h : s.Sound) (hnormal : Path.isNormal key = true)
    (hroot : key ≠ Path.root) (hshort : (Path.baseName key).utf8ByteSize ≤ maxNameSize) :
    s.NamesDirectory (Path.parent key) ∧ s.checkParent key = .ok () ∨
      ¬ s.NamesDirectory (Path.parent key) ∧
        ∃ e, s.checkParent key = .error e ∧ s.Unresolvable key e := by
  by_cases hdir : s.NamesDirectory (Path.parent key)
  · exact .inl ⟨hdir, checkParent_eq_ok_iff.mpr ⟨hshort, hdir⟩⟩
  refine .inr ⟨hdir, ?_⟩
  unfold checkParent
  rw [if_neg (not_lt.mpr hshort)]
  cases hino : s.names[Path.parent key]? with
  | none => exact ⟨_, rfl, h.missing_unresolvable hnormal hroot⟩
  | some ino =>
    obtain ⟨i, hi, -⟩ := h.inode_of_named hino
    have hkind : i.kind ≠ .directory := fun hkind => hdir ⟨ino, i, hino, hi, hkind⟩
    rw [Option.bind_some, hi]
    refine ⟨.notADirectory, if_neg hkind,
      .belowFile ⟨_, ?_, ino, i, hino, hi, kind_eq_file hkind⟩⟩
    obtain ⟨above, name, habove, hname, rfl⟩ := Path.exists_names_concat hnormal hroot
    rw [Path.parent_ofComponents_concat habove hname]
    refine (Path.isAbove_iff (Path.areNames_concat.mpr ⟨habove, hname⟩)).mpr ?_
    exact ⟨above, [name], rfl, List.cons_ne_nil _ _, rfl⟩

/-- A new node is made at a free place if there may be something. -/
theorem insertNode_ends_of_free (hfree : s.names[key]? = none) (now : Timespec) (node : Node)
    (mode : UInt32) :
    Ends (insertNode now key node mode) s
      (fun ino t => s.checkParent key = .ok () ∧ ino = s.nextInode ∧ t = s.link now key node mode)
      fun e t => s.checkParent key = .error e ∧ t = s := by
  unfold insertNode
  have hcontains : s.names.contains key = false := by
    rw [Std.TreeMap.contains_eq_isSome_getElem?, hfree]
    rfl
  simp only [Ends.bind_iff, Ends.get_iff, hcontains, Bool.false_eq_true, if_false, Ends.ask_iff,
    Ends.modifyGet_iff, and_self, and_true]
  exact ⟨fun _ hparent => hparent, fun _ herror => herror⟩

/-- **A request that makes something at a free place is carried out if and only if the check of the
directory above it succeeds**, and is else refused with the error of this check. -/
theorem creates_ends (h : s.Consistent) (hop : op.creates? = some path) (hcleared : op.IsCleared s)
    (hfree : s.names[Path.normalize path]? = none) (now : Timespec) :
    Ends (op.perform now) s (fun _ _ => s.checkParent (Path.normalize path) = .ok ())
      fun e t => s.checkParent (Path.normalize path) = .error e ∧ t = s := by
  have hinsert := insertNode_ends_of_free hfree now
  cases op with
  | create _ mode =>
    cases hop
    simp only [Operation.perform, Store.create, Ends.bind_iff, Ends.map_iff, Ends.modifyGet_iff]
    exact (hinsert _ mode).mono (fun _ _ h => h.1) fun _ _ h => h
  | mkdir _ mode =>
    cases hop
    simp only [Operation.perform, Store.mkdir, Ends.bind_iff, Ends.pure_iff]
    exact (hinsert _ mode).mono (fun _ _ h => h.1) fun _ _ h => h
  | openFile _ flags =>
    obtain ⟨⟨hvalid, hcreate⟩, ⟨⟩⟩ := Option.ite_none_right_eq_some.mp hop
    refine Ends.map_iff.mpr (openFile_ends_of_locate hvalid ?_)
    unfold locate
    simp only [Ends.bind_iff, Ends.get_iff, hfree, hcreate, if_true]
    refine (hinsert _ _).mono ?_ fun _ _ h => h
    rintro ino t ⟨hparent, rfl, rfl⟩
    refine ⟨_, h.inode_link now (.file .empty) 0o644 hfree hparent, fun hkind => ?_, fun _ => ?_⟩
    · cases hkind
    · rw [permits_link, permits_new, if_pos rfl]
      exact hparent
  | rename source _ =>
    cases hop
    obtain ⟨⟨ino, hino⟩, hsource, hapart⟩ := hcleared
    have htarget := h.ne_root_of_free hfree
    have hne : Path.normalize source ≠ Path.normalize path := fun he => by
      rw [he, hfree] at hino
      cases hino
    simp only [Operation.perform, Store.rename, Ends.bind_iff, ends_ask_resolve hino, hsource,
      htarget, hne, hapart, or_self, Bool.false_eq_true, if_false, Ends.pure_iff, Ends.ask_iff,
      vacate, Ends.get_iff, hfree, Ends.modify_iff, and_true]
    refine ⟨fun _ hparent => ⟨fun _ _ => hparent, fun e he => ?_⟩, fun _ herror => herror⟩
    -- the moved inode is there
    obtain ⟨i, hi, -⟩ := h.inode_of_named hino
    have hvacated : Vacated now (Path.normalize path) s s := .free hfree
    obtain ⟨j, hj⟩ := hvacated.inode_moved h hino hi hne
    replace he : (s.moved now (Path.normalize source) (Path.normalize path)).inode ino = .error e :=
      he
    rw [inode_eq_ok_iff.mpr hj] at he
    cases he
  | _ => cases hop

/-! ## All requests at paths that lead nowhere -/

/-- What comes of requests at a path that names nothing: one that looks for something there is
refused because there is a file above the path or because nothing is there; one that makes something
there is carried out if there is a directory to hold it, and else refused for the same reasons; and
the walk up from the path, which tells the two apart, ends. -/
structure TellsMissing (s : Store) : Prop where
  unresolved : ∀ ⦃now : Timespec⦄ ⦃op : Operation⦄ ⦃path : String⦄, op.resolves? = some path →
    s.names[Path.normalize path]? = none →
      ∃ e, s.request now op = (.error e, s) ∧ s.Unresolvable (Path.normalize path) e
  made : ∀ ⦃now : Timespec⦄ ⦃op : Operation⦄ ⦃path : String⦄, op.creates? = some path →
    op.IsCleared s → s.names[Path.normalize path]? = none →
    (Path.baseName (Path.normalize path)).utf8ByteSize ≤ maxNameSize →
    s.NamesDirectory (Path.parent (Path.normalize path)) →
      s.checkParent (Path.normalize path) = .ok () ∧ ∃ answer t, s.request now op = (.ok answer, t)
  unmade : ∀ ⦃now : Timespec⦄ ⦃op : Operation⦄ ⦃path : String⦄, op.creates? = some path →
    op.IsCleared s → s.names[Path.normalize path]? = none →
    (Path.baseName (Path.normalize path)).utf8ByteSize ≤ maxNameSize →
    ¬ s.NamesDirectory (Path.parent (Path.normalize path)) →
      ∃ e, s.checkParent (Path.normalize path) = .error e ∧ s.request now op = (.error e, s) ∧
        s.Unresolvable (Path.normalize path) e
  walk : ∀ ⦃path : String⦄ ⦃steps : Nat⦄, s.names[Path.normalize path]? = none →
    (Path.components path).length ≤ steps →
      s.names.climb steps (Path.parent (Path.normalize path)) =
        some (s.names.nearestAbove (Path.normalize path))

/-- A request that makes something at a free place ends as the check of the directory above it. -/
theorem request_of_creates (h : s.Consistent) (hop : op.creates? = some path)
    (hcleared : op.IsCleared s) (hfree : s.names[Path.normalize path]? = none) (now : Timespec) :
    (s.checkParent (Path.normalize path) = .ok () ∧
        ∃ answer t, s.request now op = (.ok answer, t)) ∨
      ∃ e, s.checkParent (Path.normalize path) = .error e ∧ s.request now op = (.error e, s) := by
  rcases request_cases (creates_ends h hop hcleared hfree now) with
    ⟨answer, t, heq, hparent⟩ | ⟨e, t, heq, hparent, rfl⟩
  · exact .inl ⟨hparent, answer, t, heq⟩
  · exact .inr ⟨e, hparent, heq⟩

theorem Consistent.tellsMissing (h : s.Consistent) : s.TellsMissing where
  unresolved now op path hop hfree :=
    ⟨_, request_of_unresolved hop hfree now,
      h.missing_unresolvable (Path.isNormal_normalize path) (h.ne_root_of_free hfree)⟩
  made now op path hop hcleared hfree hshort hdir := by
    rcases request_of_creates h hop hcleared hfree now with hmade | ⟨e, hparent, -⟩
    · exact hmade
    · rw [checkParent_eq_ok_iff.mpr ⟨hshort, hdir⟩] at hparent
      cases hparent
  unmade now op path hop hcleared hfree hshort hdir := by
    rcases h.checkParent_cases (Path.isNormal_normalize path) (h.ne_root_of_free hfree) hshort with
      ⟨hdir', -⟩ | ⟨-, e, hparent, hwhy⟩
    · exact absurd hdir' hdir
    rcases request_of_creates h hop hcleared hfree now with ⟨hok, -⟩ | ⟨e', hparent', heq⟩
    · rw [hparent] at hok
      cases hok
    · rw [hparent] at hparent'
      cases hparent'
      exact ⟨e, hparent, heq, hwhy⟩
  walk path steps hfree hsteps := by
    refine Names.climb_parent (Path.isNormal_normalize path) (h.ne_root_of_free hfree) ?_
    rwa [Path.normalize_eq, Path.components_ofComponents (Path.areNames_components path)]

/-- **In every store that can be reached, a path that leads nowhere is told from one that is below a
file**, by all requests and at every depth. -/
theorem tellsMissing_after_new (now : Timespec) (uid gid : Nat)
    (history : List (Timespec × Operation)) :
    ((Store.new now uid gid).after history).TellsMissing :=
  ((consistent_new now uid gid).after history).tellsMissing

end Store

end FileScript
