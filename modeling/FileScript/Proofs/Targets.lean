import FileScript.Proofs.Entries
import FileScript.Proofs.Renaming

/-!
# What requests do to inodes

A request has one target, the inode to which its path or its handle leads. No other inode gets
other contents, permissions, owner or attributes; the times of others change only where a name is
made, removed or moved, and then only those of the directory above it (`Store.TouchesOnly`).

1. What may become of an inode is `Store.Retouches`. It composes, and each small change of a request
   has it.
2. Inodes come and go on the way, so it is said of numbers: an inode with an old number comes from
   the one that bore the number before (`Store.ComesFrom`).
3. A rename notes the time in the directories above both ends after the names have moved. They have
   their paths still (`Names.Movable.getElem?_move_parents`), so the times of no others change.
-/

namespace FileScript

namespace Operation

/-- The inode to which the path or the handle of a request leads; for a rename, what is moved. -/
def target? (s : Store) : Operation → Option Nat
  | openFile path _ | create path _ | openDir path | mkdir path _ | rmdir path | stat path
  | access path _ | chmod path _ | chown path _ | utime path _ _ | truncate path _ | unlink path
  | rename path _ | getXattr path _ _ | setXattr path _ _ _ | removeXattr path _
  | listXattr path _ => s.names[Path.normalize path]?
  | close handle | seek handle _ | read handle _ | write handle _ | truncateOpen handle _
  | sync handle => s.openFiles[handle.id]?
  | closeDir handle | readDir handle _ => s.openDirs[handle.id]?.map (·.inode)

/-- A request is made to change what its target holds, or its permissions, owner or attributes. -/
def rewrites : Operation → Bool
  | openFile .. | write .. | truncateOpen .. | truncate .. | chmod .. | chown .. | setXattr ..
  | removeXattr .. => true
  | _ => false

/-- A request only looks at a store, or opens what is there as it is. -/
def Inspects (s : Store) : Operation → Prop
  | seek .. | read .. | sync .. | openDir .. | readDir .. | stat .. | access .. | getXattr ..
  | listXattr .. => True
  | openFile path flags =>
    s.names[Path.normalize path]? ≠ none ∧ (flags.contains .truncate && flags.writable) = false
  | _ => False

variable {s : Store} {op : Operation}

/-- What a request edits is its target. -/
theorem Edits.target? {ino : Nat} (h : op.Edits s ino) :
    op.rewrites = true ∧ op.target? s = some ino := by
  cases op with
  | openFile | write | truncateOpen => exact ⟨rfl, h.1⟩
  | truncate => exact ⟨rfl, h⟩
  | _ => exact h.elim

/-- What a request describes anew is its target, and is given other times or something else. -/
theorem target?_of_describes? {path : String} (h : op.describes? = some path) :
    op.target? s = s.names[Path.normalize path]? ∧ op.rewrites = !op.setsTimes := by
  cases op <;> cases h <;> exact ⟨rfl, rfl⟩

/-- A request that only looks at a store edits no file. -/
theorem Inspects.not_edits (h : op.Inspects s) (ino : Nat) : ¬ op.Edits s ino := by
  intro hedits
  cases op with
  | openFile path flags => exact Bool.false_ne_true (h.2.symm.trans hedits.2)
  | write | truncateOpen | truncate => exact h
  | _ => exact hedits

end Operation

namespace Store

/-- The inode is the directory above a name that a request made, removed or moved: after the
request, in the store `t`, the name leads somewhere else or nowhere. -/
def HostsChange (s t : Store) (op : Operation) (ino : Nat) : Prop :=
  ∃ place ∈ op.places, t.names[place]? ≠ s.names[place]? ∧
    s.names[Path.parent place]? = some ino

/-- What a request that leads from the store `s` to the store `t` may make of the inode `i`: it
changes its target only, and the times of the directories in which a name comes or goes. -/
structure Retouches (s t : Store) (op : Operation) (ino : Nat) (i j : Inode) : Prop where
  body : i.SameBody j ∨ op.rewrites = true ∧ op.target? s = some ino
  stamps : j.modified = i.modified ∧ j.changed = i.changed ∨ op.target? s = some ino ∨
    s.HostsChange t op ino
  accessed : j.accessed = i.accessed ∨ op.setsTimes = true ∧ op.target? s = some ino

/-- A request that leads from the store `s` to the store `t` touches no inode but those that it is
about, and none at all if it only looks at the store. -/
structure TouchesOnly (s t : Store) (op : Operation) : Prop where
  retouched : ∀ ⦃ino : Nat⦄ ⦃i j : Inode⦄, s.inodes[ino]? = some i → t.inodes[ino]? = some j →
    s.Retouches t op ino i j
  inspected : op.Inspects s → t.inodes = s.inodes

end Store

/-! ## The directories above the ends of a rename -/

namespace Names.Movable

variable {names : Names} {source target above : List String} {name : String}

/-- What is above the source does not move, and nothing arrives there. -/
theorem getElem?_move_above_source (h : names.Movable (above ++ [name]) target) {ino : Nat}
    (hino : names[Path.ofComponents (above ++ [name])]? = some ino) :
    (names.move (Path.ofComponents (above ++ [name])) (Path.ofComponents target))[
      Path.ofComponents above]? = names[Path.ofComponents above]? := by
  have hnames := (Path.areNames_append.mp h.source_names).1
  refine h.getElem?_move_other hnames (fun hsource => ?_) fun htarget => ?_
  · have := hsource.length_le
    simp at this
  · -- the source would lie below the target, where nothing has a name
    obtain ⟨rest, rfl⟩ := htarget
    have hrest := h.source_names
    rw [List.append_assoc] at hrest hino
    rw [h.free _ (Path.areNames_append.mp hrest).2] at hino
    cases hino

/-- What is above the target stays there. -/
theorem getElem?_move_above_target (h : names.Movable source (above ++ [name])) :
    (names.move (Path.ofComponents source) (Path.ofComponents (above ++ [name])))[
      Path.ofComponents above]? = names[Path.ofComponents above]? := by
  have hnames := (Path.areNames_append.mp h.target_names).1
  refine h.getElem?_move_other hnames (fun hsource => ?_) fun htarget => ?_
  · exact h.apart (hsource.trans (List.prefix_append _ _))
  · have := htarget.length_le
    simp at this

/-- The directories above both ends have their paths after the move. -/
theorem getElem?_move_parents (h : names.Movable source target) {ino : Nat}
    (hino : names[Path.ofComponents source]? = some ino) :
    ∀ place ∈ [Path.ofComponents source, Path.ofComponents target],
      (names.move (Path.ofComponents source) (Path.ofComponents target))[Path.parent place]? =
        names[Path.parent place]? := by
  obtain ⟨above, name, rfl⟩ := (List.eq_nil_or_concat' source).resolve_left h.source_ne
  obtain ⟨above', name', rfl⟩ := (List.eq_nil_or_concat' target).resolve_left h.target_ne
  obtain ⟨habove, hname⟩ := Path.areNames_concat.mp h.source_names
  obtain ⟨habove', hname'⟩ := Path.areNames_concat.mp h.target_names
  simp only [List.forall_mem_cons, List.not_mem_nil, false_implies, implies_true, and_true,
    Path.parent_ofComponents_concat habove hname, Path.parent_ofComponents_concat habove' hname']
  exact ⟨h.getElem?_move_above_source hino, h.getElem?_move_above_target⟩

end Names.Movable

namespace Store

variable {s t mid : Store} {now : Timespec} {op : Operation} {ino : Nat} {i j k : Inode}

/-! ## Inodes, change by change -/

theorem Retouches.refl (i : Inode) : s.Retouches t op ino i i :=
  ⟨.inl ⟨rfl, rfl, rfl, rfl, rfl⟩, .inl ⟨rfl, rfl⟩, .inl rfl⟩

theorem Retouches.trans (h : s.Retouches t op ino i j) (h' : s.Retouches t op ino j k) :
    s.Retouches t op ino i k where
  body := by
    rcases h.body with hsame | htarget
    · rcases h'.body with hsame' | htarget
      · exact .inl ⟨hsame'.node.trans hsame.node, hsame'.mode.trans hsame.mode,
          hsame'.uid.trans hsame.uid, hsame'.gid.trans hsame.gid,
          hsame'.xattrs.trans hsame.xattrs⟩
      · exact .inr htarget
    · exact .inr htarget
  stamps := by
    rcases h.stamps with hsame | hother
    · rcases h'.stamps with hsame' | hother
      · exact .inl ⟨hsame'.1.trans hsame.1, hsame'.2.trans hsame.2⟩
      · exact .inr hother
    · exact .inr hother
  accessed := by
    rcases h.accessed with hsame | htarget
    · exact h'.accessed.imp_left (·.trans hsame)
    · exact .inr htarget

/-- A directory notes that a name in it came or went. -/
theorem retouches_touch (hhosts : s.HostsChange t op ino) (now : Timespec) (i : Inode) :
    s.Retouches t op ino i (i.touch now) :=
  ⟨.inl ⟨rfl, rfl, rfl, rfl, rfl⟩, .inr (.inr hhosts), .inl rfl⟩

/-- An inode whose number is an old one is what became of the inode that bore the number before. -/
def ComesFrom (s t : Store) (op : Operation) (ino : Nat) (j : Inode) : Prop :=
  ino < s.nextInode → ∃ i, s.inodes[ino]? = some i ∧ s.Retouches t op ino i j

theorem ComesFrom.next (h : s.ComesFrom t op ino j) (h' : s.Retouches t op ino j k) :
    s.ComesFrom t op ino k := fun hlt => by
  obtain ⟨i, hi, hretouches⟩ := h hlt
  exact ⟨i, hi, hretouches.trans h'⟩

theorem each_comesFrom (s t : Store) (op : Operation) : s.Each (s.ComesFrom t op) :=
  fun _ i hi _ => ⟨i, hi, .refl i⟩

/-- What is made has no old number. -/
theorem comesFrom_new (s t : Store) (op : Operation) (j : Inode) :
    s.ComesFrom t op s.nextInode j := fun hlt => absurd hlt (lt_irrefl _)

namespace Each

/-- The time is noted in the directory above a name that came or went. -/
theorem touchHost (h : mid.Each (s.ComesFrom t op)) (now : Timespec) {key : String}
    (hhosts : ∀ ino, ino < s.nextInode → mid.names[Path.parent key]? = some ino →
      s.HostsChange t op ino) : (mid.touchParent now key).Each (s.ComesFrom t op) := by
  refine h.touchAbove now key fun ino j habove hj hlt => ?_
  exact hj.next (retouches_touch (hhosts ino hlt habove) now j) hlt

/-- An inode that is made is new, and only the directory above it notes that. -/
theorem linkNew {key : String} (hplace : key ∈ op.places) (hfree : s.names[key]? = none)
    (now : Timespec) (node : Node) (mode : UInt32)
    (hnames : t.names = (s.link now key node mode).names) :
    (s.link now key node mode).Each (s.ComesFrom t op) := by
  have hmade : ({ s with
      names := s.names.insert key s.nextInode
      inodes := s.inodes.insert s.nextInode (Inode.new now node mode s.uid s.gid)
      nextInode := s.nextInode + 1 } : Store).Each (s.ComesFrom t op) :=
    (each_comesFrom s t op).setInode
      (comesFrom_new s t op (Inode.new now node mode s.uid s.gid))
  refine hmade.touchHost now fun ino hlt habove => ⟨key, hplace, ?_, ?_⟩
  · rw [hnames, getElem?_names_link, if_pos rfl, hfree]
    exact Option.some_ne_none _
  · rw [Std.TreeMap.getElem?_insert] at habove
    split at habove
    · exact absurd (Option.some.inj habove) hlt.ne'
    · exact habove

/-- An inode that loses its name keeps everything else, if it is kept at all. -/
theorem dropName (h : s.Each (s.ComesFrom t op)) {key : String} {n : Nat}
    (hplace : key ∈ op.places) (hchanged : t.names[key]? ≠ s.names[key]?)
    (hi : s.inodes[n]? = some i) (now : Timespec) :
    ({ s with names := s.names.erase key }.dropLink now key n i).Each (s.ComesFrom t op) := by
  have hmarked : (({ s with names := s.names.erase key } : Store).setInode n
      { i with linked := false }).Each (s.ComesFrom t op) := by
    refine setInode (s := { s with names := s.names.erase key }) h ((h hi).next ?_)
    exact ⟨.inl ⟨rfl, rfl, rfl, rfl, rfl⟩, .inl ⟨rfl, rfl⟩, .inl rfl⟩
  refine (hmarked.touchHost now fun ino _ habove => ⟨key, hplace, hchanged, ?_⟩).releaseIfOrphaned n
  replace habove : (s.names.erase key)[Path.parent key]? = some ino := habove
  rw [Std.TreeMap.getElem?_erase] at habove
  split at habove
  · cases habove
  · exact habove

end Each

/-! ## Renames -/

/-- Both ends of a rename lead elsewhere afterwards, and the directories above them have their paths
when the time is noted there. -/
theorem Moved.hosts {source target : String} (hmoved : Moved now source target s t)
    (h : s.Consistent) (hmovable : ¬ s.Immovable source target) (hne : source ≠ target)
    (hnormal : Path.isNormal target = true) :
    ∀ place ∈ [source, target], t.names[place]? ≠ s.names[place]? ∧
      ∀ ino : Nat, t.names[Path.parent place]? = some ino →
        s.names[Path.parent place]? = some ino := by
  have hmoves := hmoved.movesTree h hmovable hne hnormal
  cases hmoved with
  | @mk mid n i hvacated hn hi =>
    obtain ⟨hsroot, htroot, hapart, -⟩ := checks_of_movable hmovable hne
    have hmid := (hvacated.changes htroot).consistent h
    have hmidnames := hvacated.names_eq
    have hn' : mid.names[source]? = some n := by rw [hmidnames, if_neg hne, hn]
    obtain ⟨names, more, rfl, rfl, hmove⟩ :=
      hmid.movable hn' hsroot htroot hnormal (by rw [hmidnames, if_pos rfl]) hapart
    have hparents := hmove.getElem?_move_parents hn'
    have hkept : ∀ place ∈ [Path.ofComponents names, Path.ofComponents more], ∀ ino : Nat,
        (mid.moved now (Path.ofComponents names) (Path.ofComponents more)).names[
          Path.parent place]? = some ino → s.names[Path.parent place]? = some ino := by
      intro place hplace ino hino
      rw [names_moved, hparents place hplace, hmidnames] at hino
      split at hino
      · cases hino
      · exact hino
    have hgone := hmoves.gone (Path.isNormal_ofComponents hmove.source_names)
      ((Path.isWithin_iff hmove.source_names hmove.source_ne hmove.source_names).mpr
        List.prefix_rfl)
    have harrived := hmoves.arrived hnormal
      ((Path.isWithin_iff hmove.target_names hmove.target_ne hmove.target_names).mpr
        List.prefix_rfl)
    have hback := Path.rebase_ofComponents hmove.target_names hmove.target_ne hmove.source_names
      hmove.source_ne []
    rw [List.append_nil, List.append_nil] at hback
    rw [hback] at harrived
    refine List.forall_mem_cons.mpr ⟨⟨?_, hkept _ List.mem_cons_self⟩,
      List.forall_mem_singleton.mpr ⟨?_, hkept _ (List.mem_cons_of_mem _ List.mem_cons_self)⟩⟩
    · rw [hgone, hn]
      exact (Option.some_ne_none n).symm
    · rw [harrived, hn]
      exact fun heq => hne (h.name_unique hn heq.symm)

/-- The time is noted in the directories above both ends after the names have moved. -/
theorem Each.movePlaces {source target : String} (hvacated : Vacated now target s mid)
    (hplace : target ∈ op.places) (hchanged : t.names[target]? ≠ s.names[target]?)
    (hsource : ∀ ino : Nat, (mid.moved now source target).names[Path.parent source]? = some ino →
      s.HostsChange t op ino)
    (htarget : ∀ ino : Nat, (mid.moved now source target).names[Path.parent target]? = some ino →
      s.HostsChange t op ino) :
    (mid.moved now source target).Each (s.ComesFrom t op) := by
  rw [names_moved] at hsource htarget
  have hvacant : mid.Each (s.ComesFrom t op) := by
    cases hvacated with
    | free => exact each_comesFrom s t op
    | taken _ hj => exact (each_comesFrom s t op).dropName hplace hchanged hj now
  have hmoved : (mid.moveTree source target).Each (s.ComesFrom t op) := hvacant
  refine (hmoved.touchHost now fun ino _ habove => hsource ino habove).touchHost now ?_
  intro ino _ habove
  rw [names_touchParent] at habove
  exact htarget ino habove

/-- What moves notes the time, and so do the directories above both ends. -/
theorem Each.moveNames {source target : String} (hplaces : op.places = [source, target])
    (htarget : op.target? s = s.names[source]?) (h : s.Consistent)
    (hmoved : Moved now source target s t) (hmovable : ¬ s.Immovable source target)
    (hne : source ≠ target) (hnormal : Path.isNormal target = true) :
    t.Each (s.ComesFrom t op) := by
  have hhosts : ∀ place ∈ [source, target], t.names[place]? ≠ s.names[place]? ∧
      ∀ ino : Nat, t.names[Path.parent place]? = some ino → s.HostsChange t op ino := by
    intro place hplace
    obtain ⟨hchanged, hkept⟩ := hmoved.hosts h hmovable hne hnormal place hplace
    exact ⟨hchanged, fun ino hino => ⟨place, hplaces ▸ hplace, hchanged, hkept ino hino⟩⟩
  obtain ⟨⟨-, hsource⟩, ⟨hchanged, habove⟩⟩ :=
    (List.forall_mem_cons.mp hhosts).imp_right List.forall_mem_singleton.mp
  have hplace : target ∈ op.places := by simp [hplaces]
  cases hmoved with
  | mk hvacated hn hi =>
    have hmid := Each.movePlaces hvacated hplace hchanged hsource habove
    refine hmid.setInode ((hmid hi).next ?_)
    exact ⟨.inl ⟨rfl, rfl, rfl, rfl, rfl⟩, .inr (.inl (htarget.trans hn)), .inl rfl⟩

/-! ## All requests -/

/-- A request describes its target only. -/
theorem retouches_described {path : String} (hop : op.describes? = some path)
    (hino : s.names[Path.normalize path]? = some ino)
    (hbody : op.setsTimes = true → i.SameBody j)
    (hkept : op.setsTimes = false → j.accessed = i.accessed ∧ j.modified = i.modified) :
    s.Retouches t op ino i j := by
  obtain ⟨htarget, hrewrites⟩ := Operation.target?_of_describes? (s := s) hop
  rw [hino] at htarget
  cases hsets : op.setsTimes with
  | true => exact ⟨.inl (hbody hsets), .inr (.inl htarget), .inr ⟨hsets, htarget⟩⟩
  | false =>
    rw [hsets] at hrewrites
    exact ⟨.inr ⟨hrewrites, htarget⟩, .inr (.inl htarget), .inl (hkept hsets).1⟩

/-- A request edits its target only. -/
theorem retouches_edited (hedits : op.Edits s ino) (now : Timespec) (i : Inode)
    (content : ByteArray) : s.Retouches t op ino i (i.setContent now content) :=
  ⟨.inr hedits.target?, .inr (.inl hedits.target?.2), .inl rfl⟩

/-- A file that is opened is emptied if it is the target, or new. -/
theorem Located.each_prepared {path : String} {flags : OpenFlags}
    (hloc : Located now (Path.normalize path) flags s mid ino) (hi : mid.inodes[ino]? = some i)
    (hnames : t.names = mid.names) :
    (mid.prepared now flags ino i).Each (s.ComesFrom t (.openFile path flags)) := by
  have hmid : mid.Each (s.ComesFrom t (.openFile path flags)) := by
    cases hloc with
    | found => exact each_comesFrom s t _
    | made hfree _ hcreate =>
      refine Each.linkNew ?_ hfree now _ _ hnames
      rw [Operation.places, if_pos hcreate]
      exact List.mem_singleton_self _
  unfold prepared
  split
  · next hempties =>
    refine hmid.setInode ?_
    cases hloc with
    | found hino =>
      have hedits : (Operation.openFile path flags).Edits s ino := ⟨hino, hempties⟩
      exact (hmid hi).next (retouches_edited hedits now i .empty)
    | made => exact comesFrom_new s t _ _
  · exact hmid

/-- After a request every inode with an old number comes from the one that bore it before. -/
theorem Consistent.each_comesFrom_of_effect (h : s.Consistent) (heffect : op.Effect now s t) :
    t.Each (s.ComesFrom t op) := by
  have hold := each_comesFrom s t op
  cases heffect with
  | nothing => exact hold
  | describe hi _ _ _ _ hop hino hbody hkept =>
    exact hold.setInode ((hold hi).next (retouches_described hop hino hbody hkept))
  | edit content hi _ hedits =>
    exact hold.setInode ((hold hi).next (retouches_edited hedits now _ content))
  | openFile hloc hi => exact hloc.each_prepared hi (names_prepared _ _ _)
  | create hfree => exact Each.linkNew (List.mem_singleton_self _) hfree now _ _ rfl
  | mkdir hfree => exact Each.linkNew (List.mem_singleton_self _) hfree now _ _ rfl
  | @close handle ino _ =>
    exact Each.releaseIfOrphaned (s := { s with openFiles := s.openFiles.erase handle.id }) hold ino
  | openDir => exact hold
  | @closeDir handle dir _ =>
    exact Each.releaseIfOrphaned (s := { s with openDirs := s.openDirs.erase handle.id }) hold
      dir.inode
  | @remove _ path _ _ hop hino hi =>
    refine hold.dropName ?_ ?_ hi now
    · rw [Operation.places_of_removes? hop]
      exact List.mem_singleton_self _
    · rw [names_dropLink, Std.TreeMap.getElem?_erase_self, hino]
      exact (Option.some_ne_none _).symm
  | rename hmovable hne hmoved =>
    exact Each.moveNames rfl rfl h hmoved hmovable hne (Path.isNormal_normalize _)

/-- A request that only looks at a store leaves all inodes as they are. -/
theorem inodes_of_inspects (hinspects : op.Inspects s) (heffect : op.Effect now s t) :
    t.inodes = s.inodes := by
  cases heffect with
  | nothing => rfl
  | describe _ _ _ _ _ hop =>
    cases op <;> cases hop <;> exact hinspects.elim
  | edit _ _ _ hedits => exact absurd hedits (hinspects.not_edits _)
  | openFile hloc =>
    cases hloc with
    | found =>
      rw [prepared, if_neg (Bool.eq_false_iff.mp hinspects.2)]
      rfl
    | made hfree => exact absurd hfree hinspects.1
  | openDir => rfl
  | remove hop =>
    cases op <;> cases hop <;> exact hinspects.elim
  | _ => exact hinspects.elim

/-- A request touches no inode but those that it is about. -/
theorem Consistent.request_touchesOnly (h : s.Consistent) (now : Timespec) (op : Operation) :
    s.TouchesOnly (s.request now op).2 op where
  retouched ino i j hi hj := by
    have heffect := request_effect h now op
    obtain ⟨old, hold, hretouches⟩ :=
      h.each_comesFrom_of_effect heffect hj (h.inode_lt (profile_of_inode hi))
    rw [hi] at hold
    cases hold
    exact hretouches
  inspected hinspects := inodes_of_inspects hinspects (request_effect h now op)

/-- **After every history a request touches nothing but its target and the times of the directories
in which a name comes or goes.** -/
theorem touchesOnly_after_new (start : Timespec) (uid gid : Nat)
    (history : List (Timespec × Operation)) (now : Timespec) (op : Operation) :
    ((Store.new start uid gid).after history).TouchesOnly
      ((((Store.new start uid gid).after history).request now op).2) op :=
  (Reachable.consistent ⟨start, uid, gid, history, rfl⟩).request_touchesOnly now op

end Store

end FileScript
