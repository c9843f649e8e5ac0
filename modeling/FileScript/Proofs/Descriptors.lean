import FileScript.Proofs.Entries
import FileScript.Proofs.Ledgers
import FileScript.Proofs.Numbers
import FileScript.Proofs.Slots
import FileScript.Proofs.SparedFiles
import FileScript.Proofs.Statements

/-!
# Descriptors of files

A descriptor that was printed stands for the file that was opened until it is closed
(`Frame.Reachable.descriptor_serves`), whatever statements come in between.

1. `Request.perform_keepsSlot`: its slot holds the same handle.
2. `Frame.Reachable.balanced`: a handle that is in a slot is open.
3. `Store.Descends`: it is open on the inode on which it was opened, which is still there.
4. `Request.perform_spares`: the bytes of the file are changed only by edits of this very file.
-/

namespace FileScript

open FileScript.Action

/-! ## Reading through an open handle -/

namespace Store

theorem Evolves.descends {s t : Store} (hevolves : s.Evolves t) (h : s.Consistent) :
    Descends s t := by
  obtain ⟨history, rfl⟩ := hevolves
  exact h.after_descends history

variable {s : Store} {handle : FileHandle} {ino : Nat}

theorem seek_of_open (hino : s.openFiles[handle.id]? = some ino) (offset : Nat) :
    Ends (seek handle offset) s (fun moved t => moved = { handle with offset } ∧ t = s)
      fun _ _ => False := by
  unfold seek
  rw [Ends.bind_iff, ends_ask_fileInode hino]
  exact ⟨rfl, rfl⟩

theorem read_of_open {i : Inode} {content : ByteArray}
    (hino : s.openFiles[handle.id]? = some ino) (hi : s.inodes[ino]? = some i)
    (hnode : i.node = .file content) (count : Nat) :
    Ends (read handle count) s
      (fun result _ => handle.flags.readable = true ∧
        result.1 = Content.slice content handle.offset count)
      fun e _ => handle.flags.readable = false ∧ e = .badDescriptor := by
  unfold read
  rw [Ends.bind_iff, ends_ask_fileInode hino, Ends.ite_iff]
  refine ⟨fun hreadable => ?_, fun hflags => ⟨Bool.eq_false_of_not_eq_true hflags, rfl⟩⟩
  rw [Ends.bind_iff, ends_ask_inode hi]
  simp only [hnode, Ends.pure_iff, and_true]
  exact hreadable

end Store

theorem Action.leads_fileAt_of_get? {x : Session} {fd : Nat} {handle : FileHandle}
    {good : FileHandle → Session → Prop} {bad : Fault → Session → Prop}
    (hget : x.files.get? fd = some handle) (h : good handle x) :
    Leads (fileAt fd) x good bad := by
  refine leads_bind (leads_session ?_)
  rw [DescriptorTable.lookup, hget]
  exact leads_pure h

/-! ## Opening -/

namespace Request

/-- The path and the flags with which a statement opens a file. -/
def opens? : Request → Option (String × OpenFlags)
  | create path _ => some (path, .readWrite)
  | openFile path flags => some (path, ⟨.ofNat flags⟩)
  | _ => none

/-- The descriptor `fd` has been given to the file that a path names. -/
structure Gives (path : String) (flags : OpenFlags) (y : Session) (fd id ino : Nat) : Prop where
  slot : y.Slot fd id flags
  bound : y.volume.store.openFiles[id]? = some ino
  named : y.volume.store.names[Path.normalize path]? = some ino

variable {x : Session} {path : String} {flags : OpenFlags}

/-- A file that was opened gets a descriptor, unless none is free. -/
theorem installFile_gives {opened t : Store} {handle : FileHandle} {ino : Nat}
    (hregister : opened.registerFile ino flags = (handle, t))
    (hnamed : opened.names[Path.normalize path]? = some ino) :
    Leads (installFile handle) (x.replied t)
      (fun fd y => ∃ id ino, Gives path flags y fd id ino) fun _ _ => True := by
  cases hregister
  refine leads_installFile (fun fd files hinsert => ?_) fun _ => ?_
  · refine ⟨opened.nextHandle, ino, ⟨0, ?_⟩, ?_, hnamed⟩
    · rw [DescriptorTable.get?_of_insert? hinsert, if_pos rfl]
    · show (opened.openFiles.insert opened.nextHandle ino)[opened.nextHandle]? = some ino
      exact Std.TreeMap.getElem?_insert_self
  · exact leads_requestClose (fun _ => trivial) fun _ =>
      (Store.close_keepsContents _).mono (fun _ _ _ => trivial) fun _ _ _ => trivial

/-- A descriptor that is printed when a file is opened has been given to it. -/
theorem opens_leads (hstore : x.volume.store.Consistent) {r : Request}
    (h : r.opens? = some (path, flags)) :
    Leads r.perform x
      (fun out y => ∀ fd, out = .descriptor fd → ∃ id ino, Gives path flags y fd id ino)
      fun _ _ => True := by
  unfold opens? at h
  split at h
  · next mode =>
    cases h
    refine leads_bind (leads_traced (leads_request ((Store.create_ends path _).mono ?_
      fun _ _ _ => trivial)))
    rintro handle t ⟨hfree, hparent, hregister⟩
    have hnamed : (x.volume.store.link x.now (Path.normalize path) (.file .empty)
        (.ofNat mode)).names[Path.normalize path]? = some x.volume.store.nextInode := by
      rw [Store.getElem?_names_link, if_pos rfl]
    refine leads_bind ((installFile_gives hregister hnamed).mono ?_ fun _ _ _ => trivial)
    rintro fd y hy
    refine leads_pure ?_
    rintro _ ⟨⟩
    exact hy
  · next bits =>
    cases h
    refine leads_bind (leads_traced (leads_request ((Store.openFile_ends hstore path _).mono ?_
      fun _ _ _ => trivial)))
    rintro handle t ⟨mid, ino, i, hloc, hi, hkind, hregister⟩
    have hnamed : (mid.prepared x.now ⟨.ofNat bits⟩ ino i).names[Path.normalize path]? =
        some ino := by
      rw [Store.names_prepared]
      cases hloc with
      | found hino => exact hino
      | made => rw [Store.getElem?_names_link, if_pos rfl]
    refine leads_bind ((installFile_gives hregister hnamed).mono ?_ fun _ _ _ => trivial)
    rintro fd y hy
    refine leads_pure ?_
    rintro _ ⟨⟩
    exact hy
  · cases h

/-- What is read through a descriptor is a piece of the bytes of the file on which it is open. -/
theorem read_leads_slice {fd id ino offset count : Nat} {i : Inode} {content : ByteArray}
    (hslot : x.Slot fd id flags) (hbound : x.volume.store.openFiles[id]? = some ino)
    (hi : x.volume.store.inodes[ino]? = some i) (hnode : i.node = .file content) :
    Leads (read fd offset count).perform x
      (fun out _ => flags.readable = true ∧ out = .data (Content.slice content offset count))
      fun fault _ => flags.readable = false ∧ fault = .refused .badDescriptor := by
  obtain ⟨before, hget⟩ := hslot
  refine leads_bind (leads_fileAt_of_get? hget (leads_traced ?_))
  refine leads_bind (leads_request ((Store.seek_of_open hbound offset).mono ?_
    fun _ _ h => h.elim))
  rintro _ _ ⟨rfl, rfl⟩
  refine leads_bind (leads_putFile (leads_bind (leads_request
    ((Store.read_of_open hbound hi hnode count).mono ?_ ?_))))
  · rintro ⟨data, moved⟩ _ ⟨hreadable, rfl⟩
    exact leads_bind (leads_putFile (leads_pure ⟨hreadable, rfl⟩))
  · rintro _ _ ⟨hreadable, rfl⟩
    exact ⟨hreadable, rfl⟩

end Request

/-! ## Statements in between -/

namespace Frame

/-- A session goes on without closing a descriptor. Closing it may be tried and fail, and closing
can be made to fail and to succeed again at any time. -/
inductive Continues (fd : Nat) (f : Frame) : Frame → Prop
  | refl : Continues fd f f
  | statement {g : Frame} (h : Continues fd f g) (s : Statement)
      (hopen : s.AsksFor (.close fd) → ∀ out, (g.run (Builtin.registry.execute s)).1 ≠ .ok out) :
      Continues fd f (g.run (Builtin.registry.execute s)).2
  | failsClose {g : Frame} (h : Continues fd f g) (fails : Bool) :
      Continues fd f { g with session.volume.failsClose := fails }

/-- The descriptor `fd` stands for the handle `id`, which is open with these flags on the file `ino`
with these bytes, and it is these bytes that statements read through it. -/
structure Serves (f : Frame) (fd id : Nat) (flags : OpenFlags) (ino : Nat) (content : ByteArray) :
    Prop where
  slot : f.session.Slot fd id flags
  bound : f.session.volume.store.openFiles[id]? = some ino
  inode : ∃ i, f.session.volume.store.inodes[ino]? = some i ∧ i.node = .file content
  reads : ∀ ⦃s : Statement⦄ ⦃offset count : Nat⦄, s.AsksFor (.read fd offset count) →
    (f.run (Builtin.registry.execute s)).1 =
      if flags.readable then .ok (.data (Content.slice content offset count))
      else .error (.refused .badDescriptor)

/-- Every handle in a table is open. -/
theorem Reachable.balanced {f : Frame} (h : f.Reachable) :
    ∃ fails leaks, f.session.Balanced fails leaks := by
  induction h with
  | @start f settings hstore hsession =>
    refine ⟨_, { files := f.session.volume.store.fileIds, dirs := f.session.volume.store.dirIds },
      hstore.consistent, rfl, ?_, ?_⟩ <;> rw [hsession] <;> exact .refl _
  | statement _ s ih =>
    obtain ⟨fails, leaks, hbalanced⟩ := ih
    exact ⟨fails, _, run_execute_balanced hbalanced s⟩
  | @teardown f _ ih =>
    obtain ⟨fails, leaks, hbalanced⟩ := ih
    exact ⟨fails, _, (run_teardown f).2 ▸ hbalanced.tornDown.2.2⟩
  | failsClose _ _ ih =>
    obtain ⟨fails, leaks, hbalanced⟩ := ih
    exact ⟨_, leaks, hbalanced.consistent, rfl, hbalanced.mine, hbalanced.theirs⟩

/-- A handle in a slot is open, on a file that is there. -/
theorem Reachable.exists_serves {f : Frame} (h : f.Reachable) {fd id : Nat} {flags : OpenFlags}
    (hslot : f.session.Slot fd id flags) :
    ∃ ino content, f.Serves fd id flags ino content := by
  obtain ⟨fails, leaks, hbalanced⟩ := h.balanced
  have ⟨before, hget⟩ := hslot
  have hmem : id ∈ f.session.volume.store.fileIds := by
    refine hbalanced.mine.subset (List.mem_append_left _ ?_)
    have hhandle := (DescriptorTable.handles_erase hget).symm.subset List.mem_cons_self
    exact List.mem_map_of_mem hhandle
  obtain ⟨ino, hbound⟩ := mem_keys_iff.mp hmem
  obtain ⟨i, content, hi, hnode, -⟩ := h.consistent.file_of_open hbound
  refine ⟨ino, content, hslot, hbound, ⟨i, hi, hnode⟩, fun s offset count hasks => ?_⟩
  have hleads : Leads (Request.read fd offset count).perform f.session _ _ :=
    Request.read_leads_slice hslot hbound hi hnode
  have hrun := hleads.run
  rw [hasks.execute_eq]
  split at hrun
  · next heq =>
    obtain ⟨hreadable, rfl⟩ := hrun
    rw [heq, if_pos hreadable]
  · next heq =>
    obtain ⟨hreadable, rfl⟩ := hrun
    rw [heq, if_neg (by rw [hreadable]; exact Bool.false_ne_true)]

/-! ## Statements and what is open -/

theorem run_keepsSlot {f : Frame} {fd : Nat} (s : Statement)
    (hopen : s.AsksFor (.close fd) → ∀ out, (f.run (Builtin.registry.execute s)).1 ≠ .ok out) :
    f.session.KeepsSlot fd (f.run (Builtin.registry.execute s)).2.session := by
  rcases s.execute_cases with ⟨r, hasks, heq⟩ | ⟨fault, -, heq⟩
  · have hrun := (r.perform_keepsSlot fd f.session).run
    rw [heq] at hopen ⊢
    split at hrun
    · next out g hresult =>
      rw [hresult] at hopen ⊢
      exact hrun fun hclose => hopen (hclose ▸ hasks) out rfl
    · next hresult =>
      rw [hresult]
      exact hrun
  · rw [heq]
    exact .refl fd _

theorem run_spares {f : Frame} (hstore : f.session.volume.store.Consistent) {ino : Nat}
    (hlt : ino < f.session.volume.store.nextInode) (s : Statement)
    (hspared : ∀ r, s.AsksFor r → ¬ r.Edits f.session ino) :
    f.session.volume.store.Spares ino
      (f.run (Builtin.registry.execute s)).2.session.volume.store := by
  rcases s.execute_cases with ⟨r, hasks, heq⟩ | ⟨fault, -, heq⟩
  · have hrun := (Request.perform_spares hstore hlt r (hspared r hasks)).run
    rw [heq]
    split at hrun <;> next hresult => rw [hresult]; exact hrun
  · rw [heq]
    exact .refl ino _

namespace Continues

variable {f g : Frame} {fd : Nat}

theorem reachable (h : f.Continues fd g) (hf : f.Reachable) : g.Reachable := by
  induction h with
  | refl => exact hf
  | statement _ s _ ih => exact .statement ih s
  | failsClose _ fails ih => exact .failsClose ih fails

theorem keepsSlot (h : f.Continues fd g) : f.session.KeepsSlot fd g.session := by
  induction h with
  | refl => exact .refl fd _
  | statement _ s hopen ih => exact ih.trans (run_keepsSlot s hopen)
  | failsClose _ _ ih => exact ih.trans (.of_files rfl)

theorem descends (h : f.Continues fd g) (hf : f.Reachable) :
    Store.Descends f.session.volume.store g.session.volume.store := by
  induction h with
  | refl => exact .refl _
  | @statement k h s _ ih =>
    have hevolves := (Builtin.evolving_execute s).run k
    exact ih.trans (hevolves.descends (h.reachable hf).consistent)
  | failsClose _ _ ih => exact ih

end Continues

/-- **What a descriptor stands for stays** as long as it is not closed: the same handle, the same
file, and bytes that nothing but edits of this file changes. -/
theorem Reachable.descriptor_serves {f g : Frame} (h : f.Reachable) {s : Statement} {r : Request}
    {path : String} {flags : OpenFlags} {fd : Nat} (hasks : s.AsksFor r)
    (hopens : r.opens? = some (path, flags))
    (hrun : f.run (Builtin.registry.execute s) = (.ok (.descriptor fd), g)) :
    ∃ id ino, g.session.volume.store.names[Path.normalize path]? = some ino ∧
      ∀ k, g.Continues fd k → ∃ content, k.Serves fd id flags ino content ∧
        ∀ s' : Statement,
          (s'.AsksFor (.close fd) →
            ∀ out, (k.run (Builtin.registry.execute s')).1 ≠ .ok out) →
          (∀ r', s'.AsksFor r' → ¬ r'.Edits k.session ino) →
            (k.run (Builtin.registry.execute s')).2.Serves fd id flags ino content := by
  have hg : g.Reachable := by
    have hnext := h.statement s
    rwa [hrun] at hnext
  have hleads := (Request.opens_leads h.consistent hopens).run
  rw [← hasks.execute_eq, hrun] at hleads
  obtain ⟨id, ino, hgives⟩ := hleads fd rfl
  -- in every session that follows, the slot, the handle and the file are those of the beginning
  have hserves : ∀ k, g.Continues fd k → ∃ content, k.Serves fd id flags ino content := by
    intro k hk
    obtain ⟨other, content, hserves⟩ := (hk.reachable hg).exists_serves (hk.keepsSlot hgives.slot)
    have hsame := (hk.descends hg).file_eq (hg.consistent.file_lt hgives.bound) hserves.bound
    cases hsame.symm.trans hgives.bound
    exact ⟨content, hserves⟩
  refine ⟨id, ino, hgives.named, fun k hk => ?_⟩
  obtain ⟨content, hk'⟩ := hserves k hk
  refine ⟨content, hk', fun s' hopen hspared => ?_⟩
  obtain ⟨content', hnext⟩ := hserves _ (hk.statement s' hopen)
  obtain ⟨i, hi, hnode⟩ := hk'.inode
  obtain ⟨j, hj, hnode'⟩ := hnext.inode
  have hconsistent := (hk.reachable hg).consistent
  have hlt := hconsistent.inode_lt (Store.profile_of_inode hi)
  have hbefore : k.session.volume.store.content ino = some (Content.bytes content) := by
    rw [Store.content_of_inode hi, hnode]
    rfl
  have hafter : (k.run (Builtin.registry.execute s')).2.session.volume.store.content ino =
      some (Content.bytes content') := by
    rw [Store.content_of_inode hj, hnode']
    rfl
  have hspares := run_spares hconsistent hlt s' hspared hafter
  cases Content.bytes_injective (Option.some.inj (hspares.symm.trans hbefore))
  exact hnext

/-! ## A file that has lost its path -/

/-- A statement that removes a file. -/
def removal (path : String) : Statement where
  line := s!"unlink {path}"
  command := "unlink"
  args := [path]

/-- A session at its beginning. -/
def fresh : Frame := { session := Session.new {} (.new fun _ => {}) }

/-- A file was made. -/
def made : Frame := (fresh.run (Builtin.registry.execute (creation "/a"))).2

/-- Then it was removed, and another one was made at its path. -/
def renewed : Frame :=
  ((made.run (Builtin.registry.execute (removal "/a"))).2.run
    (Builtin.registry.execute (creation "/a"))).2

theorem creation_asksFor : (creation "/a").AsksFor (.create "/a" 0o644) :=
  ⟨.create, rfl, by decide +kernel⟩

theorem removal_asksFor : (removal "/a").AsksFor (.unlink "/a") := ⟨.unlink, rfl, rfl⟩

theorem made_continues_renewed : made.Continues 0 renewed := by
  refine .statement (.statement .refl _ fun h => ?_) _ fun h => ?_
  · cases removal_asksFor.unique h
  · cases creation_asksFor.unique h

set_option maxRecDepth 4000 in
theorem fresh_prints : (fresh.run (Builtin.registry.execute (creation "/a"))).1 =
    .ok (.descriptor 0) := by
  cbv

set_option maxRecDepth 4000 in
theorem names_made : made.session.volume.store.names[Path.normalize "/a"]? = some 2 := by
  cbv

set_option maxRecDepth 8000 in
theorem names_renewed : renewed.session.volume.store.names["/a"]? = some 3 := by
  cbv

/-- The descriptor stands for the file that was removed, not for the one at its path. -/
theorem renewed_serves : (∃ id content, renewed.Serves 0 id .readWrite 2 content) ∧
    renewed.session.volume.store.names["/a"]? = some 3 := by
  have hfresh : fresh.Reachable := .start {} ⟨_, _, _, [], rfl⟩ rfl
  obtain ⟨id, ino, hnamed, hserves⟩ :=
    hfresh.descriptor_serves creation_asksFor rfl (Prod.ext fresh_prints rfl)
  cases hnamed.symm.trans names_made
  obtain ⟨content, hrenewed, -⟩ := hserves renewed made_continues_renewed
  exact ⟨⟨id, content, hrenewed⟩, names_renewed⟩

end Frame

end FileScript
