import FileScript.Proofs.Actions
import FileScript.Proofs.StoreRequests

/-!
# Slots of descriptors

A descriptor stands for the handle in its slot of the table of files. Whatever a statement does, the
handle stays there, moved at most, until the statement closes this very descriptor
(`Request.perform_keepsSlot`). Only four steps touch the table: a new handle gets a free slot, a
handle that was moved is put back into its slot, a close frees a slot, and a close that fails does
not.
-/

namespace FileScript

open FileScript.Action

/-! ## Slots -/

namespace Session

/-- The handle under a descriptor, at whatever offset it stands. -/
def Slot (x : Session) (fd id : Nat) (flags : OpenFlags) : Prop :=
  ∃ offset, x.files.get? fd = some { id, flags, offset }

/-- A descriptor that stands for a handle stands for it afterwards too. -/
def KeepsSlot (fd : Nat) (x y : Session) : Prop :=
  ∀ ⦃id : Nat⦄ ⦃flags : OpenFlags⦄, x.Slot fd id flags → y.Slot fd id flags

namespace KeepsSlot

variable {fd : Nat} {x y z : Session}

theorem refl (fd : Nat) (x : Session) : x.KeepsSlot fd x := fun _ _ h => h

theorem trans (h : x.KeepsSlot fd y) (h' : y.KeepsSlot fd z) : x.KeepsSlot fd z :=
  fun _ _ hx => h' (h hx)

theorem of_files (h : y.files = x.files) : x.KeepsSlot fd y := by
  rintro id flags ⟨offset, hget⟩
  exact ⟨offset, h ▸ hget⟩

/-- A new handle gets a descriptor that stood for none. -/
theorem insert {handle : FileHandle} {index : Nat} {files : DescriptorTable FileHandle}
    (h : x.files.insert? handle = some (index, files)) :
    x.KeepsSlot fd { x with files } := by
  rintro id flags ⟨offset, hget⟩
  refine ⟨offset, ?_⟩
  rw [DescriptorTable.get?_of_insert? h, if_neg, hget]
  rintro rfl
  rw [DescriptorTable.get?_eq_none_of_insert? h] at hget
  cases hget

theorem erase {other : Nat} (h : fd ≠ other) :
    x.KeepsSlot fd { x with files := x.files.erase other } := by
  rintro id flags ⟨offset, hget⟩
  exact ⟨offset, by rw [DescriptorTable.get?_erase, if_neg h, hget]⟩

/-- A handle that was moved is put back. -/
theorem replace {other : Nat} {handle : FileHandle} (h : x.Slot other handle.id handle.flags) :
    x.KeepsSlot fd { x with files := x.files.replace other handle } := by
  rintro id flags ⟨offset, hget⟩
  obtain ⟨before, hbefore⟩ := h
  by_cases hsame : fd = other
  · subst hsame
    cases hget.symm.trans hbefore
    exact ⟨handle.offset, by rw [DescriptorTable.get?_replace, if_pos rfl, hget, Option.map_some]⟩
  · exact ⟨offset, by rw [DescriptorTable.get?_replace, if_neg hsame, hget]⟩

end KeepsSlot

end Session

namespace Action

variable {α β : Type} {act : Action α} {next : α → Action β} {fd : Nat}

/-- However it ends, an action leaves the handle under the descriptor `fd` there. -/
def KeepingSlot (fd : Nat) (act : Action α) : Prop :=
  ∀ x : Session, Leads act x (fun _ y => x.KeepsSlot fd y) fun _ y => x.KeepsSlot fd y

theorem keepingSlot_pure (a : α) : KeepingSlot fd (pure a) := fun x => leads_pure (.refl fd x)

theorem KeepingSlot.bind (h : KeepingSlot fd act) (hnext : ∀ a, KeepingSlot fd (next a)) :
    KeepingSlot fd (act >>= next) := fun x =>
  leads_bind ((h x).mono (fun a y hy => (hnext a y).mono (fun _ _ hz => hy.trans hz)
    fun _ _ hz => hy.trans hz) fun _ _ hy => hy)

theorem KeepingSlot.traced {source : LogSource} {label : String} (h : KeepingSlot fd act) :
    KeepingSlot fd (traced source label act) := fun x => leads_traced (h x)

theorem KeepingSlot.reportStatus {source : LogSource} {label : String} (h : KeepingSlot fd act) :
    KeepingSlot fd (reportStatus source label act) := fun x => leads_reportStatus (h x)

theorem keepingSlot_report (source : LogSource) (level : LogLevel) (text : String) :
    KeepingSlot fd (report source level text) := fun x => leads_report (.refl fd x)

/-- A request to the store does not touch the descriptors. -/
theorem keepingSlot_settle (reply : Volume → Except Errno α × Volume) :
    KeepingSlot fd (settle reply) := fun _ => leads_settle (.of_files rfl)

theorem keepingSlot_request (op : Timespec → Store.Update α) : KeepingSlot fd (request op) :=
  (keepingSlot_settle _).bind fun _ x =>
    leads_ofExcept (fun _ _ => .refl fd x) fun _ _ => .refl fd x

theorem keepingSlot_fileAt_bind {other : Nat} {next : FileHandle → Action β}
    (h : ∀ x handle, x.Slot other handle.id handle.flags →
      Leads (next handle) x (fun _ y => x.KeepsSlot fd y) fun _ y => x.KeepsSlot fd y) :
    KeepingSlot fd (fileAt other >>= next) := fun x =>
  leads_bind (leads_fileAt (fun handle hget => h x handle ⟨handle.offset, hget⟩) (.refl fd x))

theorem keepingSlot_dirAt (other : Nat) : KeepingSlot fd (dirAt other) := fun x =>
  leads_dirAt (fun _ _ => .refl fd x) (.refl fd x)

theorem keepingSlot_putDir (other : Nat) (handle : DirHandle) :
    KeepingSlot fd (putDir other handle) := fun _ => leads_putDir (.of_files rfl)

theorem keepingSlot_installFile (handle : FileHandle) :
    KeepingSlot fd (installFile handle) := fun x =>
  leads_installFile (fun _ _ h => .insert h) fun _ => keepingSlot_settle _ x

theorem keepingSlot_installDir (handle : DirHandle) : KeepingSlot fd (installDir handle) := fun x =>
  leads_installDir (fun _ _ _ => .of_files rfl) fun _ => keepingSlot_settle _ x

/-- Only the descriptor that is closed is freed, and only if the close does not fail. -/
theorem leads_closeFile_slots (other : Nat) (x : Session) :
    Leads (closeFile other) x (fun _ y => fd ≠ other → x.KeepsSlot fd y)
      fun _ y => x.KeepsSlot fd y := by
  refine leads_closeFile (fun handle _ => (keepingSlot_settle _ x).mono (fun result y hy => ?_)
    fun _ _ hy => hy) (.refl fd x)
  cases result with
  | ok => exact fun hother => (Session.KeepsSlot.erase hother).trans (.of_files rfl)
  | error e => exact hy

theorem keepingSlot_closeDir (other : Nat) : KeepingSlot fd (closeDir other) := by
  intro x
  refine leads_closeDir (fun handle _ => (keepingSlot_settle _ x).mono (fun result y hy => ?_)
    fun _ _ hy => hy) (.refl fd x)
  cases result with
  | ok => exact hy.trans (.of_files rfl)
  | error e => exact hy

/-- A handle is moved twice, and put back each time. -/
theorem keepingSlot_seeking {other offset : Nat} {update : FileHandle → Timespec → Store.Update α}
    {moved : α → FileHandle} (out : α → Output)
    (h : ∀ handle now s, Ends (update handle now) s
      (fun a _ => (moved a).id = handle.id ∧ (moved a).flags = handle.flags) fun _ _ => True)
    {x : Session} {handle : FileHandle} (hslot : x.Slot other handle.id handle.flags) :
    Leads (do
      let handle ← request fun _ => Store.seek handle offset
      putFile other handle
      let a ← request (update handle)
      putFile other (moved a)
      return out a) x (fun _ y => x.KeepsSlot fd y) fun _ y => x.KeepsSlot fd y := by
  refine leads_bind (leads_request ((Store.seek_ends handle offset).mono ?_
    fun _ _ _ => .of_files rfl))
  rintro _ t ⟨rfl, -⟩
  -- the slot of the handle is kept itself, so the handle can be put back once more
  have hput {fd : Nat} : x.KeepsSlot fd
      { x with files := x.files.replace other { handle with offset } } := .replace hslot
  have hfirst {fd : Nat} : x.KeepsSlot fd { x.replied t with
      files := x.files.replace other { handle with offset } } := hput.trans (.of_files rfl)
  refine leads_bind (leads_putFile (leads_bind (leads_request ((h _ _ _).mono ?_
    fun _ _ _ => hfirst.trans (.of_files rfl)))))
  rintro a u ⟨hid, hflags⟩
  have hmoved : Session.Slot { x.replied t with
      files := x.files.replace other { handle with offset } } other (moved a).id
        (moved a).flags := by
    rw [hid, hflags]
    exact hfirst hslot
  refine leads_bind (leads_putFile (leads_pure ?_))
  exact hfirst.trans ((Session.KeepsSlot.replace hmoved).trans (.of_files rfl))

end Action

/-! ## Statements and slots -/

namespace Store

variable {s : Store} {now : Timespec}

theorem read_same (handle : FileHandle) (count : Nat) :
    Ends (read handle count) s
      (fun result _ => result.2.id = handle.id ∧ result.2.flags = handle.flags)
      fun _ _ => True := by
  unfold read
  simp only [Ends.bind_iff, Ends.ask_iff, Ends.ite_iff, Ends.throw_iff, implies_true, and_true]
  intro ino _ _ i _
  cases i.node <;> simp

theorem write_same (handle : FileHandle) (data : ByteArray) :
    Ends (write now handle data) s
      (fun moved _ => moved.id = handle.id ∧ moved.flags = handle.flags) fun _ _ => True := by
  unfold write
  simp only [Ends.bind_iff, Ends.ask_iff, Ends.ite_iff, Ends.throw_iff, implies_true, and_true]
  intro ino _ _ i _
  cases i.node <;> simp

end Store

namespace Request

variable {fd : Nat}

theorem keepingSlot_silently (source : LogSource) (label : String)
    (op : Timespec → Store.Update Unit) : KeepingSlot fd (silently source label op) :=
  (keepingSlot_request op).traced.bind fun _ => keepingSlot_pure _

theorem keepingSlot_fetch (label : String) (op : ByteArray → Store.Update (Nat × ByteArray)) :
    KeepingSlot fd (fetch label op) := by
  unfold fetch
  refine (keepingSlot_report _ _ _).bind fun _ => (keepingSlot_request _).reportStatus.bind
    fun (size, _) => ?_
  dsimp only
  split
  · exact keepingSlot_pure _
  · exact (keepingSlot_request _).reportStatus.bind fun _ => keepingSlot_pure _

theorem keepingSlot_runShell (command : String) : KeepingSlot fd (runShell command) := by
  intro x
  refine (leads_runShell command).mono ?_ ?_
  · rintro _ _ rfl
    exact .refl fd _
  · rintro _ _ ⟨-, rfl⟩
    exact .refl fd _

/-- **A descriptor stands for the same handle until that is closed**, whatever is done with it and
with other descriptors. -/
theorem perform_keepsSlot (r : Request) (fd : Nat) (x : Session) :
    Leads r.perform x (fun _ y => r ≠ close fd → x.KeepsSlot fd y) fun _ y => x.KeepsSlot fd y := by
  have hkeeps (h : KeepingSlot fd r.perform) : Leads r.perform x
      (fun _ y => r ≠ close fd → x.KeepsSlot fd y) fun _ y => x.KeepsSlot fd y :=
    (h x).mono (fun _ _ hy _ => hy) fun _ _ hy => hy
  cases r with
  | close other =>
    refine leads_bind (leads_traced ((leads_closeFile_slots other x).mono ?_ fun _ _ hy => hy))
    exact fun _ y hy => leads_pure fun hother => hy fun he => hother (he ▸ rfl)
  | create path mode =>
    exact hkeeps ((keepingSlot_request _).traced.bind fun handle =>
      (keepingSlot_installFile handle).bind fun _ => keepingSlot_pure _)
  | openFile path flags =>
    exact hkeeps ((keepingSlot_request _).traced.bind fun handle =>
      (keepingSlot_installFile handle).bind fun _ => keepingSlot_pure _)
  | read other offset count =>
    exact hkeeps (keepingSlot_fileAt_bind fun x handle hslot => leads_traced
      (keepingSlot_seeking (fun a : ByteArray × FileHandle => .data a.1)
        (fun handle _ _ => Store.read_same handle count) hslot))
  | write other offset count text =>
    exact hkeeps (keepingSlot_fileAt_bind fun x handle hslot => leads_traced
      (keepingSlot_seeking (fun _ => .count count)
        (fun handle _ _ => Store.write_same handle _) hslot))
  | sync other =>
    exact hkeeps (keepingSlot_fileAt_bind fun x _ _ => keepingSlot_silently _ _ _ x)
  | truncateOpen other size =>
    exact hkeeps (keepingSlot_fileAt_bind fun x _ _ => keepingSlot_silently _ _ _ x)
  | openDir path =>
    exact hkeeps ((keepingSlot_request _).traced.bind fun handle =>
      (keepingSlot_installDir handle).bind fun _ => keepingSlot_pure _)
  | readDir other count =>
    exact hkeeps ((keepingSlot_dirAt other).bind fun handle => KeepingSlot.traced
      ((keepingSlot_request _).bind fun (_, handle) =>
        (keepingSlot_putDir other handle).bind fun _ => keepingSlot_pure _))
  | closeDir other =>
    exact hkeeps ((keepingSlot_closeDir other).traced.bind fun _ => keepingSlot_pure _)
  | stat path =>
    exact hkeeps ((keepingSlot_request _).traced.bind fun _ => keepingSlot_pure _)
  | getXattr path name =>
    exact hkeeps ((keepingSlot_fetch _ _).bind fun _ => keepingSlot_pure _)
  | listXattr path =>
    exact hkeeps ((keepingSlot_fetch _ _).bind fun _ => keepingSlot_pure _)
  | shell command => exact hkeeps (keepingSlot_runShell command)
  | mkdir | rmdir | access | chmod | chown | truncate | unlink | rename | utime | setXattr
  | removeXattr => exact hkeeps (keepingSlot_silently _ _ _)

end Request

end FileScript
