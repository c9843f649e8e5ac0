import FileScript.Proofs.Blindness
import FileScript.Proofs.Descriptors

/-!
# Where a handle stands

A handle of a file carries an offset from one statement to the next, but no statement sees where an
earlier one has left it: `read` and `write` begin by moving the handle to the offset that they are
given, a handle that appends writes at the end of the file, and nothing else looks at an offset. So
two sessions that differ in the offsets of their handles alone print the same and fail alike,
whatever statements follow (`Session.SameButOffsets.indistinguishable`). In particular a read has no
influence on what comes after it, unless time passes by it (`Frame.executeAll_after_read`).
-/

namespace FileScript

/-- What is seen of a handle: all but its offset. -/
def FileHandle.rewound (handle : FileHandle) : FileHandle := { handle with offset := 0 }

theorem FileHandle.moved_of_rewound {a b : FileHandle} (h : a.rewound = b.rewound) :
    ∃ offset, b = { a with offset } := by
  cases a
  cases b
  cases h
  exact ⟨_, rfl⟩

theorem FileHandle.rewound_eq {a b : FileHandle} (hid : a.id = b.id) (hflags : a.flags = b.flags) :
    a.rewound = b.rewound := by
  rw [rewound, rewound, hid, hflags]

/-- Two tables hold the same handles under the same descriptors, but for the offsets. -/
abbrev DescriptorTable.SameButOffsets (t u : DescriptorTable FileHandle) : Prop :=
  LooksLike FileHandle.rewound t u

theorem DescriptorTable.SameButOffsets.lookup {t u : DescriptorTable FileHandle}
    (h : t.SameButOffsets u) (fd : Nat) :
    Agree (fun a b => ∃ offset, b = { a with offset }) (t.lookup fd) (u.lookup fd) := by
  have hget := h.map_get? fd
  unfold DescriptorTable.lookup
  generalize t.get? fd = a at hget ⊢
  generalize u.get? fd = b at hget ⊢
  obtain _ | a := a <;> obtain _ | b := b
  · exact .error _
  · cases hget
  · cases hget
  · exact .ok (FileHandle.moved_of_rewound (Option.some.inj hget))

/-! ## Volumes on which the same will happen -/

/-- Two volumes have the same store, and from now on their clocks show the same times and the same
requests to close a handle fail. -/
structure Volume.SameReadings (v w : Volume) : Prop where
  store : v.store = w.store
  clock : ∀ n, v.clock (v.requests + n) = w.clock (w.requests + n)
  failsClose : v.failsClose = w.failsClose
  failing : ∀ n, v.failing (v.requests + n) = w.failing (w.requests + n)

namespace Volume.SameReadings

variable {v w : Volume}

/-- After a request to each of two volumes that leaves the same store, the readings are the same. -/
theorem after (h : v.SameReadings w) (store : Store) :
    SameReadings { v with store, requests := v.requests + 1 }
      { w with store, requests := w.requests + 1 } where
  store := rfl
  clock n := by simpa only [Nat.add_assoc] using h.clock (1 + n)
  failsClose := h.failsClose
  failing n := by simpa only [Nat.add_assoc] using h.failing (1 + n)

theorem request (h : v.SameReadings w) {α : Type} (op : Timespec → Store.Update α) :
    (v.request op).1 = (w.request op).1 ∧ (v.request op).2.SameReadings (w.request op).2 := by
  have hclock : v.clock v.requests = w.clock w.requests := h.clock 0
  unfold Volume.request
  rw [hclock, h.store]
  cases op (w.clock w.requests) w.store with
  | ok a store => exact ⟨rfl, h.after store⟩
  | error e store => exact ⟨rfl, h.after store⟩

theorem requestClose (h : v.SameReadings w) (op : Store.Update Unit) :
    (v.requestClose op).1 = (w.requestClose op).1 ∧
      (v.requestClose op).2.SameReadings (w.requestClose op).2 := by
  have hfails : v.failsCloseAt v.requests = w.failsCloseAt w.requests :=
    congrArg₂ and h.failsClose (h.failing 0)
  unfold Volume.requestClose
  rw [hfails]
  split
  · exact ⟨rfl, h.store ▸ h.after v.store⟩
  · exact h.request _

end Volume.SameReadings

namespace Volume

variable {v : Volume}

/-- The clock of a volume stands still, and closing handles fails always or never. -/
def Steady (v : Volume) : Prop := ∀ n, v.SameReadings { v with requests := v.requests + n }

theorem Steady.after (h : v.Steady) (store : Store) :
    Steady { v with store, requests := v.requests + 1 } := fun n => by
  have hafter := (h n).after store
  rwa [Nat.add_right_comm] at hafter

theorem Steady.request (h : v.Steady) {α : Type} (op : Timespec → Store.Update α) :
    (v.request op).2.Steady := by
  unfold Volume.request
  split
  · exact h.after _
  · exact h.after _

theorem Steady.requestClose (h : v.Steady) (op : Store.Update Unit) :
    (v.requestClose op).2.Steady := by
  unfold Volume.requestClose
  split
  · exact h.after v.store
  · exact h.request _

end Volume

/-! ## Sessions that differ in offsets alone -/

/-- Two sessions are the same but for the offsets of their file handles. -/
structure Session.SameButOffsets (x y : Session) : Prop where
  volume : x.volume.SameReadings y.volume
  files : x.files.SameButOffsets y.files
  dirs : x.dirs = y.dirs
  maxArgs : x.maxArgs = y.maxArgs
  allowShell : x.allowShell = y.allowShell

/-- The likeness of frames in which the sessions are the same but for offsets. -/
def Likeness.offsets : Likeness where
  volumes := Volume.SameReadings
  files := DescriptorTable.SameButOffsets
  hosts _ _ := True
  store h := h.store
  request h _ op := h.request op
  requestClose h op := h.requestClose op
  capacity h := h.capacity
  lookup h fd := h.lookup fd
  insert? h handle := h.insert? handle
  replace h fd _ := h.replace fd rfl
  erase h fd := h.erase fd

theorem Likeness.frames_offsets_iff {f g : Frame} :
    Likeness.offsets.Frames f g ↔ f.session.SameButOffsets g.session :=
  ⟨fun ⟨⟨hvolume, hfiles, hdirs, hmaxArgs, hallowShell⟩, _⟩ =>
      ⟨hvolume, hfiles, hdirs, hmaxArgs, hallowShell⟩,
    fun ⟨hvolume, hfiles, hdirs, hmaxArgs, hallowShell⟩ =>
      ⟨⟨hvolume, hfiles, hdirs, hmaxArgs, hallowShell⟩, trivial⟩⟩

namespace Session

variable {x : Session}

theorem SameButOffsets.refl (x : Session) : x.SameButOffsets x :=
  ⟨⟨rfl, fun _ => rfl, rfl, fun _ => rfl⟩, .refl _, rfl, rfl, rfl⟩

/-- A read moves the handle and leaves the rest of a steady session as it was, whether it is refused
or not. -/
theorem read_sameButOffsets (h : x.volume.Steady) (fd offset count : Nat) :
    Action.Leads (Request.read fd offset count).perform x (fun _ y => x.SameButOffsets y)
      fun _ y => x.SameButOffsets y := by
  refine Action.leads_bind (Action.leads_fileAt (fun handle hget => ?_) (.refl x))
  have hfirst : x.files.SameButOffsets (x.files.replace fd { handle with offset }) :=
    .symm (.replace_left hget rfl)
  have hmoved : (x.files.replace fd { handle with offset }).get? fd =
      some { handle with offset } := by
    rw [DescriptorTable.get?_replace, if_pos rfl, hget, Option.map_some]
  refine Action.leads_traced (Action.leads_bind (Action.leads_request
    ((Store.seek_ends handle offset).mono ?_ ?_)))
  · rintro _ _ ⟨rfl, rfl⟩
    refine Action.leads_bind (Action.leads_putFile (Action.leads_bind (Action.leads_request
      (((Store.read_inquires _ count).and (Store.read_same _ count)).mono ?_ ?_))))
    · rintro ⟨bytes, again⟩ _ ⟨rfl, hid, hflags⟩
      have hsecond : ((x.files.replace fd { handle with offset }).replace fd again).SameButOffsets
          (x.files.replace fd { handle with offset }) :=
        .replace_left hmoved (FileHandle.rewound_eq hid hflags)
      refine Action.leads_bind (Action.leads_putFile (Action.leads_pure ?_))
      exact ⟨h 2, hfirst.trans hsecond.symm, rfl, rfl, rfl⟩
    · rintro _ _ ⟨rfl, -⟩
      exact ⟨h 2, hfirst, rfl, rfl, rfl⟩
  · rintro _ _ rfl
    exact ⟨h 1, .refl _, rfl, rfl, rfl⟩

end Session

/-! ## Steady volumes -/

/-- The likeness of frames that are the same and have steady volumes. -/
def Likeness.steady : Likeness :=
  { Likeness.equal with
    volumes v w := v = w ∧ v.Steady
    store h := h.1 ▸ rfl
    request h _ op := ⟨h.1 ▸ rfl, h.1 ▸ rfl, h.2.request op⟩
    requestClose h op := ⟨h.1 ▸ rfl, h.1 ▸ rfl, h.2.requestClose op⟩ }

namespace Frame

variable {f : Frame}

/-- A steady volume stays steady. -/
theorem steady_execute (h : f.session.volume.Steady) (s : Statement) :
    (f.run (Builtin.registry.execute s)).2.session.volume.Steady := by
  have hframes : Likeness.steady.Frames f f := ⟨⟨⟨rfl, h⟩, rfl, rfl, rfl, rfl⟩, rfl⟩
  have hpairs : Likeness.steady.Pairs Eq _ _ := s.pairs_execute (.inl fun _ _ => Iff.rfl)
  exact (hpairs f f hframes).2.session.volume.2

/-- A statement that reads leaves a session with a steady volume the same but for offsets. -/
theorem sameButOffsets_of_reads (h : f.session.volume.Steady) {s : Statement}
    {fd offset count : Nat} (hs : s.AsksFor (.read fd offset count)) :
    f.session.SameButOffsets (f.run (Builtin.registry.execute s)).2.session := by
  have hread := (Session.read_sameButOffsets h fd offset count).run
  rw [hs.execute_eq]
  generalize f.run (Request.read fd offset count).perform = ended at hread ⊢
  obtain ⟨_ | _, g⟩ := ended <;> exact hread

end Frame

/-! ## Statements one after the other -/

namespace Frame

/-- The results of statements that are carried out one after the other, and the frame after them. -/
def executeAll (registry : Registry) : Frame → List Statement → List (Except Fault Output) × Frame
  | f, [] => ([], f)
  | f, s :: statements =>
    ((f.run (registry.execute s)).1 ::
        ((f.run (registry.execute s)).2.executeAll registry statements).1,
      ((f.run (registry.execute s)).2.executeAll registry statements).2)

variable {f g : Frame} {statements : List Statement}

/-- Frames that are alike stay alike under statements that do not run shell commands. -/
theorem executeAll_alike {L : Likeness} (h : L.Frames f g)
    (hshell : ∀ s ∈ statements, ∀ command, ¬ s.AsksFor (.shell command)) :
    (f.executeAll Builtin.registry statements).1 = (g.executeAll Builtin.registry statements).1 ∧
      L.Frames (f.executeAll Builtin.registry statements).2
        (g.executeAll Builtin.registry statements).2 := by
  induction statements generalizing f g with
  | nil => exact ⟨rfl, h⟩
  | cons s statements ih =>
    obtain ⟨hresult, hframes⟩ :=
      s.pairs_execute (L := L) (.inr (hshell s List.mem_cons_self)) f g h
    obtain ⟨hresults, hframes'⟩ := ih hframes fun s hs => hshell s (List.mem_cons_of_mem _ hs)
    exact ⟨congrArg₂ List.cons (agree_eq_iff.mp hresult) hresults, hframes'⟩

/-- What statements do after a read is what they do without it. -/
theorem executeAll_after_read (h : f.session.volume.Steady) {s : Statement} {fd offset count : Nat}
    (hs : s.AsksFor (.read fd offset count))
    (hshell : ∀ s ∈ statements, ∀ command, ¬ s.AsksFor (.shell command)) :
    ((f.run (Builtin.registry.execute s)).2.executeAll Builtin.registry statements).1 =
      (f.executeAll Builtin.registry statements).1 :=
  (executeAll_alike (Likeness.frames_offsets_iff.mpr (sameButOffsets_of_reads h hs)) hshell).1.symm

end Frame

/-- **Where handles have been left is not seen.** Sessions that are the same but for the offsets of
their file handles answer all statements alike, and stay the same but for offsets. -/
theorem Session.SameButOffsets.indistinguishable {f g : Frame}
    (h : f.session.SameButOffsets g.session) {statements : List Statement}
    (hshell : ∀ s ∈ statements, ∀ command, ¬ s.AsksFor (.shell command)) :
    (f.executeAll Builtin.registry statements).1 = (g.executeAll Builtin.registry statements).1 ∧
      (f.executeAll Builtin.registry statements).2.session.SameButOffsets
        (g.executeAll Builtin.registry statements).2.session := by
  obtain ⟨hresults, hframes⟩ := Frame.executeAll_alike (Likeness.frames_offsets_iff.mpr h) hshell
  exact ⟨hresults, Likeness.frames_offsets_iff.mp hframes⟩

namespace Frame

/-- A statement that reads from beyond the end of a new file. -/
def reading : Statement where
  line := "read 0 7 1"
  command := "read"
  args := ["0", "7", "1"]

/-- A statement that writes at the beginning of a file. -/
def writing : Statement where
  line := "write 0 0 2 ab"
  command := "write"
  args := ["0", "0", "2", "ab"]

theorem reading_asksFor : reading.AsksFor (.read 0 7 1) := ⟨.read, rfl, by decide +kernel⟩

theorem writing_asksFor : writing.AsksFor (.write 0 0 2 "ab") := ⟨.write, rfl, by decide +kernel⟩

theorem steady_made : made.session.volume.Steady :=
  steady_execute (fun _ => ⟨rfl, fun _ => rfl, rfl, fun _ => rfl⟩) (creation "/a")

/-- After a file was made, a read that moves its handle is not seen by what follows. -/
theorem sameButOffsets_made :
    made.session.SameButOffsets (made.run (Builtin.registry.execute reading)).2.session :=
  sameButOffsets_of_reads steady_made reading_asksFor

theorem made_indistinguishable :
    (made.session.SameButOffsets (made.run (Builtin.registry.execute reading)).2.session ∧
      ∀ s ∈ [writing, reading], ∀ command, ¬ s.AsksFor (.shell command)) ∧
    (made.executeAll Builtin.registry [writing, reading]).1 =
        ((made.run (Builtin.registry.execute reading)).2.executeAll Builtin.registry
          [writing, reading]).1 ∧
      (made.executeAll Builtin.registry [writing, reading]).2.session.SameButOffsets
        ((made.run (Builtin.registry.execute reading)).2.executeAll Builtin.registry
          [writing, reading]).2.session := by
  have hshell : ∀ s ∈ [writing, reading], ∀ command, ¬ s.AsksFor (.shell command) := by
    simp only [List.mem_cons, List.not_mem_nil, or_false]
    rintro s (rfl | rfl) command h
    · cases h.unique writing_asksFor
    · cases h.unique reading_asksFor
  exact ⟨⟨sameButOffsets_made, hshell⟩, sameButOffsets_made.indistinguishable hshell⟩

end Frame

end FileScript
