import FileScript.Proofs.HandleAccounts

/-!
# Ledgers of sessions

A ledger goes with a session from its beginning, and is charged with the handles that statements and
teardowns leak (`Frame.Ledger`). By it the open handles of the store are accounted for at all times:
each is in a table of the session or leaked, and what a teardown leaves open are the leaked handles
and those whose close failed in it (`Frame.Ledger.accounts`).
-/

namespace FileScript

namespace Frame

/-- A session that began on a store without open handles, after statements and teardowns that have
leaked certain handles. Every request has a count of its own, so closing can begin and cease to fail
at any time. -/
inductive Ledger (fails : Nat → Bool) : Frame → Leaks → Prop
  | start {f : Frame} (settings : Settings) (hstore : f.session.volume.store.Reachable)
      (hclosed : f.session.volume.store.openHandleCount = 0)
      (hfails : f.session.volume.failsCloseAt = fails)
      (hsession : f.session = Session.new settings f.session.volume) : Ledger fails f {}
  | statement {f : Frame} {leaks : Leaks} (h : Ledger fails f leaks) (s : Statement) :
      Ledger fails (f.run (Builtin.registry.execute s)).2
        (leaks ++ f.session.leaked s.command (f.run (Builtin.registry.execute s)).1)
  | teardown {f : Frame} {leaks : Leaks} (h : Ledger fails f leaks) :
      Ledger fails (f.run Action.teardown).2 (leaks ++ f.session.abandoned)

/-! ## Steps -/

theorem balanced_new {v : Volume} (h : v.store.Consistent) (hclosed : v.store.openHandleCount = 0)
    (settings : Settings) : (Session.new settings v).Balanced v.failsCloseAt {} := by
  rw [Store.openHandleCount_eq, Nat.add_eq_zero_iff] at hclosed
  have hfiles := List.eq_nil_of_length_eq_zero hclosed.1
  have hdirs := List.eq_nil_of_length_eq_zero hclosed.2
  exact ⟨h, rfl, .of_eq hfiles.symm, .of_eq hdirs.symm⟩

theorem run_execute_balanced {f : Frame} {fails : Nat → Bool} {leaks : Leaks}
    (h : f.session.Balanced fails leaks) (s : Statement) :
    (f.run (Builtin.registry.execute s)).2.session.Balanced fails
      (leaks ++ f.session.leaked s.command (f.run (Builtin.registry.execute s)).1) := by
  have hrun := (execute_balances h s).run
  split at hrun
  · next heq =>
    rw [heq, Session.leaked, Leaks.append_empty]
    exact hrun
  · next heq =>
    rw [heq]
    exact hrun

theorem run_teardown (f : Frame) : (f.run Action.teardown).1 = .ok f.session.failedCloses ∧
    (f.run Action.teardown).2.session = f.session.tornDown := by
  have hrun := (Action.leads_teardown f.session).run
  split at hrun
  · next heq =>
    rw [heq]
    exact ⟨by rw [hrun.1], hrun.2⟩
  · exact hrun.elim

/-- There is nothing to close after a teardown. -/
theorem run_teardown_tornDown {f : Frame} {x : Session} (h : f.session = x.tornDown) :
    f.run Action.teardown = (.ok 0, f) := by
  cases f
  cases h
  rfl

/-! ## Runs -/

/-- How the handles of a session stand, of which some are leaked, where closing fails at certain
counts of requests. -/
structure Accounts (f : Frame) (fails : Nat → Bool) (leaks : Leaks) : Prop where
  /-- The file handles in the table and the leaked ones are those that are open. -/
  files : (f.session.fileIds ++ leaks.files).Perm f.session.volume.store.fileIds
  files_nodup : (f.session.fileIds ++ leaks.files).Nodup
  /-- The directory handles in the table and the leaked ones are those that are open. -/
  dirs : (f.session.dirIds ++ leaks.dirs).Perm f.session.volume.store.dirIds
  dirs_nodup : (f.session.dirIds ++ leaks.dirs).Nodup
  count : f.session.volume.store.openHandleCount =
    f.session.files.size + f.session.dirs.size + leaks.size
  /-- A teardown tries to close each handle of the tables once, and returns how often that failed.
  -/
  teardown : (f.run Action.teardown).1 = .ok f.session.failedCloses
  teardown_session : (f.run Action.teardown).2.session = f.session.tornDown
  attempts : f.session.tornDown.volume.requests =
    f.session.volume.requests + f.session.files.size + f.session.dirs.size
  failed : f.session.failedCloses = f.session.abandoned.size
  /-- A teardown leaves the leaked handles open and those whose close failed. -/
  remaining : f.session.tornDown.volume.store.openHandleCount =
    leaks.size + f.session.failedCloses
  /-- A second teardown does nothing. -/
  teardown_again : (f.run Action.teardown).2.run Action.teardown =
    (.ok 0, (f.run Action.teardown).2)
  /-- Where no close fails, a teardown leaves nothing open. -/
  dropped : (∀ count, fails count = false) →
    f.session.tornDown.volume.store.openHandleCount = 0

namespace Ledger

variable {fails : Nat → Bool} {f : Frame} {leaks : Leaks}

theorem balanced (h : Ledger fails f leaks) : f.session.Balanced fails leaks := by
  induction h with
  | start settings hstore hclosed hfails hsession =>
    rw [hsession, ← hfails]
    exact balanced_new hstore.consistent hclosed settings
  | statement _ s ih => exact run_execute_balanced ih s
  | @teardown f leaks _ ih =>
    rw [(run_teardown f).2]
    exact ih.tornDown.2.2

/-- Where no close fails, nothing is leaked. -/
theorem eq_empty (h : Ledger fails f leaks) (hfails : ∀ count, fails count = false) :
    leaks = {} := by
  induction h with
  | start => rfl
  | statement h s ih =>
    rw [ih, Session.leaked_eq_empty (by rwa [h.balanced.schedule]), Leaks.append_empty]
  | teardown h ih =>
    rw [ih, Session.abandoned_eq_empty (by rwa [h.balanced.schedule]), Leaks.append_empty]

/-- **Every handle that is open is in a table of the session or leaked, at all times.** -/
theorem accounts (h : Ledger fails f leaks) : f.Accounts fails leaks := by
  have hx := h.balanced
  obtain ⟨hfailed, hattempts, htornDown⟩ := hx.tornDown
  have hremaining : f.session.tornDown.volume.store.openHandleCount =
      leaks.size + f.session.failedCloses := by
    rw [htornDown.openHandleCount_eq, Leaks.size_append, hfailed]
    exact Nat.zero_add _
  have hsession := (run_teardown f).2
  refine
    { files := hx.mine
      files_nodup := hx.mine.nodup_iff.mpr Std.TreeMap.nodup_keys
      dirs := hx.theirs
      dirs_nodup := hx.theirs.nodup_iff.mpr Std.TreeMap.nodup_keys
      count := hx.openHandleCount_eq
      teardown := (run_teardown f).1
      teardown_session := hsession
      attempts := hattempts
      failed := hfailed
      remaining := hremaining
      teardown_again := run_teardown_tornDown hsession
      dropped := fun hfails => ?_ }
  have habandoned : f.session.abandoned = {} :=
    Session.abandoned_eq_empty (by rwa [hx.schedule])
  rw [hremaining, hfailed, habandoned, h.eq_empty hfails]
  rfl

end Ledger

/-! ### A leaked handle -/

/-- A session with a single descriptor for files, in which closing fails at the third request. -/
def narrow : Frame where
  session := Session.new { fileCapacity := 1 }
    { Volume.new fun _ => {} with failsClose := true, failing := (· == 2) }

/-- A statement that makes a file. -/
def creation (path : String) : Statement where
  line := s!"create {path} 644"
  command := "create"
  args := [path, "644"]

/-- The session after the making of two files, of which the second got no descriptor. -/
def jammed : Frame :=
  ((narrow.run (Builtin.registry.execute (creation "/a"))).2.run
    (Builtin.registry.execute (creation "/b"))).2

theorem ledger_narrow : Ledger (· == 2) narrow {} :=
  .start { fileCapacity := 1 } ⟨{}, 0, 0, [], rfl⟩ rfl rfl rfl

set_option maxRecDepth 4000 in
theorem leaked_jammed :
    (({} : Leaks) ++ narrow.session.leaked "create"
        (narrow.run (Builtin.registry.execute (creation "/a"))).1) ++
      (narrow.run (Builtin.registry.execute (creation "/a"))).2.session.leaked "create"
        ((narrow.run (Builtin.registry.execute (creation "/a"))).2.run
          (Builtin.registry.execute (creation "/b"))).1 = { files := [2] } := by
  cbv

theorem ledger_jammed : Ledger (· == 2) jammed { files := [2] } := by
  rw [← leaked_jammed]
  exact .statement (.statement ledger_narrow _) _

theorem accounts_jammed : jammed.Accounts (· == 2) { files := [2] } :=
  Ledger.accounts ledger_jammed

end Frame

end FileScript
