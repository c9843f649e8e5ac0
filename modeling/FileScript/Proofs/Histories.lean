import FileScript.Proofs.Removals

/-!
# Histories of a store

Every request makes changes or is refused (`perform_transacts`), whatever its arguments are: a
forged handle, a path in any spelling, flags in any combination. A history begins with a store that
is consistent, so all stores on the way are (`Reachable.consistent`).
-/

namespace FileScript.Store

variable {s : Store} {now : Timespec}

/-- Every request is carried out by some changes, or refused without any. -/
theorem perform_transacts (h : s.Consistent) (now : Timespec) (op : Operation) :
    Transacts now (op.perform now) s := by
  cases op with
  | openFile path flags => exact transacts_map.mpr (openFile_transacts h path flags)
  | create path mode => exact transacts_map.mpr (create_transacts h path mode)
  | close handle => exact (close_transacts handle).bind_pure _
  | seek handle offset => exact transacts_map.mpr (seek_inquires handle offset).transacts
  | read handle count => exact (read_inquires handle count).transacts.bind_pure _
  | write handle data => exact transacts_map.mpr (write_transacts handle data)
  | truncateOpen handle size => exact (truncateOpen_transacts handle size).bind_pure _
  | sync handle => exact (sync_inquires handle).transacts.bind_pure _
  | openDir path => exact transacts_map.mpr (openDir_transacts path)
  | closeDir handle => exact (closeDir_transacts handle).bind_pure _
  | readDir handle count => exact (readDir_inquires handle count).transacts.bind_pure _
  | mkdir path mode => exact (mkdir_transacts path mode).bind_pure _
  | rmdir path => exact (rmdir_transacts path).bind_pure _
  | stat path => exact transacts_map.mpr (stat_inquires path).transacts
  | access path wanted => exact (access_inquires path wanted).transacts.bind_pure _
  | chmod path mode => exact (chmod_transacts path mode).bind_pure _
  | chown path uid => exact (chown_transacts path uid).bind_pure _
  | utime path accessed modified => exact (utime_transacts path accessed modified).bind_pure _
  | truncate path size => exact (truncate_transacts path size).bind_pure _
  | unlink path => exact (unlink_transacts h path).bind_pure _
  | rename source target => exact (rename_transacts h source target).bind_pure _
  | getXattr path name buffer => exact (getXattr_inquires path name buffer).transacts.bind_pure _
  | setXattr path name value flags =>
    exact (setXattr_transacts path name value flags).bind_pure _
  | removeXattr path name => exact (removeXattr_transacts path name).bind_pure _
  | listXattr path buffer => exact (listXattr_inquires path buffer).transacts.bind_pure _

theorem request_of_ends {op : Operation} {good : Answer → Store → Prop} {bad : Errno → Store → Prop}
    (h : Ends (op.perform now) s good bad) :
    match s.request now op with
    | (.ok answer, t) => good answer t
    | (.error e, t) => bad e t := by
  unfold Ends at h
  unfold request
  cases hop : op.perform now s <;> rw [hop] at h <;> exact h

theorem request_cases {op : Operation} {good : Answer → Store → Prop} {bad : Errno → Store → Prop}
    (h : Ends (op.perform now) s good bad) :
    (∃ answer t, s.request now op = (.ok answer, t) ∧ good answer t) ∨
      ∃ e t, s.request now op = (.error e, t) ∧ bad e t := by
  have hends := request_of_ends h
  split at hends
  · next answer t heq => exact Or.inl ⟨answer, t, heq, hends⟩
  · next e t heq => exact Or.inr ⟨e, t, heq, hends⟩

theorem good_of_request {op : Operation} {good : Answer → Store → Prop}
    {bad : Errno → Store → Prop} (h : Ends (op.perform now) s good bad) {answer : Answer}
    {t : Store} (heq : s.request now op = (.ok answer, t)) : good answer t := by
  have hends := request_of_ends h
  rwa [heq] at hends

/-- A request that is refused leaves the store as it is. -/
theorem eq_of_request_error (h : s.Consistent) {op : Operation} {e : Errno} {t : Store}
    (heq : s.request now op = (.error e, t)) : t = s := by
  have hends := request_of_ends (perform_transacts h now op)
  rwa [heq] at hends

theorem request_changes (h : s.Consistent) (now : Timespec) (op : Operation) :
    Changes now s (s.request now op).2 := by
  have hends := request_of_ends (perform_transacts h now op)
  split at hends
  · next heq =>
    rw [heq]
    exact hends
  · next heq =>
    rw [heq, hends]
    exact Relation.ReflTransGen.refl

/-- A request keeps a store consistent. -/
theorem Consistent.request (h : s.Consistent) (now : Timespec) (op : Operation) :
    (s.request now op).2.Consistent :=
  (request_changes h now op).consistent h

theorem Consistent.after (h : s.Consistent) (history : List (Timespec × Operation)) :
    (s.after history).Consistent := by
  induction history generalizing s with
  | nil => exact h
  | cons step history ih => exact ih (h.request step.1 step.2)

/-- **Every store that can be reached is consistent.** -/
theorem Reachable.consistent (h : s.Reachable) : s.Consistent := by
  obtain ⟨now, uid, gid, history, rfl⟩ := h
  exact (consistent_new now uid gid).after history

theorem after_append (s : Store) (history later : List (Timespec × Operation)) :
    s.after (history ++ later) = (s.after history).after later :=
  List.foldl_append

/-- What a history leaves can be reached. -/
theorem Reachable.after (h : s.Reachable) (history : List (Timespec × Operation)) :
    (s.after history).Reachable := by
  obtain ⟨start, uid, gid, before, rfl⟩ := h
  exact ⟨start, uid, gid, before ++ history, (after_append _ before history).symm⟩

/-- What a request leaves can be reached. -/
theorem Reachable.request (h : s.Reachable) (now : Timespec) (op : Operation) :
    (s.request now op).2.Reachable := h.after [(now, op)]

/-- What holds of new stores, and after every request if it holds before, holds of all stores that
can be reached. -/
theorem Reachable.induction {p : Store → Prop} (h : s.Reachable)
    (new : ∀ now uid gid, p (.new now uid gid))
    (request : ∀ s : Store, s.Reachable → p s → ∀ now op, p (s.request now op).2) : p s := by
  obtain ⟨start, uid, gid, history, rfl⟩ := h
  have hnew : (Store.new start uid gid).Reachable := ⟨start, uid, gid, [], rfl⟩
  have hstart := new start uid gid
  generalize Store.new start uid gid = s at hnew hstart
  induction history generalizing s with
  | nil => exact hstart
  | cons step history ih =>
    exact ih _ (hnew.request step.1 step.2) (request s hnew hstart step.1 step.2)

end FileScript.Store
