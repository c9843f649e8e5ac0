import FileScript.Proofs.Paths
import FileScript.Store.Operation

/-!
# Spellings of paths

How a path is spelled does not matter. Spellings with the same components have the same normal form,
those with others have another one (`Path.normalize_eq_iff`). A request looks at nothing but the
normal forms of its paths (`Store.request_respell`), so a history leads to the same store however
the paths in it are spelled (`Store.after_respell`).
-/

namespace FileScript

namespace Path

/-- The components are what the slashes separate, without what is empty. -/
theorem components_eq_splitOn (path : String) :
    components path = ((path.toList.splitOn '/').filter (· ≠ [])).map String.ofList := by
  rw [Text.filter_splitOn, components]

/-- Paths have the same normal form exactly if they have the same components. -/
theorem normalize_eq_iff {path other : String} :
    normalize path = normalize other ↔ components path = components other := by
  rw [normalize_eq, normalize_eq]
  constructor
  · exact ofComponents_injective (areNames_components path) (areNames_components other)
  · exact fun h => congrArg ofComponents h

theorem normalize_normalize (path : String) : normalize (normalize path) = normalize path :=
  if_pos (isNormal_normalize path)

/-- The paths that are returned as they stand are those that would be made again as they are. -/
theorem isNormal_iff_rebuild {path : String} : isNormal path = true ↔ rebuild path = path := by
  rw [isNormal_iff, rebuild_eq, eq_comm]

/-- A function that spells paths in other ways. -/
def Respells (f : String → String) : Prop := ∀ path, components (f path) = components path

theorem Respells.normalize {f : String → String} (h : Respells f) (path : String) :
    normalize (f path) = Path.normalize path :=
  normalize_eq_iff.mpr (h path)

end Path

/-- A request with its path spelled in another way, and the target of a rename in yet another. -/
def Operation.respell (f g : String → String) : Operation → Operation
  | openFile path flags => openFile (f path) flags
  | create path mode => create (f path) mode
  | openDir path => openDir (f path)
  | mkdir path mode => mkdir (f path) mode
  | rmdir path => rmdir (f path)
  | stat path => stat (f path)
  | access path wanted => access (f path) wanted
  | chmod path mode => chmod (f path) mode
  | chown path uid => chown (f path) uid
  | utime path accessed modified => utime (f path) accessed modified
  | truncate path size => truncate (f path) size
  | unlink path => unlink (f path)
  | rename source target => rename (f source) (g target)
  | getXattr path name buffer => getXattr (f path) name buffer
  | setXattr path name value flags => setXattr (f path) name value flags
  | removeXattr path name => removeXattr (f path) name
  | listXattr path buffer => listXattr (f path) buffer
  | op => op

namespace Store

variable {f g : String → String}

theorem resolve_respell (hf : Path.Respells f) (path : String) :
    (fun s : Store => s.resolve (f path)) = fun s => s.resolve path := by
  funext s
  unfold resolve
  rw [hf.normalize]

/-- A request does the same however its paths are spelled. -/
theorem perform_respell (hf : Path.Respells f) (hg : Path.Respells g) (now : Timespec)
    (op : Operation) : (op.respell f g).perform now = op.perform now := by
  cases op with
  | openFile path flags =>
    simp only [Operation.respell, Operation.perform, openFile, hf.normalize]
  | create path mode => simp only [Operation.respell, Operation.perform, create, hf.normalize]
  | mkdir path mode => simp only [Operation.respell, Operation.perform, mkdir, hf.normalize]
  | openDir path => simp only [Operation.respell, Operation.perform, openDir, resolve_respell hf]
  | rmdir path => simp only [Operation.respell, Operation.perform, rmdir, resolve_respell hf]
  | stat path => simp only [Operation.respell, Operation.perform, stat, resolve_respell hf]
  | access path wanted =>
    simp only [Operation.respell, Operation.perform, access, resolve_respell hf]
  | chmod path mode =>
    simp only [Operation.respell, Operation.perform, chmod, changeInode, resolve_respell hf]
  | chown path uid =>
    simp only [Operation.respell, Operation.perform, chown, changeInode, resolve_respell hf]
  | utime path accessed modified =>
    simp only [Operation.respell, Operation.perform, utime, changeInode, resolve_respell hf]
  | truncate path size =>
    simp only [Operation.respell, Operation.perform, truncate, resolve_respell hf]
  | unlink path => simp only [Operation.respell, Operation.perform, unlink, resolve_respell hf]
  | rename source target =>
    simp only [Operation.respell, Operation.perform, rename, resolve_respell hf, hg.normalize]
  | getXattr path name buffer =>
    simp only [Operation.respell, Operation.perform, getXattr, resolve_respell hf]
  | setXattr path name value flags =>
    simp only [Operation.respell, Operation.perform, setXattr, resolve_respell hf]
  | removeXattr path name =>
    simp only [Operation.respell, Operation.perform, removeXattr, resolve_respell hf]
  | listXattr path buffer =>
    simp only [Operation.respell, Operation.perform, listXattr, resolve_respell hf]
  | _ => rfl

/-- A request is answered the same way, and leaves the same store, however its paths are spelled. -/
theorem request_respell (hf : Path.Respells f) (hg : Path.Respells g) (s : Store) (now : Timespec)
    (op : Operation) : s.request now (op.respell f g) = s.request now op := by
  unfold request
  rw [perform_respell hf hg]

/-- A history leads to the same store however the paths in it are spelled. -/
theorem after_respell (hf : Path.Respells f) (hg : Path.Respells g)
    (history : List (Timespec × Operation)) (s : Store) :
    s.after (history.map (Prod.map id (·.respell f g))) = s.after history := by
  induction history generalizing s with
  | nil => rfl
  | cons entry history ih =>
    obtain ⟨now, op⟩ := entry
    show (s.request now (op.respell f g)).2.after _ = (s.request now op).2.after history
    rw [request_respell hf hg]
    exact ih _

/-- **Spellings.** The components of a path are what its slashes separate, without what is empty.
Its normal form is a slash and the components with single slashes between them, and tells the
components; it is its own normal form, and the paths that are returned as they stand are those that
would be made again as they are. Whatever the store and the request, another spelling of its path,
and another of the target of a rename, changes neither the answer nor the store that it leaves. -/
theorem spelling_is_irrelevant :
    (∀ path, Path.components path =
      ((path.toList.splitOn '/').filter (· ≠ [])).map String.ofList) ∧
    (∀ path other, Path.normalize path = Path.normalize other ↔
      Path.components path = Path.components other) ∧
    (∀ path, Path.normalize path = "/" ++ "/".intercalate (Path.components path)) ∧
    (∀ path, Path.normalize (Path.normalize path) = Path.normalize path) ∧
    (∀ path, Path.isNormal path = true ↔ Path.rebuild path = path) ∧
    ∀ f g, Path.Respells f → Path.Respells g → ∀ (s : Store) (now : Timespec) (op : Operation),
      s.request now (op.respell f g) = s.request now op := by
  refine ⟨Path.components_eq_splitOn, ?_, Path.normalize_eq, Path.normalize_normalize, ?_, ?_⟩
  · intro path other
    exact Path.normalize_eq_iff
  · intro path
    exact Path.isNormal_iff_rebuild
  · intro f g hf hg s now op
    exact request_respell hf hg s now op

end Store

end FileScript
