import FileScript.Proofs.ByteOrder
import FileScript.Proofs.OpenDirectories
import FileScript.Proofs.Payloads

/-!
# Lists of attribute names

The names of the attributes of an inode are listed in two steps like a value, one after the other
and each closed by a zero byte, and are told apart again at these bytes. A name may hold a zero byte
itself, and is then shown in several lines (`Frame.marked_splits_name`); a listing shows the names
as they are exactly if none of them does (`Frame.Reachable.listXattr_shows`).

1. `Text.splitOn_bytes`: to split the bytes of a text is to split the text.
2. `Request.splitNames_nameList`: what is split again are the names, stretch by stretch.
3. `Store.Reachable.attribute_named`: no attribute has an empty name, so no name is lost.
-/

namespace FileScript

/-! ## Bytes one by one -/

namespace Content

theorem toList_loop (content : ByteArray) (k : Nat) (before : List UInt8) :
    ByteArray.toList.loop content k before = before.reverse ++ (bytes content).drop k := by
  fun_induction ByteArray.toList.loop content k before with
  | case1 k before hlt ih =>
    have hk : k < (bytes content).length := by rwa [length_bytes]
    have hbyte : content.get! k = (bytes content)[k] := by
      simp [ByteArray.get!, bytes, getElem!_pos content.data k hlt]
    rw [ih, List.reverse_cons, List.append_assoc, List.drop_eq_getElem_cons hk, hbyte]
    rfl
  | case2 k before hle =>
    rw [List.drop_eq_nil_of_le (by rw [length_bytes]; omega), List.append_nil]

theorem toList_eq_bytes (content : ByteArray) : content.toList = bytes content := by
  rw [ByteArray.toList, toList_loop]
  rfl

end Content

/-! ## Stretches between zeros -/

namespace Text

/-- The stretches of a text between zero characters, without empty ones. -/
def stretches (text : String) : List String :=
  (runs (· == '\x00') text.toList).map String.ofList

/-- Only the zero character has a zero byte. -/
theorem zero_mem_bytes_iff {chars : List Char} :
    0 ∈ chars.flatMap String.utf8EncodeChar ↔ '\x00' ∈ chars := by
  rw [List.mem_flatMap]
  constructor
  · rintro ⟨c, hc, hzero⟩
    have hvalue : c.val.toNat = 0 := (toNat_eq_iff_of_mem hzero (by decide)).mp rfl
    have hchar : c = '\x00' := Char.ext (UInt32.toNat_inj.mp hvalue)
    rwa [hchar] at hc
  · intro hzero
    exact ⟨'\x00', hzero, by decide⟩

/-- To split the bytes of a text is to split the text. -/
theorem splitOn_bytes (chars : List Char) :
    (chars.flatMap String.utf8EncodeChar).splitOn 0 =
      (chars.splitOn '\x00').map (·.flatMap String.utf8EncodeChar) := by
  induction chars using joined_induction '\x00' with
  | whole chars hwhole =>
    rw [List.splitOn_eq_singleton hwhole, List.splitOn_eq_singleton fun hzero =>
      hwhole (zero_mem_bytes_iff.mp hzero), List.map_singleton]
  | joined a b iha ihb =>
    have hzero : String.utf8EncodeChar '\x00' = [0] := by decide
    rw [List.flatMap_append, List.flatMap_cons, hzero, List.singleton_append,
      List.splitOn_append_cons_self, List.splitOn_append_cons_self, iha, ihb, List.map_append]

theorem stretches_eq_self {text : String} (hempty : text ≠ "") (hzero : '\x00' ∉ text.toList) :
    stretches text = [text] := by
  have hne : text.toList ≠ [] := fun hnil => hempty (String.toList_eq_nil_iff.mp hnil)
  have hnone : ∀ c ∈ text.toList, (c == '\x00') = false := fun c hc =>
    beq_false_of_ne fun he => hzero (he ▸ hc)
  rw [stretches, runs_eq_singleton hne hnone, List.map_singleton, String.ofList_toList]

theorem zero_not_mem_of_stretches {text stretch : String} (h : stretch ∈ stretches text) :
    '\x00' ∉ stretch.toList := by
  obtain ⟨run, hrun, rfl⟩ := List.mem_map.mp h
  rw [String.toList_ofList]
  exact fun hzero => ne_of_beq_false (isSeparator_of_mem_runs hrun hzero) rfl

/-- A list of texts is shown as it is exactly if no zero separates anything. -/
theorem flatMap_stretches_eq_iff {names : List String} (hempty : "" ∉ names) :
    names.flatMap stretches = names ↔ ∀ name ∈ names, '\x00' ∉ name.toList := by
  constructor
  · intro hsame name hname
    rw [← hsame] at hname
    obtain ⟨whole, -, hstretch⟩ := List.mem_flatMap.mp hname
    exact zero_not_mem_of_stretches hstretch
  · intro hzero
    have hself : ∀ name ∈ names, stretches name = [name] := fun name hname =>
      stretches_eq_self (fun he => hempty (he ▸ hname)) (hzero name hname)
    rw [List.flatMap_congr hself, List.flatMap_singleton']

end Text

/-! ## Names that are put together and split again -/

namespace Request

theorem split_eq_splitOn (bytes : List UInt8) : splitNames.split bytes = bytes.splitOn 0 := by
  unfold splitNames.split
  induction bytes with
  | nil => rfl
  | cons b bytes ih =>
    rw [List.foldr_cons, ih, List.splitOn_cons_eq_if_modifyHead]
    obtain ⟨first, more, hsplit⟩ := List.exists_cons_of_ne_nil (List.splitOn_ne_nil 0 bytes)
    rw [hsplit]
    by_cases hzero : b = 0
    · subst hzero
      rfl
    · rw [if_neg (by simpa using hzero), List.modifyHead_cons]
      split
      · next he => cases he
      · exact absurd rfl hzero
      · next he =>
        cases he
        rfl

theorem bytes_nameList (names : List String) :
    Content.bytes (Store.nameList names) =
      names.flatMap fun name => Content.bytes name.toUTF8 ++ [0] := by
  have hfold : ∀ before : ByteArray, Content.bytes (names.foldl
      (fun bytes name => (bytes ++ name.toUTF8).push 0) before) =
        Content.bytes before ++ names.flatMap fun name => Content.bytes name.toUTF8 ++ [0] := by
    induction names with
    | nil => exact fun before => (List.append_nil _).symm
    | cons name names ih =>
      intro before
      rw [List.foldl_cons, ih, List.flatMap_cons]
      simp [Content.bytes]
  exact hfold .empty

theorem size_nameList (names : List String) :
    (Store.nameList names).size = (names.map (·.utf8ByteSize + 1)).sum := by
  rw [← Content.length_bytes, bytes_nameList, List.length_flatMap]
  simp

/-- Each stretch of bytes that is not empty is read as a text. -/
theorem filterMap_stretches (pieces : List (List Char)) :
    (pieces.map (·.flatMap String.utf8EncodeChar)).filterMap
        (fun name => if name = [] then none else String.fromUTF8? name.toByteArray) =
      (pieces.filter (· ≠ [])).map String.ofList := by
  induction pieces with
  | nil => rfl
  | cons piece pieces ih =>
    rw [List.map_cons, List.filterMap_cons, ih]
    by_cases hnil : piece = []
    · subst hnil
      rfl
    · have hbytes : piece.flatMap String.utf8EncodeChar ≠ [] := by
        obtain ⟨c, rest, rfl⟩ := List.exists_cons_of_ne_nil hnil
        exact List.append_ne_nil_of_left_ne_nil String.utf8EncodeChar_ne_nil _
      have htext : String.fromUTF8? (piece.flatMap String.utf8EncodeChar).toByteArray =
          some (String.ofList piece) := by
        rw [← Script.fromUTF8?_bytes, Text.bytes_toUTF8, String.toList_ofList]
      rw [if_neg hbytes, htext]
      simp [hnil]

/-- **What is split again are the names, stretch by stretch.** -/
theorem splitNames_nameList (names : List String) :
    splitNames (Store.nameList names) = names.flatMap Text.stretches := by
  rw [splitNames, Content.toList_eq_bytes, split_eq_splitOn, bytes_nameList]
  induction names with
  | nil => rfl
  | cons name names ih =>
    rw [List.flatMap_cons, List.flatMap_cons, List.append_assoc, List.singleton_append,
      List.splitOn_append_cons_self, List.filterMap_append, ih, Text.bytes_toUTF8,
      Text.splitOn_bytes, filterMap_stretches, Text.filter_splitOn]
    rfl

end Request

/-! ## The names of attributes -/

namespace Store

variable {s : Store} {op : Operation}

/-- All attributes have names that attributes can have. -/
def AttributesNamed (s : Store) : Prop :=
  s.Each fun _ i => ∀ name ∈ i.xattrs, IsAttributeName name

theorem lasting_named : Lasting fun _ i => ∀ name ∈ i.xattrs, IsAttributeName name := by
  intro ino i j hi _ hxattrs
  rwa [hxattrs]

theorem attributesNamed_new (now : Timespec) (uid gid : Nat) :
    (Store.new now uid gid).AttributesNamed :=
  each_new now uid gid fun _ hname => absurd hname Std.TreeMap.not_mem_emptyc

/-- A request that sets an attribute gives it such a name, and one that removes an attribute gives
none. -/
theorem AttributesNamed.marks (h : s.AttributesNamed) (hs : s.Consistent) (now : Timespec)
    {path : String} (hmarks : op.marks? = some path) :
    Ends (op.perform now) s (fun _ t => t.AttributesNamed) fun _ t => t.AttributesNamed := by
  cases hino : s.names[Path.normalize path]? with
  | none =>
    refine ((perform_transacts hs now op).and (marks_refused hmarks hino)).mono ?_ ?_
    · exact fun _ _ hfalse => hfalse.2.elim
    · rintro _ _ ⟨rfl, -⟩
      exact h
  | some ino =>
    obtain ⟨i, hi, -⟩ := hs.inode_of_named hino
    cases op with
    | setXattr path name value flags =>
      cases hmarks
      refine (ends_done (setXattr_ends hino hi value flags)).mono ?_ ?_
      · rintro _ _ ⟨-, ⟨hname, -⟩, rfl⟩
        refine h.setInode fun other hother => ?_
        rcases Std.TreeMap.mem_insert.mp hother with hsame | hold
        · rwa [← compare_eq_iff_eq.mp hsame]
        · exact h hi other hold
      · rintro _ _ ⟨rfl, -⟩
        exact h
    | removeXattr path name =>
      cases hmarks
      refine (ends_done (removeXattr_ends hino hi)).mono ?_ ?_
      · rintro _ _ ⟨-, -, rfl⟩
        exact h.setInode fun other hother => h hi other (Std.TreeMap.mem_of_mem_erase hother)
      · rintro _ _ ⟨rfl, -⟩
        exact h
    | _ => cases hmarks

theorem AttributesNamed.request (h : s.AttributesNamed) (hs : s.Consistent) (now : Timespec)
    (op : Operation) : (s.request now op).2.AttributesNamed := by
  cases hmarks : op.marks? with
  | none =>
    refine h.of_effect lasting_named ?_ ?_ (request_effect hs now op)
    · exact fun _ _ name hname => absurd hname Std.TreeMap.not_mem_emptyc
    · intro ino old new hold _ hxattrs
      rw [hxattrs hmarks]
      exact h hold
  | some path =>
    have hends := request_of_ends (h.marks hs now hmarks)
    split at hends <;> next heq => rw [heq]; exact hends

theorem Reachable.attributesNamed (h : s.Reachable) : s.AttributesNamed := by
  refine h.induction attributesNamed_new ?_
  intro s hreachable hnamed now op
  exact hnamed.request hreachable.consistent now op

/-- The names of all attributes of what is at a path are copied out. -/
theorem listXattr_of_named {path : String} {ino : Nat} {i : Inode} (buffer : ByteArray)
    (hnamed : s.names[Path.normalize path]? = some ino) (hi : s.inodes[ino]? = some i) :
    Ends (listXattr path buffer) s
      (fun result t => t = s ∧ copyOut (nameList i.xattrs.keys) buffer = .ok result)
      fun e _ => copyOut (nameList i.xattrs.keys) buffer = .error e := by
  unfold listXattr
  rw [Ends.bind_iff, ends_ask_resolve hnamed]
  dsimp only
  rw [Ends.bind_iff, ends_ask_inode hi, Ends.ask_iff]
  exact ⟨fun result h => ⟨rfl, h⟩, fun e h => h⟩

end Store

/-! ## Statements -/

theorem Action.Leads.run_eq {α : Type} {act : Action α} {f : Frame} {a : α}
    (h : Leads act f.session (fun b _ => b = a) fun _ _ => False) : (f.run act).1 = .ok a := by
  have hrun := h.run
  split at hrun
  · next heq => rw [heq, hrun]
  · exact hrun.elim

namespace Request

open FileScript.Action

variable {x : Session} {path name : String} {ino : Nat} {i : Inode}
  (hnamed : x.volume.store.names[Path.normalize path]? = some ino)
  (hi : x.volume.store.inodes[ino]? = some i)

include hnamed hi

/-- A listing shows the size of all names together, and their stretches. -/
theorem listXattr_leads : Leads (listXattr path).perform x
    (fun out _ => out = .listing (i.xattrs.keys.map (·.utf8ByteSize + 1)).sum
      (i.xattrs.keys.flatMap Text.stretches)) fun _ _ => False := by
  refine leads_bind ((fetch_leads_source fun buffer =>
    Store.listXattr_of_named buffer hnamed hi).mono ?_ fun _ _ hfalse => hfalse)
  rintro _ _ rfl
  refine leads_pure ?_
  rw [size_nameList, splitNames_nameList]

/-- An attribute that is not set has no value to fetch. -/
theorem getXattr_leads_missing (hvalue : i.xattrs[name]? = none) :
    Leads (getXattr path name).perform x (fun _ _ => False) fun _ _ => True := by
  refine leads_bind (leads_bind (leads_report (leads_bind (leads_reportStatus (leads_request
    ((Store.getXattr_ends hnamed hi .empty).mono ?_ fun _ _ _ => trivial))))))
  rintro _ _ ⟨-, value, hsome, -⟩
  cases hvalue.symm.trans hsome

end Request

namespace Frame

variable {f : Frame} {path : String} {names : List String}

/-- These are the names of the attributes at a path, in the order of their bytes: those whose values
are told. -/
structure HasAttributes (f : Frame) (path : String) (names : List String) : Prop where
  sorted : names.Pairwise fun a b => Content.bytes a.toUTF8 < Content.bytes b.toUTF8
  mem_iff : ∀ name, name ∈ names ↔
    ∃ value, (f.run (Request.getXattr path name).perform).1 = .ok (.value value)

theorem hasAttributes_keys {ino : Nat} {i : Inode}
    (hnamed : f.session.volume.store.names[Path.normalize path]? = some ino)
    (hi : f.session.volume.store.inodes[ino]? = some i) : f.HasAttributes path i.xattrs.keys where
  sorted := Std.TreeMap.ordered_keys.imp fun hlt =>
    Text.lt_iff_bytes_lt.mp (compare_lt_iff_lt.mp hlt)
  mem_iff name := by
    rw [Std.TreeMap.mem_keys, Std.TreeMap.mem_iff_isSome_getElem?]
    cases hvalue : i.xattrs[name]? with
    | some value =>
      exact iff_of_true rfl ⟨value, (Request.getXattr_leads_value hnamed hi hvalue).run_eq⟩
    | none =>
      refine iff_of_false Bool.false_ne_true ?_
      rintro ⟨value, hvalue'⟩
      have hrun := (Request.getXattr_leads_missing hnamed hi hvalue).run
      split at hrun
      · exact hrun
      · next heq =>
        rw [heq] at hvalue'
        cases hvalue'

/-- **A listing of attributes shows the stretches of their names**, in the order of the names, and
the size that they take with a byte between them. These are the names themselves exactly if none of
them holds a zero character. -/
theorem Reachable.listXattr_shows (h : f.Reachable) {s : Statement}
    (hasks : s.AsksFor (.listXattr path))
    (hnamed : f.session.volume.store.names[Path.normalize path]? ≠ none) :
    ∃ names, f.HasAttributes path names ∧
      (f.run (Builtin.registry.execute s)).1 =
        .ok (.listing (names.map (·.utf8ByteSize + 1)).sum (names.flatMap Text.stretches)) ∧
      (names.flatMap Text.stretches = names ↔ ∀ name ∈ names, '\x00' ∉ name.toList) := by
  obtain ⟨ino, hino⟩ := Option.ne_none_iff_exists'.mp hnamed
  obtain ⟨i, hi, -⟩ := h.consistent.inode_of_named hino
  refine ⟨i.xattrs.keys, hasAttributes_keys hino hi, ?_, Text.flatMap_stretches_eq_iff ?_⟩
  · rw [hasks.execute_eq]
    exact (Request.listXattr_leads hino hi).run_eq
  · intro hempty
    exact (h.store.attributesNamed hi "" (Std.TreeMap.mem_keys.mp hempty)).1 rfl

/-! ## A name with a zero in it -/

/-- A statement that sets an attribute. -/
def marking (path name value : String) : Statement where
  line := s!"setxattr {path} {name} 0 {value}"
  command := "setxattr"
  args := [path, name, "0", value]

/-- A statement that lists attributes. -/
def listing (path : String) : Statement where
  line := s!"listxattr {path}"
  command := "listxattr"
  args := [path]

/-- A file has an attribute with a zero in its name. -/
def marked : Frame := (made.run (Builtin.registry.execute (marking "/a" "a\x00b" "v"))).2

theorem listing_asksFor : (listing "/a").AsksFor (.listXattr "/a") := ⟨.listXattr, rfl, rfl⟩

set_option maxRecDepth 8000 in
theorem names_marked : marked.session.volume.store.names[Path.normalize "/a"]? = some 2 := by
  cbv

/-- All of its stretches are shown, in the order of the names. -/
theorem marked_shows_stretches :
    (marked.Reachable ∧ marked.session.volume.store.names[Path.normalize "/a"]? ≠ none) ∧
    ∃ names, marked.HasAttributes "/a" names ∧
      (marked.run (Builtin.registry.execute (listing "/a"))).1 =
        .ok (.listing (names.map (·.utf8ByteSize + 1)).sum (names.flatMap Text.stretches)) := by
  have hreachable : marked.Reachable := .statement made_reachable _
  have hnamed : marked.session.volume.store.names[Path.normalize "/a"]? ≠ none := by
    rw [names_marked]
    exact Option.some_ne_none 2
  obtain ⟨names, hnames, hlisting, -⟩ := hreachable.listXattr_shows listing_asksFor hnamed
  exact ⟨⟨hreachable, hnamed⟩, names, hnames, hlisting⟩

set_option maxRecDepth 8000 in
/-- The name of the attribute is shown in two lines, and the attributes are not named so. -/
theorem marked_splits_name :
    (marked.run (Builtin.registry.execute (listing "/a"))).1 = .ok (.listing 4 ["a", "b"]) ∧
    (marked.run (Request.getXattr "/a" "a\x00b").perform).1 = .ok (.value "v".toUTF8) ∧
    ¬ marked.HasAttributes "/a" ["a", "b"] := by
  have hvalue : (marked.run (Request.getXattr "/a" "a\x00b").perform).1 =
      .ok (.value "v".toUTF8) := by
    cbv
  refine ⟨by cbv, hvalue, fun hattributes => ?_⟩
  have hmem : "a\x00b" ∈ ["a", "b"] := (hattributes.mem_iff _).mpr ⟨_, hvalue⟩
  exact absurd hmem (by decide)

end Frame

end FileScript
