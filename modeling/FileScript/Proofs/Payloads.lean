import FileScript.Proofs.Descriptors
import FileScript.Proofs.Numerals
import FileScript.Proofs.Replays
import FileScript.Proofs.XattrRequests

/-!
# What is written and read back

The last argument of a line may be any text. It reaches the store as it stands, and it comes back
as it was sent (`Frame.Reachable.payload_survives`).

1. `Statement.parse_spell_tail`: the rest of the line is the argument, whatever it holds.
2. `Request.write_leads_count`, `Request.setXattr_leads_value`: the store keeps its bytes, and a
   request that reads them leads to them.
3. `Frame.plays_of_leads`: a script of two lines prints what the two requests print.
-/

namespace FileScript

namespace Store

variable {s : Store} {handle : FileHandle} {ino : Nat} {i : Inode}

/-- A write puts the data where the handle stands, and the handle stays open. -/
theorem write_of_open {now : Timespec} {content data : ByteArray}
    (hino : s.openFiles[handle.id]? = some ino) (hi : s.inodes[ino]? = some i)
    (hnode : i.node = .file content) (hwritable : handle.flags.writable = true)
    (happend : handle.flags.contains .append = false)
    (hfits : handle.offset + data.size ≤ Inode.maxFileSize) :
    Ends (write now handle data) s
      (fun moved t => moved.id = handle.id ∧ moved.flags = handle.flags ∧
        t.openFiles[handle.id]? = some ino ∧ ∃ j written, t.inodes[ino]? = some j ∧
          j.node = .file written ∧ Content.slice written handle.offset data.size = data)
      fun _ _ => False := by
  unfold write
  rw [Ends.bind_iff, ends_ask_fileInode hino, Ends.ite_iff]
  refine ⟨fun _ => ?_, fun hflags => absurd hwritable hflags⟩
  rw [Ends.bind_iff, ends_ask_inode hi]
  have hstart : writeStart handle content = handle.offset := by
    rw [writeStart, happend, if_neg Bool.false_ne_true]
  simp only [hnode, hstart, Ends.ite_iff, Ends.pure_iff, Ends.bind_iff, Ends.throw_iff,
    Ends.modify_iff]
  refine ⟨fun hnothing => ?_, fun hsome => ⟨fun hlarge => absurd hfits (not_le.mpr hlarge),
    fun _ => ?_⟩⟩
  · refine ⟨trivial, trivial, hino, i, content, hi, hnode, Content.eq_of_size_eq_zero ?_ hnothing⟩
    rw [hnothing, Content.size_slice, Nat.zero_min]
  · refine ⟨trivial, trivial, hino, _, _, Std.TreeMap.getElem?_insert_self, rfl, ?_⟩
    exact Content.slice_overwrite content handle.offset data

/-- An attribute of what is at a path is set. -/
theorem setXattr_of_named {now : Timespec} {path name : String} {value : ByteArray}
    (hnamed : s.names[Path.normalize path]? = some ino) (hi : s.inodes[ino]? = some i)
    (hname : name ≠ "") (hsize : name.utf8ByteSize ≤ maxNameSize) :
    Ends (setXattr now path name value ⟨.ofNat 0⟩) s
      (fun _ t => t.names[Path.normalize path]? = some ino ∧
        ∃ j, t.inodes[ino]? = some j ∧ j.xattrs[name]? = some value)
      fun _ _ => False := by
  refine (setXattr_ends hnamed hi value ⟨.ofNat 0⟩).mono ?_ ?_
  · rintro _ t ⟨-, rfl⟩
    exact ⟨hnamed, _, Std.TreeMap.getElem?_insert_self, Std.TreeMap.getElem?_insert_self⟩
  · rintro _ t ⟨-, hrefused⟩
    exact hrefused ⟨⟨hname, hsize⟩, .inl rfl⟩

/-- An attribute is read in two steps. -/
theorem getXattr_of_named {path name : String} {value : ByteArray} (buffer : ByteArray)
    (hnamed : s.names[Path.normalize path]? = some ino) (hi : s.inodes[ino]? = some i)
    (hvalue : i.xattrs[name]? = some value) :
    Ends (getXattr path name buffer) s (fun result t => t = s ∧ copyOut value buffer = .ok result)
      fun e _ => copyOut value buffer = .error e := by
  refine (getXattr_ends hnamed hi buffer).mono ?_ ?_
  · rintro result t ⟨rfl, other, hother, hcopy⟩
    cases hvalue.symm.trans hother
    exact ⟨rfl, hcopy⟩
  · rintro e t ⟨-, ⟨hnone, -⟩ | ⟨other, hother, hcopy⟩⟩
    · cases hvalue.symm.trans hnone
    · cases hvalue.symm.trans hother
      exact hcopy

end Store

/-! ## Requests -/

namespace Request

open FileScript.Action

variable {x : Session}

/-- The first bytes of a text, if it has as many. -/
theorem size_payload {text : String} {count : Nat} (h : count ≤ text.utf8ByteSize) :
    (text.toUTF8.extract 0 count).size = count := by
  rw [ByteArray.size_extract, Text.size_toUTF8]
  omega

/-- What is written through a descriptor is read through it afterwards. -/
theorem write_leads_count {fd id ino offset count : Nat} {flags : OpenFlags} {i : Inode}
    {content : ByteArray} {text : String} (hslot : x.Slot fd id flags)
    (hbound : x.volume.store.openFiles[id]? = some ino)
    (hi : x.volume.store.inodes[ino]? = some i) (hnode : i.node = .file content)
    (hreadable : flags.readable = true)
    (hwritable : flags.writable = true) (happend : flags.contains .append = false)
    (hcount : count ≤ text.utf8ByteSize) (hfits : offset + count ≤ Inode.maxFileSize) :
    Leads (write fd offset count text).perform x
      (fun out y => out = .count count ∧ Leads (read fd offset count).perform y
        (fun out _ => out = .data (text.toUTF8.extract 0 count)) fun _ _ => False)
      fun _ _ => False := by
  have hsize := size_payload hcount
  obtain ⟨before, hget⟩ := hslot
  refine leads_bind (leads_fileAt_of_get? hget (leads_traced ?_))
  refine leads_bind (leads_request ((Store.seek_of_open hbound offset).mono ?_
    fun _ _ h => h.elim))
  rintro _ _ ⟨rfl, rfl⟩
  refine leads_bind (leads_putFile (leads_bind (leads_request
    ((Store.write_of_open hbound hi hnode hwritable happend ?_).mono ?_ fun _ _ h => h.elim))))
  · rw [hsize]
    exact hfits
  · rintro moved t ⟨hid, hflags, hbound', j, written, hj, hnode', hslice⟩
    refine leads_bind (leads_putFile (leads_pure ⟨rfl, ?_⟩))
    rw [hsize] at hslice
    refine (read_leads_slice (show Session.Slot _ fd id flags from ⟨moved.offset, ?_⟩)
      hbound' hj hnode').mono ?_ ?_
    -- Both replacements keep the handle and the flags of the slot.
    · show ((x.files.replace fd _).replace fd moved).get? fd = _
      rw [DescriptorTable.get?_replace, if_pos rfl, DescriptorTable.get?_replace, if_pos rfl, hget]
      cases hid
      cases hflags
      rfl
    · rintro _ _ ⟨-, rfl⟩
      rw [hslice]
    · rintro _ _ ⟨hno, -⟩
      cases hno.symm.trans hreadable

/-- What is fetched in two steps is what is copied out. -/
theorem fetch_leads_source {label : String} {op : ByteArray → Store.Update (Nat × ByteArray)}
    {source : ByteArray}
    (h : ∀ buffer, Ends (op buffer) x.volume.store
      (fun result t => t = x.volume.store ∧ Store.copyOut source buffer = .ok result)
      fun e _ => Store.copyOut source buffer = .error e) :
    Leads (fetch label op) x (fun bytes _ => bytes = source) fun _ _ => False := by
  refine leads_bind (leads_report (leads_bind (leads_reportStatus (leads_request
    ((h .empty).mono ?_ ?_)))))
  · rintro ⟨size, buffer⟩ t ⟨rfl, hcopy⟩
    cases hcopy
    dsimp only
    split
    · next hnothing => exact leads_pure (Content.eq_of_size_eq_zero rfl hnothing)
    · next hsome =>
      obtain ⟨copied, hcopied, -, hextract, -⟩ :=
        Store.copyOut_of_size_le (Content.size_zeros source.size).ge
      refine leads_bind (leads_reportStatus (leads_request ((h _).mono ?_ ?_)))
      · rintro _ _ ⟨rfl, hcopy⟩
        cases hcopied.symm.trans hcopy
        exact leads_pure hextract
      · intro e _ herror
        cases hcopied.symm.trans herror
  · intro e _ herror
    cases herror

/-- The value of an attribute is fetched as it was set. -/
theorem getXattr_leads_value {path name : String} {value : ByteArray} {ino : Nat} {i : Inode}
    (hnamed : x.volume.store.names[Path.normalize path]? = some ino)
    (hi : x.volume.store.inodes[ino]? = some i) (hvalue : i.xattrs[name]? = some value) :
    Leads (getXattr path name).perform x (fun out _ => out = .value value) fun _ _ => False := by
  refine leads_bind ((fetch_leads_source fun buffer =>
    Store.getXattr_of_named buffer hnamed hi hvalue).mono ?_ fun _ _ hfalse => hfalse)
  rintro _ _ rfl
  exact leads_pure rfl

theorem setXattr_leads_value {path name value : String} {ino : Nat} {i : Inode}
    (hnamed : x.volume.store.names[Path.normalize path]? = some ino)
    (hi : x.volume.store.inodes[ino]? = some i) (hname : name ≠ "")
    (hsize : name.utf8ByteSize ≤ Store.maxNameSize) :
    Leads (setXattr path name 0 value).perform x
      (fun out y => out = .none ∧ Leads (getXattr path name).perform y
        (fun out _ => out = .value value.toUTF8) fun _ _ => False)
      fun _ _ => False := by
  refine leads_bind (leads_traced (leads_request
    ((Store.setXattr_of_named hnamed hi hname hsize).mono ?_ fun _ _ h => h.elim)))
  rintro _ t ⟨hnamed', j, hj, hvalue⟩
  exact leads_pure ⟨rfl, getXattr_leads_value hnamed' hj hvalue⟩

end Request

/-! ## Replays of two lines -/

namespace Frame

variable {f : Frame} {text first second : String} {s : Statement} {r : Request}

/-- A line with a statement is entered by performing what the statement asks for. -/
theorem enter_of_parse
    (hparse : Statement.parse Builtin.registry.grammar f.session.maxArgs text = .ok (some s))
    (hasks : s.AsksFor r) : f.enter Builtin.registry (Content.bytes text.toUTF8) =
      (.answered (f.run r.perform).1, (f.run r.perform).2) := by
  rw [enter, Script.readLine_of_parse hparse]
  dsimp only
  rw [hasks.execute_eq]

/-- What two lines print is what the two requests on them print, one after the other. -/
theorem plays_of_leads {r' : Request} {s' : Statement} {out out' : Output}
    (hfirst : '\n' ∉ first.toList) (hsecond : '\n' ∉ second.toList)
    (hparse : Statement.parse Builtin.registry.grammar f.session.maxArgs (first ++ "\n") =
      .ok (some s)) (hasks : s.AsksFor r)
    (hparse' : Statement.parse Builtin.registry.grammar f.session.maxArgs (second ++ "\n") =
      .ok (some s')) (hasks' : s'.AsksFor r')
    (hleads : Action.Leads r.perform f.session
      (fun answer y => answer = out ∧
        Action.Leads r'.perform y (fun answer _ => answer = out') fun _ _ => False)
      fun _ _ => False) :
    (f.plays (Content.bytes (first ++ "\n" ++ (second ++ "\n")).toUTF8)).1 = .ok 0 ∧
    (f.plays (Content.bytes (first ++ "\n" ++ (second ++ "\n")).toUTF8)).2.2.written =
      out.render ++ out'.render := by
  have hlines : Script.lines ⟨Content.bytes (first ++ "\n" ++ (second ++ "\n")).toUTF8, none⟩ =
      [Content.bytes (first ++ "\n").toUTF8, Content.bytes (second ++ "\n").toUTF8] := by
    have hnil : Content.bytes "".toUTF8 = [] := rfl
    rw [Script.lines_toUTF8_cons hfirst, ← String.append_empty (s := second ++ "\n"),
      Script.lines_toUTF8_cons hsecond, hnil, Script.lines_nil, String.append_empty]
  obtain ⟨hstatus, -, hwritten⟩ :=
    plays_eq (.refl f) (Content.bytes (first ++ "\n" ++ (second ++ "\n")).toUTF8)
  rw [hlines] at hstatus hwritten
  have henter := enter_of_parse hparse hasks
  have hmaxArgs := f.maxArgs_enter (Content.bytes (first ++ "\n").toUTF8)
  have hrun := hleads.run
  generalize f.run r.perform = x at henter hrun
  obtain ⟨answer | answer, g⟩ := x
  · exact hrun.elim
  obtain ⟨rfl, hnext⟩ := hrun
  rw [henter] at hmaxArgs
  have henter' := enter_of_parse (f := g) (hmaxArgs ▸ hparse') hasks'
  have hrun' := hnext.run
  generalize g.run r'.perform = y at henter' hrun'
  obtain ⟨answer | answer', g'⟩ := y
  · exact hrun'.elim
  cases hrun'
  simp only [enterAll, henter, henter'] at hstatus hwritten
  rw [hstatus, hwritten]
  simp [Outcome.lastStatus, Outcome.allPrinted, Outcome.status?, Outcome.printed]

end Frame

/-! ## Numbers as tokens -/

namespace Numeral

variable {token : String} {n : Nat}

/-- A numeral has digits, and no other characters than digits and a sign. -/
theorem toList_of_word? (h : word? token = some n) :
    token.toList ≠ [] ∧ ∀ c ∈ token.toList, c = '+' ∨ isDigitOf 10 c = true := by
  obtain ⟨hvalue, -⟩ := Option.filter_eq_some_iff.mp h
  obtain ⟨digits, hne, hdigits, htoken, rfl⟩ := (value?_eq_some_iff (by decide)).mp hvalue
  have hall := (all_isDigitOf_iff (by decide)).mpr ⟨digits, hdigits, rfl⟩
  rcases htoken with heq | heq
  · rw [heq]
    exact ⟨fun hnil => hne (List.map_eq_nil_iff.mp hnil), fun c hc => .inr (hall c hc)⟩
  · rw [heq]
    exact ⟨List.cons_ne_nil _ _,
      List.forall_mem_cons.mpr ⟨.inl rfl, fun c hc => .inr (hall c hc)⟩⟩

theorem not_mem_of_word? (h : word? token = some n) {c : Char} (hsign : c ≠ '+')
    (hdigit : isDigitOf 10 c = false) : c ∉ token.toList := by
  intro hc
  rcases (toList_of_word? h).2 c hc with rfl | hc
  · exact hsign rfl
  · cases hc.symm.trans hdigit

/-- Decimal digits denote their number. -/
theorem word?_toString (h : n < UInt64.size) : word? (toString n) = some n := by
  rw [word?, toString_eq_digits, value?_digits (by decide) (by decide), Option.filter_some,
    if_pos (by simpa using h)]

theorem isToken_of_word? (h : word? token = some n) : Statement.IsToken token where
  ne_empty hempty := (toList_of_word? h).1 (String.toList_eq_nil_iff.mpr hempty)
  not_separator c hc := by
    have hblank := not_mem_of_word? h (c := ' ') (by decide) (by decide)
    have htab := not_mem_of_word? h (c := '\t') (by decide) (by decide)
    rw [Statement.isSeparator, Bool.or_eq_false_iff, beq_eq_false_iff_ne, beq_eq_false_iff_ne]
    exact ⟨fun heq => hblank (heq ▸ hc), fun heq => htab (heq ▸ hc)⟩
  no_lineFeed := not_mem_of_word? h (by decide) (by decide)

end Numeral

/-- The name of a command is a token. -/
theorem Builtin.isToken_name (b : Builtin) : Statement.IsToken b.synopsis.name := by
  cases b <;>
    exact ⟨by decide, by simp [synopsis, Statement.isSeparator], by simp [synopsis]⟩

namespace Request

variable {token a b c text : String} {n fd offset count : Nat}

theorem number_of_word? (h : Numeral.word? token = some n) : number token = .ok n := by
  rw [number, h]

theorem ofArgs_write (ha : Numeral.word? a = some fd) (hb : Numeral.word? b = some offset)
    (hc : Numeral.word? c = some count) (hcount : count ≤ text.utf8ByteSize) :
    ofArgs .write [a, b, c, text] = .ok (write fd offset count text) := by
  rw [ofArgs, number_of_word? ha, number_of_word? hb, number_of_word? hc]
  show (checkLength text count >>= fun _ => pure (write fd offset count text)) = _
  rw [checkLength, if_pos hcount]
  rfl

theorem ofArgs_read (ha : Numeral.word? a = some fd) (hb : Numeral.word? b = some offset)
    (hc : Numeral.word? c = some count) : ofArgs .read [a, b, c] = .ok (read fd offset count) := by
  rw [ofArgs, number_of_word? ha, number_of_word? hb, number_of_word? hc]
  rfl

end Request

/-! ## Round trips -/

/-- A text can be the last argument of a line as it stands. -/
structure Statement.IsPayload (text : String) : Prop where
  head : ∃ c ∈ text.toList.head?, isSeparator c = false
  last : text.toList.getLast? ≠ some '\r'
  no_lineFeed : '\n' ∉ text.toList

namespace Frame

variable {f : Frame} {text : String}

open Statement (spell)

/-- What is written through a descriptor is read through it in the next line. -/
theorem plays_write_read (h : f.Reachable) (hmaxArgs : 3 ≤ f.session.maxArgs)
    (htext : Statement.IsPayload text) {a b c : String} {fd offset count id : Nat}
    {flags : OpenFlags} (ha : Numeral.word? a = some fd) (hb : Numeral.word? b = some offset)
    (hc : Numeral.word? c = some count) (hslot : f.session.Slot fd id flags)
    (hreadable : flags.readable = true) (hwritable : flags.writable = true)
    (happend : flags.contains .append = false) (hcount : count ≤ text.utf8ByteSize)
    (hfits : offset + count ≤ Inode.maxFileSize) :
    (f.plays (Content.bytes s!"write {a} {b} {c} {text}\nread {a} {b} {c}\n".toUTF8)).1 = .ok 0 ∧
    (f.plays (Content.bytes
        s!"write {a} {b} {c} {text}\nread {a} {b} {c}\n".toUTF8)).2.2.written =
      s!"{count}\n{count}\n".toUTF8 ++ text.toUTF8.extract 0 count := by
  have hscript : s!"write {a} {b} {c} {text}\nread {a} {b} {c}\n" =
      spell ["write", a, b, c] text ++ "\n" ++ (spell ["read", a, b] c ++ "\n") := by
    have hwrite : "write " = "write" ++ " " := rfl
    have hread : "\nread " = "\n" ++ ("read" ++ " ") := rfl
    simp only [toString, spell, List.foldr_cons, List.foldr_nil, String.append_assoc, hwrite, hread]
  have hta := Numeral.isToken_of_word? ha
  have htb := Numeral.isToken_of_word? hb
  have htc := Numeral.isToken_of_word? hc
  have hwrite : Statement.IsToken "write" := Builtin.write.isToken_name
  have hread : Statement.IsToken "read" := Builtin.read.isToken_name
  have hreads : ∀ token ∈ ["read", a, b], Statement.IsToken token := by simp [hread, hta, htb]
  have hwrites : ∀ token ∈ ["write", a, b, c], Statement.IsToken token := by
    simp [hwrite, hta, htb, htc]
  have hreturn : c.toList.getLast? ≠ some '\r' := fun hlast =>
    Numeral.not_mem_of_word? hc (by decide) (by decide) (List.mem_of_getLast? hlast)
  obtain ⟨ino, content, hserves⟩ := h.exists_serves hslot
  obtain ⟨i, hi, hnode⟩ := hserves.inode
  have hplays := plays_of_leads (Statement.no_lineFeed_spell hwrites htext.no_lineFeed)
    (Statement.no_lineFeed_spell hreads htc.no_lineFeed)
    (Statement.parse_spell_tail hwrites (Builtin.write.grammar_registry) hmaxArgs htext.head
      htext.last) ⟨.write, rfl, Request.ofArgs_write ha hb hc hcount⟩
    (Statement.parse_spell hreads htc (Builtin.read.grammar_registry) hmaxArgs hreturn)
    ⟨.read, rfl, Request.ofArgs_read ha hb hc⟩
    (Request.write_leads_count hslot hserves.bound hi hnode hreadable hwritable happend hcount
      hfits)
  rw [hscript]
  refine ⟨hplays.1, hplays.2.trans ?_⟩
  simp only [Output.render, Request.size_payload hcount, Text.toUTF8_append,
    ByteArray.append_assoc]

/-- A value that is set for an attribute is fetched in the next line. -/
theorem plays_setXattr_getXattr (h : f.Reachable) (hmaxArgs : 3 ≤ f.session.maxArgs)
    (htext : Statement.IsPayload text) {path name : String} (hpath : Statement.IsToken path)
    (hname : Statement.IsToken name) (hsize : name.utf8ByteSize ≤ 255)
    (hreturn : name.toList.getLast? ≠ some '\r')
    (hnamed : f.session.volume.store.names[Path.normalize path]? ≠ none) :
    (f.plays (Content.bytes
        s!"setxattr {path} {name} 0 {text}\ngetxattr {path} {name}\n".toUTF8)).1 = .ok 0 ∧
    (f.plays (Content.bytes
        s!"setxattr {path} {name} 0 {text}\ngetxattr {path} {name}\n".toUTF8)).2.2.written =
      s!"{text.utf8ByteSize}\n{text}\n".toUTF8 := by
  have hscript : s!"setxattr {path} {name} 0 {text}\ngetxattr {path} {name}\n" =
      spell ["setxattr", path, name, "0"] text ++ "\n" ++
        (spell ["getxattr", path] name ++ "\n") := by
    have hset : "setxattr " = "setxattr" ++ " " := rfl
    have hget : "\ngetxattr " = "\n" ++ ("getxattr" ++ " ") := rfl
    have hflags : " 0 " = " " ++ ("0" ++ " ") := rfl
    simp only [toString, spell, List.foldr_cons, List.foldr_nil, String.append_assoc, hset, hget,
      hflags]
  have hzero : Numeral.word? "0" = some 0 := by decide
  have hset : Statement.IsToken "setxattr" := Builtin.setXattr.isToken_name
  have hget : Statement.IsToken "getxattr" := Builtin.getXattr.isToken_name
  have hgets : ∀ token ∈ ["getxattr", path], Statement.IsToken token := by simp [hget, hpath]
  have hsets : ∀ token ∈ ["setxattr", path, name, "0"], Statement.IsToken token := by
    simp [hset, hpath, hname, Numeral.isToken_of_word? hzero]
  have hargs : Request.ofArgs .setXattr [path, name, "0", text] =
      .ok (.setXattr path name 0 text) := by
    rw [Request.ofArgs, Request.number_of_word? hzero]
    rfl
  obtain ⟨ino, hino⟩ := Option.ne_none_iff_exists'.mp hnamed
  obtain ⟨i, hi, -⟩ := h.consistent.inode_of_named hino
  have hplays := plays_of_leads (Statement.no_lineFeed_spell hsets htext.no_lineFeed)
    (Statement.no_lineFeed_spell hgets hname.no_lineFeed)
    (Statement.parse_spell_tail hsets (Builtin.setXattr.grammar_registry) hmaxArgs htext.head
      htext.last) ⟨.setXattr, rfl, hargs⟩
    (Statement.parse_spell hgets hname (Builtin.getXattr.grammar_registry)
      (by show 1 < _; omega) hreturn)
    ⟨.getXattr, rfl, rfl⟩
    (Request.setXattr_leads_value hino hi hname.ne_empty hsize)
  rw [hscript]
  refine ⟨hplays.1, hplays.2.trans ?_⟩
  have hpush (bytes : ByteArray) : bytes.push '\n'.toUInt8 = bytes ++ "\n".toUTF8 :=
    Content.bytes_injective (by
      rw [Content.bytes_append]
      simp only [Content.bytes, ByteArray.data_push, Array.toList_push]
      rfl)
  simp only [Output.render, hpush, Text.size_toUTF8, Text.toUTF8_append, ByteArray.append_assoc,
    ByteArray.empty_append]
  rfl

/-- **A text that is sent as the last argument of a line comes back as it was sent**, blanks at its
end and inside it included: as the bytes of a file, of which the first `count` are written and read
at an offset, and as the value of an attribute. -/
theorem Reachable.payload_survives (h : f.Reachable) (hmaxArgs : 3 ≤ f.session.maxArgs)
    (htext : Statement.IsPayload text) :
    (∀ a b c : String, ∀ fd offset count id : Nat, ∀ flags : OpenFlags,
      Numeral.word? a = some fd → Numeral.word? b = some offset → Numeral.word? c = some count →
      f.session.Slot fd id flags → flags.readable = true → flags.writable = true →
      flags.contains .append = false → count ≤ text.utf8ByteSize →
      offset + count ≤ Inode.maxFileSize →
      (f.plays (Content.bytes s!"write {a} {b} {c} {text}\nread {a} {b} {c}\n".toUTF8)).1 = .ok 0 ∧
      (f.plays (Content.bytes
          s!"write {a} {b} {c} {text}\nread {a} {b} {c}\n".toUTF8)).2.2.written =
        s!"{count}\n{count}\n".toUTF8 ++ text.toUTF8.extract 0 count) ∧
    (∀ path name : String, Statement.IsToken path → Statement.IsToken name →
      name.utf8ByteSize ≤ 255 → name.toList.getLast? ≠ some '\r' →
      f.session.volume.store.names[Path.normalize path]? ≠ none →
      (f.plays (Content.bytes
          s!"setxattr {path} {name} 0 {text}\ngetxattr {path} {name}\n".toUTF8)).1 = .ok 0 ∧
      (f.plays (Content.bytes
          s!"setxattr {path} {name} 0 {text}\ngetxattr {path} {name}\n".toUTF8)).2.2.written =
        s!"{text.utf8ByteSize}\n{text}\n".toUTF8) := by
  refine ⟨fun a b c fd offset count id flags => ?_, fun path name => ?_⟩
  · exact plays_write_read h hmaxArgs htext
  · exact plays_setXattr_getXattr h hmaxArgs htext

/-! ## A text that ends with blanks -/

/-- A text whose second byte is in the middle of a character. -/
def blankEnded : String := "né \t"

theorem isPayload_blankEnded : Statement.IsPayload blankEnded :=
  ⟨⟨'n', rfl, by decide⟩, by decide, by decide⟩

theorem made_reachable : made.Reachable := .statement (.start {} ⟨_, _, _, [], rfl⟩ rfl) _

set_option maxRecDepth 4000 in
theorem slot_made : made.session.Slot 0 1 .readWrite := ⟨0, by cbv⟩

theorem maxArgs_made : made.session.maxArgs = 10 := Frame.maxArgs_execute _ _

/-- Two of its bytes are written and read, and all of it is set for an attribute. -/
theorem made_payload_survives :
    (made.Reachable ∧ 3 ≤ made.session.maxArgs ∧ Statement.IsPayload blankEnded) ∧
    (made.plays (Content.bytes "write 0 5 2 né \t\nread 0 5 2\n".toUTF8)).2.2.written =
      "2\n2\n".toUTF8 ++ ⟨#[110, 195]⟩ ∧
    (made.plays (Content.bytes
        "setxattr /a user.k 0 né \t\ngetxattr /a user.k\n".toUTF8)).2.2.written =
      "5\nné \t\n".toUTF8 := by
  have hmaxArgs : 3 ≤ made.session.maxArgs := by
    rw [maxArgs_made]
    decide
  have hpath : Statement.IsToken "/a" := ⟨by decide, by simp [Statement.isSeparator], by simp⟩
  have hname : Statement.IsToken "user.k" :=
    ⟨by decide, by simp [Statement.isSeparator], by simp⟩
  have hnamed : made.session.volume.store.names[Path.normalize "/a"]? ≠ none := by
    rw [names_made]
    exact Option.some_ne_none 2
  obtain ⟨hwrites, hsets⟩ := made_reachable.payload_survives hmaxArgs isPayload_blankEnded
  refine ⟨⟨made_reachable, hmaxArgs, isPayload_blankEnded⟩, ?_, ?_⟩
  · exact (hwrites "0" "5" "2" 0 5 2 1 .readWrite (Numeral.word?_toString (n := 0) (by decide))
      (Numeral.word?_toString (n := 5) (by decide)) (Numeral.word?_toString (n := 2) (by decide))
      slot_made (by decide) (by decide) (by decide) (by decide) (by decide)).2
  · exact (hsets "/a" "user.k" hpath hname (by decide) (by decide) hnamed).2

end Frame

end FileScript
