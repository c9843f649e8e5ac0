import FileScript.Attributes
import FileScript.Proofs.Numerals

/-!
# Printed lines

The line that is printed for attributes, and the one for an entry of a listing, can be read again,
and so they lose nothing. Both are made of fields: a text that stands before a number, and the base
in which the number is written (`Field`).

1. The digits at the beginning of a text are read up to the first character that is none, and have
   to be those that are written (`Numeral.take?_eq_some_iff`).
2. Fields are read back one after the other, since no text between two numbers begins with a digit
   (`Field.readAll_writeAll`); nothing else is accepted (`Field.eq_of_readAll`).
3. Reading a line accepts exactly what is printed (`Attributes.ofLine?_eq_some_iff`,
   `DirEntry.ofLine?_eq_some_iff`). The name of an entry ends with the last quote of its line.
-/

namespace FileScript

/-! ## Numbers at the beginning of a text -/

namespace Numeral

variable {base n : Nat} {text rest : List Char}

/-- The character for a digit of a base up to sixteen, letters in upper case. -/
def upperDigit (d : Nat) : Char := (Nat.digitChar d).toUpper

/-- The digits by which a number is written. -/
def written (base n : Nat) : List Char := (places base n).map upperDigit

/-- Whether a character is a digit of base sixteen, letters in upper case. -/
def isUpperDigit (c : Char) : Bool := c.isDigit || ('A' ≤ c && c ≤ 'F')

/-- The number for which a digit stands. -/
def digitValue (c : Char) : Nat :=
  if c.isDigit then c.toNat - '0'.toNat else c.toNat - 'A'.toNat + 10

theorem upperDigit_spec : ∀ d < 16, isUpperDigit (upperDigit d) = true ∧
    digitValue (upperDigit d) = d := by decide

theorem toList_hexUpper (n : Nat) : (hexUpper n).toList = written 16 n := by
  rw [hexUpper, String.toList_ofList, toDigits_eq (by decide), List.map_map]
  rfl

/-- Digits below ten have no case. -/
theorem written_of_le_ten (hone : 1 < base) (hten : base ≤ 10) (n : Nat) :
    (digits base n).toList = written base n := by
  have hcase : ∀ d < 10, Nat.digitChar d = upperDigit d := by decide
  rw [digits, String.toList_ofList, toDigits_eq hone]
  exact List.map_congr_left fun d hd => hcase d ((lt_of_mem_places hone d hd).trans_le hten)

theorem toList_octal (n : Nat) : (octal n).toList = written 8 n :=
  written_of_le_ten (by decide) (by decide) n

theorem toList_toString (n : Nat) : (toString n).toList = written 10 n := by
  rw [toString_eq_digits, written_of_le_ten (by decide) (by decide)]

/-- Reads the digits at the beginning of a text, which have to be those by which a number is
written. Returns the number and the rest of the text. -/
def take? (base : Nat) (text : List Char) : Option (Nat × List Char) :=
  let run := text.takeWhile isUpperDigit
  let n := Nat.ofDigits base (run.map digitValue).reverse
  if run = written base n then some (n, text.dropWhile isUpperDigit) else none

/-- A text does not begin with a digit. -/
def StartsPlain (text : List Char) : Prop := text.head?.any isUpperDigit = false

instance : DecidablePred StartsPlain := fun _ => by unfold StartsPlain; infer_instance

theorem isUpperDigit_of_mem_written (hone : 1 < base) (hmax : base ≤ 16) :
    ∀ c ∈ written base n, isUpperDigit c = true := by
  intro c hc
  obtain ⟨d, hd, rfl⟩ := List.mem_map.mp hc
  exact (upperDigit_spec d ((lt_of_mem_places hone d hd).trans_le hmax)).1

/-- The digits of a number denote it. -/
theorem ofDigits_written (hone : 1 < base) (hmax : base ≤ 16) (n : Nat) :
    Nat.ofDigits base ((written base n).map digitValue).reverse = n := by
  have hvalues : (written base n).map digitValue = places base n := by
    rw [written, List.map_map]
    refine (List.map_congr_left fun d hd => ?_).trans (List.map_id _)
    exact (upperDigit_spec d ((lt_of_mem_places hone d hd).trans_le hmax)).2
  rw [hvalues, ofDigits_places]

/-- No digits are taken from a text that does not begin with one. -/
theorem takeWhile_dropWhile_of_startsPlain (h : StartsPlain rest) :
    rest.takeWhile isUpperDigit = [] ∧ rest.dropWhile isUpperDigit = rest := by
  cases rest with
  | nil => exact ⟨rfl, rfl⟩
  | cons c rest =>
    have hc : isUpperDigit c ≠ true := Bool.eq_false_iff.mp h
    exact ⟨List.takeWhile_cons_of_neg hc, List.dropWhile_cons_of_neg hc⟩

/-- A number is read back if no digit follows. -/
theorem take?_written (hone : 1 < base) (hmax : base ≤ 16) (h : StartsPlain rest) (n : Nat) :
    take? base (written base n ++ rest) = some (n, rest) := by
  have hdigits := isUpperDigit_of_mem_written (n := n) hone hmax
  obtain ⟨htake, hdrop⟩ := takeWhile_dropWhile_of_startsPlain h
  rw [take?, List.takeWhile_append_of_pos hdigits, List.dropWhile_append_of_pos hdigits, htake,
    hdrop, List.append_nil, ofDigits_written hone hmax, if_pos rfl]

/-- What is read is how a number is written. -/
theorem eq_of_take? (h : take? base text = some (n, rest)) : text = written base n ++ rest := by
  obtain ⟨hrun, heq⟩ := Option.ite_none_right_eq_some.mp h
  obtain ⟨rfl, rfl⟩ := Prod.mk.inj (Option.some.inj heq)
  rw [← hrun, List.takeWhile_append_dropWhile]

end Numeral

open Numeral

/-! ## Lines of fields -/

/-- A number on a line: the text that stands before it, and the base in which it is written. -/
structure Field where
  label : String
  base : Nat

namespace Field

/-- Numbers in fields, one after the other. -/
def writeAll : List Field → List Nat → List Char
  | field :: fields, n :: numbers =>
    field.label.toList ++ (written field.base n ++ writeAll fields numbers)
  | _, _ => []

/-- The numbers of the fields at the beginning of a text, and the rest of the text. -/
def readAll : List Field → List Char → Option (List Nat × List Char)
  | [], text => some ([], text)
  | field :: fields, text =>
    if field.label.toList <+: text then do
      let (n, rest) ← take? field.base (text.drop field.label.toList.length)
      let (numbers, rest) ← readAll fields rest
      return (n :: numbers, rest)
    else none

/-- The numbers of a field end where its label begins. -/
def Delimits (field : Field) : Prop := field.label ≠ "" ∧ StartsPlain field.label.toList

instance : DecidablePred Delimits := fun _ => by unfold Delimits; infer_instance

/-- What is needed to read fields back: bases for which there are digits, and texts that no digit
begins between the numbers. -/
def Readable (fields : List Field) : Prop :=
  (∀ field ∈ fields, 1 < field.base ∧ field.base ≤ 16) ∧ ∀ field ∈ fields.tail, field.Delimits

instance : DecidablePred Readable := fun _ => by unfold Readable; infer_instance

variable {fields : List Field} {numbers : List Nat} {text rest : List Char}

theorem startsPlain_writeAll (hfields : ∀ field ∈ fields, field.Delimits)
    (hlength : numbers.length = fields.length) (hrest : StartsPlain rest) :
    StartsPlain (writeAll fields numbers ++ rest) := by
  cases fields with
  | nil => exact hrest
  | cons field fields =>
    obtain ⟨n, numbers, rfl⟩ : ∃ n more, numbers = n :: more :=
      List.exists_cons_of_length_eq_add_one hlength
    obtain ⟨hne, hplain⟩ := hfields field List.mem_cons_self
    rwa [StartsPlain, writeAll, List.append_assoc,
      List.head?_append_of_ne_nil _ fun h => hne (String.toList_eq_nil_iff.mp h)]

/-- Fields are read back. -/
theorem readAll_writeAll (h : Readable fields) (hlength : numbers.length = fields.length)
    (hrest : StartsPlain rest) :
    readAll fields (writeAll fields numbers ++ rest) = some (numbers, rest) := by
  obtain ⟨hbases, hlabels⟩ := h
  induction fields generalizing numbers with
  | nil => rw [List.length_eq_zero_iff.mp hlength]; rfl
  | cons field fields ih =>
    obtain ⟨n, numbers, rfl⟩ : ∃ n more, numbers = n :: more :=
      List.exists_cons_of_length_eq_add_one hlength
    obtain ⟨hbase, hbases⟩ := List.forall_mem_cons.mp hbases
    have hlength : numbers.length = fields.length := Nat.succ.inj hlength
    have hlabels : ∀ f ∈ fields, f.Delimits := hlabels
    have hnext := startsPlain_writeAll hlabels hlength hrest
    rw [writeAll, readAll, List.append_assoc, List.append_assoc,
      if_pos (List.prefix_append _ _), List.drop_left, take?_written hbase.1 hbase.2 hnext]
    have hlater := ih hlength hbases fun f hf => hlabels f (List.mem_of_mem_tail hf)
    simp only [bind, Option.bind_some, hlater, pure]

/-- What is read is how the numbers are written. -/
theorem eq_of_readAll (h : readAll fields text = some (numbers, rest)) :
    numbers.length = fields.length ∧ text = writeAll fields numbers ++ rest := by
  induction fields generalizing numbers text with
  | nil =>
    cases h
    exact ⟨rfl, rfl⟩
  | cons field fields ih =>
    obtain ⟨hlabel, h⟩ := Option.ite_none_right_eq_some.mp h
    simp only [bind, Option.bind_eq_some_iff, pure, Option.some.injEq, Prod.exists,
      Prod.mk.injEq] at h
    obtain ⟨n, _, hn, more, _, hmore, rfl, rfl⟩ := h
    obtain ⟨hlength, rfl⟩ := ih hmore
    obtain ⟨tail, rfl⟩ := hlabel
    rw [List.drop_left] at hn
    rw [eq_of_take? hn, writeAll, List.length_cons, hlength, List.append_assoc, List.append_assoc]
    exact ⟨rfl, rfl⟩

end Field

/-! ## Attributes -/

namespace Attributes

/-- The fields of a line of attributes. A time has two. -/
def fields : List Field := [
  ⟨"st_dev=", 10⟩, ⟨", st_ino=", 16⟩, ⟨", st_mode=", 8⟩, ⟨", st_nlink=", 10⟩, ⟨", st_uid=", 10⟩,
  ⟨", st_gid=", 10⟩, ⟨", st_rdev=", 10⟩, ⟨", st_size=", 10⟩, ⟨", st_blksize=", 10⟩,
  ⟨", st_blocks=", 10⟩, ⟨", st_atime=", 10⟩, ⟨".", 10⟩, ⟨", st_mtime=", 10⟩, ⟨".", 10⟩,
  ⟨", st_ctime=", 10⟩, ⟨".", 10⟩]

/-- The numbers in these fields. -/
def numbers (a : Attributes) : List Nat := [
  a.device, a.inode, a.mode.toNat, a.links, a.uid, a.gid, a.deviceType, a.size, a.blockSize,
  a.blocks, a.accessed.seconds, a.accessed.nanoseconds, a.modified.seconds, a.modified.nanoseconds,
  a.changed.seconds, a.changed.nanoseconds]

/-- The attributes with these numbers; a mode is a word of 32 bits. -/
def ofNumbers? : List Nat → Option Attributes
  | [device, inode, mode, links, uid, gid, deviceType, size, blockSize, blocks, accessed,
      accessedNano, modified, modifiedNano, changed, changedNano] =>
    if mode < UInt32.size then
      some {
        device, inode, mode := .ofNat mode, links, uid, gid, deviceType, size, blockSize, blocks
        accessed := ⟨accessed, accessedNano⟩, modified := ⟨modified, modifiedNano⟩
        changed := ⟨changed, changedNano⟩ }
    else none
  | _ => none

/-- The attributes from which a line was printed. -/
def ofLine? (line : String) : Option Attributes := do
  let (numbers, rest) ← Field.readAll fields line.toList
  if rest = [] then ofNumbers? numbers else none

theorem readable_fields : Field.Readable fields := by decide

theorem ofNumbers?_eq_some_iff {numbers : List Nat} {a : Attributes} :
    ofNumbers? numbers = some a ↔ numbers = a.numbers := by
  constructor
  · intro h
    unfold ofNumbers? at h
    split at h
    · obtain ⟨hmode, h⟩ := Option.ite_none_right_eq_some.mp h
      cases h
      simp [Attributes.numbers, UInt32.toNat_ofNat_of_lt' hmode]
    · cases h
  · rintro rfl
    rw [Attributes.numbers, ofNumbers?, if_pos a.mode.toNat_lt]
    simp

theorem toList_line (a : Attributes) : a.line.toList = Field.writeAll fields a.numbers := by
  have htext : ∀ text : String, toString text = text := fun _ => rfl
  simp only [line, Timespec.line, fields, numbers, Field.writeAll, String.toList_append, htext,
    toList_toString, toList_hexUpper, toList_octal, List.append_assoc, List.append_nil]
  rfl

/-- **Reading a line accepts exactly what is printed for attributes.** -/
theorem ofLine?_eq_some_iff {line : String} {a : Attributes} :
    ofLine? line = some a ↔ line = a.line := by
  rw [← String.toList_inj, toList_line, ofLine?]
  simp only [bind, Option.bind_eq_some_iff, Option.ite_none_right_eq_some, Prod.exists,
    ofNumbers?_eq_some_iff]
  constructor
  · rintro ⟨_, _, hread, rfl, rfl⟩
    rw [(Field.eq_of_readAll hread).2, List.append_nil]
  · intro h
    refine ⟨a.numbers, [], ?_, rfl, rfl⟩
    rw [h, ← List.append_nil (Field.writeAll _ _)]
    exact Field.readAll_writeAll readable_fields rfl rfl

end Attributes

/-! ## Entries -/

namespace EntryKind

/-- The kind that a listing shows by a number. -/
def ofCode? : Nat → Option EntryKind
  | 1 => some file
  | 2 => some directory
  | _ => none

theorem ofCode?_eq_some_iff {n : Nat} {kind : EntryKind} :
    ofCode? n = some kind ↔ n = kind.code := by
  unfold ofCode?
  split <;> cases kind <;> simp_all [code]

end EntryKind

namespace DirEntry

/-- The fields of the line of an entry, in front of its name. -/
def fields : List Field := [⟨"", 10⟩, ⟨" ", 16⟩]

/-- The text between a blank with a quote and a quote at the end. Quotes inside it do not end it. -/
def unquote? : List Char → Option (List Char)
  | ' ' :: '\'' :: quoted => if quoted.getLast? = some '\'' then some quoted.dropLast else none
  | _ => none

/-- The numbers in the fields. -/
def numbers (e : DirEntry) : List Nat := [e.kind.code, e.inode]

/-- The entry with these numbers and this name. -/
def ofNumbers? : List Nat → List Char → Option DirEntry
  | [code, inode], name =>
    (EntryKind.ofCode? code).map fun kind => { kind, inode, name := .ofList name }
  | _, _ => none

/-- The entry for which a line was printed. -/
def ofLine? (line : String) : Option DirEntry := do
  let (numbers, rest) ← Field.readAll fields line.toList
  ofNumbers? numbers (← unquote? rest)

theorem readable_fields : Field.Readable fields := by decide

theorem unquote?_eq_some_iff {text name : List Char} :
    unquote? text = some name ↔ text = " '".toList ++ (name ++ "'".toList) := by
  unfold unquote?
  split
  · next quoted =>
    rw [Option.ite_none_right_eq_some, Option.some.injEq]
    show _ ↔ ' ' :: '\'' :: quoted = ' ' :: '\'' :: (name ++ ['\''])
    rw [List.cons_inj_right, List.cons_inj_right]
    constructor
    · rintro ⟨hlast, rfl⟩
      exact (List.dropLast_append_getLast? _ hlast).symm
    · rintro rfl
      exact ⟨List.getLast?_concat, List.dropLast_concat⟩
  · next hquote =>
    exact iff_of_false (by simp) fun h => hquote _ h

theorem ofNumbers?_eq_some_iff {numbers : List Nat} {name : List Char} {e : DirEntry} :
    ofNumbers? numbers name = some e ↔ numbers = e.numbers ∧ name = e.name.toList := by
  constructor
  · intro h
    unfold ofNumbers? at h
    split at h
    · obtain ⟨kind, hkind, rfl⟩ := Option.map_eq_some_iff.mp h
      rw [EntryKind.ofCode?_eq_some_iff.mp hkind]
      exact ⟨rfl, String.toList_ofList.symm⟩
    · cases h
  · rintro ⟨rfl, rfl⟩
    rw [numbers, ofNumbers?, EntryKind.ofCode?_eq_some_iff.mpr rfl, Option.map_some,
      String.ofList_toList]

theorem toList_line (e : DirEntry) : e.line.toList =
    Field.writeAll fields e.numbers ++ (" '".toList ++ (e.name.toList ++ "'".toList)) := by
  have htext : ∀ text : String, toString text = text := fun _ => rfl
  simp only [line, fields, numbers, Field.writeAll, String.toList_append, htext, toList_toString,
    toList_hexUpper, List.append_assoc, List.append_nil]
  rfl

/-- **Reading a line accepts exactly what is printed for an entry**, whatever its name is. -/
theorem ofLine?_eq_some_iff {line : String} {e : DirEntry} :
    ofLine? line = some e ↔ line = e.line := by
  rw [← String.toList_inj, toList_line, ofLine?]
  simp only [bind, Option.bind_eq_some_iff, Prod.exists, ofNumbers?_eq_some_iff,
    unquote?_eq_some_iff]
  constructor
  · rintro ⟨_, _, hread, _, rfl, rfl, rfl⟩
    exact (Field.eq_of_readAll hread).2
  · intro h
    refine ⟨e.numbers, _, ?_, e.name.toList, rfl, rfl, rfl⟩
    rw [h]
    exact Field.readAll_writeAll readable_fields rfl rfl

end DirEntry

/-- **Printed lines lose nothing.** Attributes and entries can be read from the lines that are
printed for them, and so no line is printed for two of them. -/
theorem printed_lines_determine :
    (∀ a : Attributes, Attributes.ofLine? a.line = some a) ∧
      (∀ e : DirEntry, DirEntry.ofLine? e.line = some e) ∧
      Function.Injective Attributes.line ∧ Function.Injective DirEntry.line := by
  have hattributes : ∀ a : Attributes, Attributes.ofLine? a.line = some a := fun _ =>
    Attributes.ofLine?_eq_some_iff.mpr rfl
  have hentries : ∀ e : DirEntry, DirEntry.ofLine? e.line = some e := fun _ =>
    DirEntry.ofLine?_eq_some_iff.mpr rfl
  refine ⟨hattributes, hentries, fun a b h => ?_, fun a b h => ?_⟩
  · exact Option.some.inj ((hattributes a).symm.trans (h ▸ hattributes b))
  · exact Option.some.inj ((hentries a).symm.trans (h ▸ hentries b))

/-- A name that looks like the line of another entry is read as a name. -/
example : DirEntry.ofLine? "1 2A '2 FF 'x''" = some ⟨.file, 0x2a, "2 FF 'x'"⟩ := by decide +kernel

end FileScript
