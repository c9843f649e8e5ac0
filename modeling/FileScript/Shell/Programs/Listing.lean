import FileScript.Shell.Accounts
import FileScript.Shell.Format
import FileScript.Shell.Pattern
import FileScript.Shell.Programs.Making
import FileScript.Shell.Programs.Order
import FileScript.Unicode.Width

/-!
# Lists of files

What there is in directories, in one of several forms: one name in each line, names in columns, or
lines that tell more of each item.
-/

namespace FileScript.Shell

namespace Programs

open Effect
open Octets (Piece)

/-! ## What is listed, and how -/

/-- How names are laid out. -/
inductive ListForm where
  | lines
  | long
  | columns
  | across
  | commas
  deriving DecidableEq, Repr, Inhabited

/-- By what names are sorted. -/
inductive ListOrder where
  | name
  | none
  | time
  | size
  | extension
  | version
  | width
  deriving DecidableEq, Repr, Inhabited

/-- Which signs show what kind of item a name belongs to. -/
inductive Indicators where
  | none
  | slash
  | fileType
  | classify
  deriving DecidableEq, Repr, Inhabited

/-- How a list is made. -/
structure ListStyle where
  form : ListForm := .lines
  order : ListOrder := .name
  indicators : Indicators := .none
  quoting : String := "literal"
  width : Nat := 80
  tabSize : Nat := 8
  deriving Repr, Inhabited

namespace ListStyle

/-- The forms, by their names. -/
def formNames : List (List String) :=
  [["verbose", "long"], ["commas"], ["horizontal", "across"], ["vertical"], ["single-column"]]

/-- The orders, by their names. -/
def orderNames : List (String × ListOrder) :=
  [("none", .none), ("time", .time), ("size", .size), ("extension", .extension),
    ("version", .version), ("width", .width)]

/-- The kinds of signs, by their names. -/
def indicatorNames : List (String × Indicators) :=
  [("none", .none), ("slash", .slash), ("file-type", .fileType), ("classify", .classify)]

/-- The ways to quote names. -/
def quotingNames : List String :=
  ["literal", "shell", "shell-always", "shell-escape", "shell-escape-always", "c", "c-maybe",
    "escape", "locale", "clocale"]

/-- What an option with a value asks for. -/
def withValue (s : ListStyle) (key value : String) : Except String ListStyle := do
  match key with
  | "format" =>
    let form : ListForm := match ← chosenOf formNames "--format" value with
      | "verbose" => .long
      | "commas" => .commas
      | "horizontal" => .across
      | "vertical" => .columns
      | _ => .lines
    return { s with form }
  | "sort" =>
    let word ← chosen (orderNames.map (·.1)) "--sort" value
    return { s with order := (orderNames.lookup word).getD .name }
  | "indicator-style" =>
    let word ← chosen (indicatorNames.map (·.1)) "--indicator-style" value
    return { s with indicators := (indicatorNames.lookup word).getD .none }
  | "quoting-style" => return { s with quoting := ← chosen quotingNames "--quoting-style" value }
  | "color" =>
    let groups := [["always", "yes", "force"], ["never", "no", "none"], ["auto", "tty", "if-tty"]]
    if value ≠ "" then let _ ← chosenOf groups "--color" value
    return s
  | "time" =>
    let groups := [["atime", "access", "use"], ["ctime", "status"], ["mtime", "modification"],
      ["birth", "creation"]]
    let _ ← chosenOf groups "--time" value
    return s
  | _ => return s

/-- What an option asks for. -/
def add (s : ListStyle) (option : String × String) : Except String ListStyle :=
  let (key, value) := option
  match key with
  | "l" | "g" | "o" | "numeric-uid-gid" | "full-time" => .ok { s with form := .long }
  | "C" => .ok { s with form := .columns }
  | "x" => .ok { s with form := .across }
  | "m" => .ok { s with form := .commas }
  | "1" => .ok (if s.form = .long then s else { s with form := .lines })
  | "S" => .ok { s with order := .size }
  | "t" => .ok { s with order := .time }
  | "X" => .ok { s with order := .extension }
  | "v" => .ok { s with order := .version }
  | "U" | "f" => .ok { s with order := .none }
  | "p" => .ok { s with indicators := .slash }
  | "classify" => .ok { s with indicators := .classify }
  | "file-type" => .ok { s with indicators := .fileType }
  | "literal" => .ok { s with quoting := "literal" }
  | "quote-name" => .ok { s with quoting := "c" }
  | "escape" => .ok { s with quoting := "escape" }
  | _ => s.withValue key value

end ListStyle

/-- A name in a list, with the item that it belongs to. -/
structure ListEntry where
  name : String
  place : Place
  item : FolderItem

namespace ListEntry

/-- The size of an item. -/
def size (e : ListEntry) : Nat :=
  match e.item with
  | .file bytes => bytes.size
  | .directory => 4096
  | .link target => target.utf8ByteSize
  | _ => 0

/-- How many names lead to an item. -/
def nameCount (folder : Folder) (e : ListEntry) : Nat :=
  match e.item with
  | .directory =>
    let inner := (folder.list e.place).filter fun name =>
      match folder.item? (e.place ++ [name]) with
      | some .directory => true
      | _ => false
    inner.length + 2
  | _ => folder.nameCount e.place

/-- How many kilobytes an item takes. -/
def blocks (e : ListEntry) : Nat :=
  match e.item with
  | .link _ => 0
  | _ => (e.size + 4095) / 4096 * 4

/-- The sign that shows the kind of an item. -/
def indicator (e : ListEntry) (mode : Nat) (indicators : Indicators) : String :=
  match indicators, e.item with
  | .none, _ => ""
  | _, .directory => "/"
  | .slash, _ => ""
  | _, .link _ => "@"
  | .classify, .file _ => if mode &&& 0o111 ≠ 0 then "*" else ""
  | .classify, .executable => "*"
  | _, _ => ""

/-- The ending of a name. -/
def extension (e : ListEntry) : String :=
  let parts := e.name.splitOn "."
  if parts.length < 2 then "" else "." ++ parts.getLastD ""

end ListEntry

/-! ## Names -/

/-- A name with escape sequences for what cannot be printed; `also` are other characters that are
marked by a backslash. -/
def escapedName (also : List Char) (name : String) : String :=
  let shown (p : Piece) : String :=
    match p with
    | .char c =>
      if c = '\\' ∨ also.contains c then "\\" ++ p.text
      else if Quoting.isHidden p then Quoting.escaped p
      else p.text
    | .byte _ => Quoting.escaped p
  String.join ((Octets.pieces name).map shown)

/-- A name as a list shows it. -/
def ListStyle.shownName (s : ListStyle) (hides : Bool) (name : String) : String :=
  match s.quoting with
  | "c" => "\"" ++ escapedName ['"'] name ++ "\""
  | "escape" => escapedName [' '] name
  | "shell" | "shell-escape" | "c-maybe" => Quoting.listed name
  | "shell-always" | "shell-escape-always" => Quoting.always name
  | "locale" | "clocale" => Quoting.value name
  | _ =>
    if hides then
      String.join ((Octets.pieces name).map fun p => if Quoting.isHidden p then "?" else p.text)
    else name

/-- How many columns a text takes. -/
def shownWidth (text : String) : Nat :=
  total ((Octets.pieces text).map fun
    | .char c => (Unicode.columns? c).getD 0
    | .byte _ => 1)

/-! ## Layout -/

/-- The widths of so many columns of names, with spaces between them. -/
def columnWidths (count : Nat) (byRows : Bool) (widths : List Nat) : List Nat :=
  let rows := (widths.length + count - 1) / count
  let column (i : Nat) : Nat := if byRows then i % count else i / rows
  let numbered := widths.zipIdx
  (List.range count).map fun c =>
    let own := (numbered.filter fun (_, i) => column i = c).map (·.1)
    let gap := if c + 1 = count then 0 else 2
    (own.map (· + gap)).foldl max 3

/-- How many columns of names there is space for. -/
def columnCount (width : Nat) (byRows : Bool) (widths : List Nat) : Nat :=
  let most := min widths.length (if width = 0 then widths.length else (width + 2) / 3)
  let fitting := (List.range most).filter fun i =>
    let columns := columnWidths (i + 1) byRows widths
    width = 0 || columns.all (· ≤ 3) || total columns < width
  (fitting.getLast?.getD 0) + 1

/-- Blanks that lead from one column to another: tabs as far as they reach. -/
def blanks (tabSize : Nat) : Nat → (start goal : Nat) → String
  | 0, _, _ => ""
  | fuel + 1, start, goal =>
    if goal ≤ start then ""
    else if tabSize ≠ 0 ∧ goal / tabSize > (start + 1) / tabSize then
      "\t" ++ blanks tabSize fuel (start + tabSize - start % tabSize) goal
    else " " ++ blanks tabSize fuel (start + 1) goal

/-- A row of names in columns. -/
def columnRow (tabSize : Nat) (columns : List Nat) (names : List String) : String :=
  let step : String × Nat × Nat → (String × Nat) → String × Nat × Nat :=
    fun (done, position, column) (name, width) =>
      let gap := blanks tabSize (column - position) position column
      (done ++ gap ++ name, column + shownWidth name, column + width)
  ((names.zip columns).foldl step ("", 0, 0)).1 ++ "\n"

/-- Names in columns. -/
def inColumns (s : ListStyle) (byRows : Bool) (names : List String) : String :=
  if names = [] then ""
  else
    let widths := names.map shownWidth
    let count := columnCount s.width byRows widths
    let columns := columnWidths count byRows widths
    let rows := (names.length + count - 1) / count
    let numbered := names.zipIdx
    String.join ((List.range rows).map fun row =>
      let own := numbered.filter fun (_, i) => (if byRows then i / count else i % rows) = row
      columnRow s.tabSize columns (own.map (·.1)))

/-- Names with commas between them, in lines that are not too wide. -/
def withCommas (width : Nat) (names : List String) : String :=
  let step : String × Nat → String × Nat → String × Nat := fun (done, position) (name, i) =>
    let size := shownWidth name
    if i = 0 then (name, size)
    else if width = 0 ∨ position + size + 2 < width then
      (done ++ ", " ++ name, position + size + 2)
    else (done ++ ",\n" ++ name, size)
  if names = [] then "" else (names.zipIdx.foldl step ("", 0)).1 ++ "\n"

/-- A number of bytes with a unit that makes it short, rounded up. -/
def humanSize (n : Nat) : String :=
  let rec go : (units : List String) → (size : Nat) → String
    | [], _ => toString n
    | unit :: rest, size =>
      if n < size * 1024 ∨ rest = [] then
        let tenths := (n * 10 + size - 1) / size
        if tenths < 100 then s!"{tenths / 10}.{tenths % 10}{unit}"
        else
          let whole := (n + size - 1) / size
          if whole ≥ 1024 ∧ rest ≠ [] then "1.0" ++ rest.headD "" else s!"{whole}{unit}"
      else go rest (size * 1024)
  if n < 1024 then toString n else go ["K", "M", "G", "T", "P", "E"] 1024

/-! ## Directories -/

/-- The options of `ls`. -/
def lsOptions : List Known :=
  flags "cfgklmoptuvxCDGHSUXZ1" ++
  [flag 'a' "all", flag 'b' "escape", flag 'd' "directory", long "dired", long "full-time",
    long "group-directories-first", flag 'h' "human-readable", flag 'i' "inode",
    long "kibibytes", flag 'n' "numeric-uid-gid", long "no-group",
    flag 'q' "hide-control-chars", flag 'r' "reverse", flag 's' "size", valued 'w' "width",
    flag 'A' "almost-all", flag 'B' "ignore-backups", { key := "classify", letter := some 'F' },
    long "classify" .ownValue, long "file-type", long "si", long "dereference-command-line",
    long "dereference-command-line-symlink-to-dir", long "hide" .value, valued 'I' "ignore",
    long "indicator-style" .value, flag 'L' "dereference", flag 'N' "literal",
    flag 'Q' "quote-name", long "quoting-style" .value, flag 'R' "recursive",
    long "format" .value, long "show-control-chars", long "sort" .value, valued 'T' "tabsize",
    long "time" .value, long "time-style" .value, long "zero", long "color" .ownValue,
    long "hyperlink" .ownValue, long "block-size" .value, long "context", long "author"]

/-- Entries in the order in which they are listed. -/
def inListOrder (call : Call) (s : ListStyle) (folder : Folder) (entries : List ListEntry) :
    List ListEntry :=
  let byName (a b : ListEntry) : Ordering := compare a.name.toList b.name.toList
  let time (e : ListEntry) : Int := (folder.detailsOf e.place).time
  let order (a b : ListEntry) : Ordering :=
    match s.order with
    | .none => .eq
    | .name => byName a b
    | .time => (compare (time b) (time a)).then (byName a b)
    | .size => (compare b.size a.size).then (byName a b)
    | .extension => (compare a.extension.toList b.extension.toList).then (byName a b)
    | .version => (compareVersions a.name.toList b.name.toList).then (byName a b)
    | .width => (compare (shownWidth a.name) (shownWidth b.name)).then (byName a b)
  let directoryRank (e : ListEntry) : Nat :=
    match e.item with
    | .directory => 0
    | _ => 1
  let sorted := entries.mergeSort fun a b =>
    (if call.has "reverse" then order b a else order a b) ≠ .gt
  if call.has "group-directories-first" then
    sorted.mergeSort fun a b => directoryRank a ≤ directoryRank b
  else sorted

/-- Whether the name of an item in a directory is listed. -/
def isListed (call : Call) (name : String) : Bool :=
  let fits (pattern : String) : Bool :=
    Pattern.fits (Pattern.ofGlyphs (pattern.toList.map (.char · false))) name.toList
  let all := call.has "all" || call.has "f"
  let hidden := name.startsWith "." && !all &&
    !(call.has "almost-all" && name ≠ "." && name ≠ "..")
  let dropped := (call.values "ignore").any fits ||
    (call.has "ignore-backups" && name.endsWith "~") ||
    (!all && !call.has "almost-all" && (call.values "hide").any fits)
  !hidden && !dropped

/-- The entries of a directory. -/
def entriesIn (call : Call) (folder : Folder) (place : Place) : List ListEntry :=
  let entry (name : String) : Option ListEntry :=
    let own := place ++ [name]
    (folder.item? own).map fun item => { name := Octets.ofString name, place := own, item }
  let dots : List ListEntry :=
    [{ name := ".", place, item := .directory },
      { name := "..", place := place.dropLast, item := .directory }]
  (dots ++ (folder.list place).filterMap entry).filter fun e => isListed call e.name

/-- The name of an entry with the sign that shows its kind. -/
def entryName (call : Call) (s : ListStyle) (folder : Folder) (e : ListEntry) : String :=
  s.shownName (call.has "hide-control-chars") e.name ++
    e.indicator (folder.modeOf e.place) s.indicators

/-- The formats of dates, for recent and for other ones, by the names of their styles. -/
def dateStyles : List (String × String × String) :=
  [("full-iso", "%Y-%m-%d %H:%M:%S.%N %z", "%Y-%m-%d %H:%M:%S.%N %z"),
    ("long-iso", "%Y-%m-%d %H:%M", "%Y-%m-%d %H:%M"), ("iso", "%m-%d %H:%M", "%Y-%m-%d "),
    ("locale", "%b %e %H:%M", "%b %e  %Y")]

/-- The formats of dates in a style, for recent and for other ones. -/
def dateFormats (style : String) : Except String (String × String) :=
  if style.startsWith "+" then
    match (style.drop 1).toString.splitOn "\n" with
    | [other, recent] => .ok (recent, other)
    | [both] => .ok (both, both)
    | _ => .error s!"invalid time style format {Quoting.value (style.drop 1).toString}"
  else
    let word := if style.startsWith "posix-" then (style.drop 6).toString else style
    let fitting := dateStyles.filter fun (name, _) => name.startsWith word
    match dateStyles.lookup word, fitting with
    | some formats, _ | none, [(_, formats)] => .ok formats
    | _, _ =>
      let kind := if fitting = [] then "invalid" else "ambiguous"
      let names := dateStyles.map fun (name, _) => s!"  - [posix-]{name}\n"
      let what := Quoting.value "time style"
      .error (s!"{kind} argument {Quoting.value style} for {what}\n" ++
        "Valid arguments are:\n" ++ String.join names ++
        "  - +FORMAT (e.g., +%H:%M) for a 'date'-style format")

/-- The formats of the dates in a list. -/
def listedDates (call : Call) : Except String (String × String) :=
  dateFormats <|
    match call.last? ["full-time", "time-style"] with
    | some "full-time" => "full-iso"
    | some _ => (call.value? "time-style").getD "locale"
    | none => "locale"

/-- Half a year, in nanoseconds. -/
def halfYear : Int := 31556952 * Calendar.secondLength / 2

/-- A date as it is listed at a moment. -/
def shownDate (formats : String × String) (now time : Int) : String :=
  let isRecent := now - halfYear < time ∧ time ≤ now + Calendar.secondLength
  (Calendar.Date.ofTime time).inFormat (if isRecent then formats.1 else formats.2)

/-- The lines that tell more of entries. -/
def longLines (call : Call) (s : ListStyle) (folder : Folder) (now : Int)
    (entries : List ListEntry) : List String :=
  let formats := (listedDates call).toOption.getD ("", "")
  let links (e : ListEntry) : String := toString (e.nameCount folder)
  let size (e : ListEntry) : String :=
    if call.has "human-readable" || call.has "si" then humanSize e.size else toString e.size
  let widest (f : ListEntry → String) : Nat := (entries.map fun e => (f e).length).foldl max 0
  let right (width : Nat) (text : String) : String :=
    "".pushn ' ' (width - text.length) ++ text
  let byNumber := call.has "numeric-uid-gid"
  let named (number : Nat) (name : Option String) : String :=
    (name.filter fun _ => !byNumber).getD (toString number)
  let owner (e : ListEntry) : String :=
    let number := (folder.detailsOf e.place).owner
    named number (Accounts.userName? number)
  let group (e : ListEntry) : String :=
    let number := (folder.detailsOf e.place).group
    named number (Accounts.groupName? number)
  let people (isHidden : Bool) (f : ListEntry → String) (e : ListEntry) : String :=
    if isHidden then ""
    else if byNumber then right (widest f) (f e) ++ " "
    else padRight (widest f) (f e) ++ " "
  let owners := people (call.has "g") owner
  let groups := people (call.has "o" || call.has "G" || call.has "no-group") group
  entries.map fun e =>
    let kind := match e.item with
      | .directory => "d"
      | .link _ => "l"
      | .null | .endless | .input => "c"
      | _ => "-"
    let name := match e.item with
      | .link target =>
        let hides := call.has "hide-control-chars"
        s.shownName hides e.name ++ " -> " ++ s.shownName hides (Octets.ofString target)
      | _ => entryName call s folder e
    kind ++ modeText (folder.modeOf e.place) ++ " " ++ right (widest links) (links e) ++ " " ++
      owners e ++ groups e ++ (if call.has "Z" || call.has "context" then "? " else "") ++
      right (widest size) (size e) ++ " " ++
      shownDate formats now (folder.detailsOf e.place).time ++ " " ++ name

/-- How many kilobytes an entry takes, as it is shown. -/
def shownBlocks (call : Call) (n : Nat) : String :=
  if call.has "human-readable" || call.has "si" then
    if n = 0 then "0" else humanSize (n * 1024)
  else toString n

/-- Entries as a list shows them. -/
def listed (call : Call) (s : ListStyle) (folder : Folder) (now : Int) (entries : List ListEntry) :
    String :=
  let entries := inListOrder call s folder entries
  let blocks := entries.map fun e => shownBlocks call e.blocks
  let width := (blocks.map String.length).foldl max 0
  let lead (block : String) : String :=
    (if call.has "inode" then "1 " else "") ++
      (if call.has "size" then "".pushn ' ' (width - block.length) ++ block ++ " " else "")
  let context := if call.has "Z" || call.has "context" then "? " else ""
  let names := (entries.zip blocks).map fun (e, block) =>
    lead block ++ context ++ entryName call s folder e
  match s.form with
  | .long =>
    let lines := longLines call s folder now entries
    ofLines ((lines.zip blocks).map fun (line, block) => lead block ++ line)
  | .columns => inColumns s false names
  | .across => inColumns s true names
  | .commas => withCommas s.width names
  | .lines => if call.has "zero" then endedBy '\x00' names else ofLines names

/-- The line with the size of all entries, if it is shown. -/
def totalLine (call : Call) (s : ListStyle) (entries : List ListEntry) : String :=
  if s.form = .long ∨ call.has "size" then
    "total " ++ shownBlocks call (total (entries.map ListEntry.blocks)) ++ "\n"
  else ""

/-- Directories, with what is in them. `titled` says whether their paths are printed. -/
def listDirectories (call : Call) (s : ListStyle) (folder : Folder) (now : Int) (titled : Bool) :
    Nat → (separated : Bool) → List (String × Place) → String
  | 0, _, _ | _, _, [] => ""
  | fuel + 1, separated, (path, place) :: rest =>
    let entries := entriesIn call folder place
    let title := (if separated then "\n" else "") ++
      if titled then s.shownName (call.has "hide-control-chars") path ++ ":\n" else ""
    let below := if call.has "recursive" then
        (inListOrder call s folder entries).filterMap fun e =>
          match e.item, e.name with
          | _, "." | _, ".." => none
          | .directory, _ =>
            some (if path.endsWith "/" then path ++ e.name else path ++ "/" ++ e.name, e.place)
          | _, _ => none
      else []
    title ++ totalLine call s entries ++ listed call s folder now entries ++
      listDirectories call s folder now titled fuel true (below ++ rest)

/-- The width of lines, and that of tabs. -/
def withSizes (call : Call) (s : ListStyle) : Effect (Except String ListStyle) := do
  let given := call.value? "width"
  let columns ← lookup? "COLUMNS"
  let width ← match given, columns with
    | some word, _ =>
      match sizeOf "" word with
      | .ok n =>
        if n < 0 then return .error s!"invalid line width: {Quoting.value word}" else pure n.toNat
      | .error _ => return .error s!"invalid line width: {Quoting.value word}"
    | none, some word =>
      match sizeOf "" word with
      | .ok n => if word = "" ∨ n < 0 then pure 80 else pure n.toNat
      | .error _ =>
        unless word = "" do
          tell s!"ignoring invalid width in environment variable COLUMNS: {Quoting.value word}"
        pure 80
    | none, none => pure 80
  match (call.value? "tabsize").map (sizeOf "") with
  | some (.ok n) => return .ok { s with width, tabSize := n.toNat }
  | some (.error _) =>
    return .error ("invalid tab size: " ++ Quoting.value ((call.value? "tabsize").getD ""))
  | none => return .ok { s with width }

/-- Lists the names in directories, in order, after the paths of files. -/
def ls (words : List String) : Effect Nat :=
  let act (call : Call) : Effect Nat := do
    match call.options.foldlM ListStyle.add {} with
    | .error text => misused text
    | .ok style =>
    match ← withSizes call style with
    | .error text => refuse text 2
    | .ok s =>
    match listedDates call with
    | .error text => misused text 2
    | .ok _ =>
      let paths := if call.operands = [] then ["."] else call.operands
      let follows := call.has "dereference" ||
        !(s.form = .long || s.indicators = .classify || call.has "directory")
      let found ← paths.mapM fun path => do
        let item ← if call.has "dereference" then find path else
          match follows, ← find path with
          | true, .ok (place, .directory) => pure (.ok (place, .directory))
          | _, _ => findEntry path
        if let .error e := item then tell s!"cannot access {Quoting.always path}: {e.text}"
        return (path, item)
      let entries := found.filterMap fun (path, item) =>
        item.toOption.map fun (place, item) => ({ name := path, place, item } : ListEntry)
      let isOpened (e : ListEntry) : Bool :=
        match e.item with
        | .directory => !call.has "directory"
        | _ => false
      let folder := (← shared).host.folder
      let now : Int := (← shared).host.clock
      let (opened, plain) := entries.partition isOpened
      print (listed call s folder now plain)
      let opened := (inListOrder call s folder opened).map fun e => (e.name, e.place)
      let titled := paths.length > 1 || call.has "recursive"
      print (listDirectories call s folder now titled (folder.items.length + paths.length + 1)
        (!plain.isEmpty) opened)
      return if entries.length = found.length then 0 else 2
  called lsOptions words act 2

/-! ## Single items -/

/-- The name of the kind of an item. -/
def kindName : FolderItem → String
  | .file bytes => if bytes.size = 0 then "regular empty file" else "regular file"
  | .executable => "regular file"
  | .directory => "directory"
  | .link _ => "symbolic link"
  | .null | .endless => "character special file"
  | .input => "fifo"

/-- What a letter in a format says of an item. -/
def statValue (folder : Folder) (path : String) (e : ListEntry) (c : Char) : String :=
  let mode := folder.modeOf e.place
  let kindBits := match e.item with
    | .directory => 0o040000
    | .link _ => 0o120000
    | .null | .endless => 0o020000
    | .input => 0o010000
    | _ => 0o100000
  let letter := match e.item with
    | .directory => "d"
    | .link _ => "l"
    | .null | .endless => "c"
    | .input => "p"
    | _ => "-"
  match c with
  | 'n' => path
  | 'N' => match e.item with
    | .link target => Quoting.always path ++ " -> " ++ Quoting.always (Octets.ofString target)
    | _ => Quoting.always path
  | 's' => toString e.size
  | 'F' => kindName e.item
  | 'a' => String.ofList (Nat.toDigits 8 mode)
  | 'A' => letter ++ modeText mode
  | 'f' => String.ofList (Nat.toDigits 16 (kindBits + mode))
  | 'h' => toString (e.nameCount folder)
  | 'u' => toString (folder.detailsOf e.place).owner
  | 'g' => toString (folder.detailsOf e.place).group
  | 'U' => (Accounts.userName? (folder.detailsOf e.place).owner).getD "UNKNOWN"
  | 'G' => (Accounts.groupName? (folder.detailsOf e.place).group).getD "UNKNOWN"
  | 'b' => toString (e.blocks * 2)
  | 'B' => "512"
  | 'o' => "4096"
  | 'i' | 'd' | 't' | 'T' => "1"
  | 'm' => "/"
  | 'x' | 'y' | 'z' =>
    (Calendar.Date.ofTime (folder.detailsOf e.place).time).inFormat "%Y-%m-%d %H:%M:%S.%N %z"
  | 'X' | 'Y' | 'Z' => toString (Calendar.secondsAt (folder.detailsOf e.place).time).1
  | 'w' => "-"
  | 'W' => "0"
  | '%' => "%"
  | _ => "?"

/-- A text in a format for an item. Backslashes mark characters if the format says so. -/
def statText (escapes : Bool) (value : Char → String) : Nat → List Char → String
  | 0, _ | _, [] => ""
  | fuel + 1, '%' :: rest =>
    let (directive, rest) := Format.Directive.ofText rest
    match rest with
    | [] => "%"
    | c :: rest => directive.align (value c) ++ statText escapes value fuel rest
  | fuel + 1, '\\' :: rest =>
    if escapes then
      let (c, rest) := Format.escape rest
      c.toString ++ statText escapes value fuel rest
    else "\\" ++ statText escapes value fuel rest
  | fuel + 1, c :: rest => c.toString ++ statText escapes value fuel rest

/-- Prints what is known about items, in a format. -/
def stat (words : List String) : Effect Nat :=
  called [valued 'c' "format", long "printf" .value, flag 'L' "dereference", flag 'f' "file-system",
      flag 't' "terse"] words fun call => do
    if call.operands = [] then return ← lacksOperand
    let (format, escapes) := match call.value? "printf", call.value? "format" with
      | some format, _ => (format, true)
      | none, some format => (format ++ "\n", false)
      | none, none => ("  File: %N\n  Size: %s\tBlocks: %b\tIO Block: %o\t%F\n", false)
    let statuses ← call.operands.mapM fun path => do
      match ← if call.has "dereference" then find path else findEntry path with
      | .error e => refuse s!"cannot statx {Quoting.always path}: {e.text}"
      | .ok (place, item) =>
        let value := statValue (← shared).host.folder path { name := path, place, item }
        print (statText escapes value (format.length + 1) format.toList)
        return 0
    return worst statuses

end Programs

end FileScript.Shell
