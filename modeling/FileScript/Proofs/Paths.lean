import FileScript.Path
import Mathlib

/-!
# Paths as lists of names

A path is known by its components, and a path in normal form is spelled from them. The functions on
normal paths act on that list: `components_append_slash` cuts it at a slash, `ofComponents_concat`
adds a name at its end and `parent_child` takes it away again, and `ofComponents_append` says how
what lies below a directory begins (`below_iff`).
-/

namespace FileScript

/-! ## Runs on both sides of a separator -/

namespace Text

variable {isSeparator : Char → Bool} {a b : List Char}

theorem runs_append_cons {c : Char} (hc : isSeparator c = true) :
    runs isSeparator (a ++ c :: b) = runs isSeparator a ++ runs isSeparator b := by
  fun_induction runs isSeparator a with
  | case1 => rw [List.nil_append, runs, if_pos hc, List.nil_append]
  | case2 d rest hd ih => rw [List.cons_append, runs, if_pos hd, ih]
  | case3 d rest hd ih =>
    rw [List.cons_append, runs, if_neg hd, List.cons_append]
    by_cases hall : ∀ x ∈ rest, (!isSeparator x) = true
    · rw [List.dropWhile_eq_nil_iff.mpr hall, List.nil_append] at ih
      rw [List.takeWhile_append_of_pos hall, List.dropWhile_append_of_pos hall,
        List.takeWhile_cons_of_neg (by simp [hc]), List.dropWhile_cons_of_neg (by simp [hc]),
        List.append_nil, List.takeWhile_eq_self_iff.mpr hall,
        List.dropWhile_eq_nil_iff.mpr hall, ih]
    · -- the run at the head ends before the separator
      have hne : rest.dropWhile (!isSeparator ·) ≠ [] :=
        fun h => hall (List.dropWhile_eq_nil_iff.mp h)
      have hlen : (rest.takeWhile (!isSeparator ·)).length ≠ rest.length := fun h =>
        hall (List.takeWhile_eq_self_iff.mp ((List.takeWhile_prefix _).eq_of_length h))
      rw [List.takeWhile_append, if_neg hlen, List.dropWhile_append,
        if_neg (by simpa using hne), ih]

theorem runs_eq_singleton (hne : a ≠ []) (ha : ∀ c ∈ a, isSeparator c = false) :
    runs isSeparator a = [a] := by
  cases a with
  | nil => exact absurd rfl hne
  | cons c rest =>
    have hrest : ∀ x ∈ rest, (!isSeparator x) = true := by
      intro x hx
      simp [ha x (List.mem_cons_of_mem _ hx)]
    rw [runs, if_neg (by simp [ha c List.mem_cons_self]), List.takeWhile_eq_self_iff.mpr hrest,
      List.dropWhile_eq_nil_iff.mpr hrest, runs]

/-- What holds of lists without a separator, and of two that are joined by one, holds of all. -/
theorem joined_induction {α : Type} [DecidableEq α] (separator : α) {p : List α → Prop}
    (whole : ∀ l, separator ∉ l → p l) (joined : ∀ a b, p a → p b → p (a ++ separator :: b))
    (l : List α) : p l := by
  induction hlength : l.length using Nat.strong_induction_on generalizing l with
  | _ n ih =>
    by_cases hmem : separator ∈ l
    · obtain ⟨a, b, rfl⟩ := List.append_of_mem hmem
      simp only [List.length_append, List.length_cons] at hlength
      exact joined a b (ih a.length (by omega) a rfl) (ih b.length (by omega) b rfl)
    · exact whole l hmem

/-- The runs of a text are what a separator splits it into, without the empty pieces. -/
theorem filter_splitOn (separator : Char) (text : List Char) :
    (text.splitOn separator).filter (· ≠ []) = runs (· == separator) text := by
  induction text using joined_induction separator with
  | whole text hwhole =>
    rw [List.splitOn_eq_singleton hwhole]
    by_cases hnil : text = []
    · subst hnil
      simp [runs]
    · have hnone : ∀ c ∈ text, (c == separator) = false := fun c hc =>
        beq_false_of_ne fun he => hwhole (he ▸ hc)
      simp [hnil, runs_eq_singleton hnil hnone]
  | joined a b iha ihb =>
    rw [List.splitOn_append_cons_self, List.filter_append, iha, ihb]
    have hseparates : (separator == separator) = true := beq_self_eq_true separator
    exact (@runs_append_cons (fun c => c == separator) a b separator hseparates).symm

end Text

namespace Path

/-! ## Names -/

/-- What a component of a path can be: not empty, and without a slash. -/
def IsName (name : String) : Prop := name ≠ "" ∧ '/' ∉ name.toList

instance : DecidablePred IsName := fun _ => by unfold IsName; infer_instance

/-- Names that can stand one below the other. -/
def AreNames (names : List String) : Prop := ∀ name ∈ names, IsName name

instance : DecidablePred AreNames := fun _ => by unfold AreNames; infer_instance

@[simp] theorem areNames_nil : AreNames [] := fun _ h => absurd h List.not_mem_nil

@[simp] theorem areNames_cons {name : String} {names : List String} :
    AreNames (name :: names) ↔ IsName name ∧ AreNames names := List.forall_mem_cons

@[simp] theorem areNames_append {names more : List String} :
    AreNames (names ++ more) ↔ AreNames names ∧ AreNames more := List.forall_mem_append

theorem areNames_concat {names : List String} {name : String} :
    AreNames (names ++ [name]) ↔ AreNames names ∧ IsName name := by simp

theorem IsName.toList_ne_nil {name : String} (h : IsName name) : name.toList ≠ [] :=
  fun h' => h.1 (String.toList_eq_nil_iff.mp h')

theorem areNames_components (path : String) : AreNames (components path) := by
  intro name h
  obtain ⟨run, hrun, rfl⟩ := List.mem_map.mp h
  refine ⟨fun he => Text.ne_nil_of_mem_runs hrun ?_, fun hc => ?_⟩
  · rw [← String.toList_ofList (l := run), he, String.toList_empty]
  · rw [String.toList_ofList] at hc
    simpa using Text.isSeparator_of_mem_runs hrun hc

@[simp] theorem components_empty : components "" = [] := by
  unfold components
  rw [String.toList_empty, Text.runs, List.map_nil]

/-- **A slash separates.** What follows a slash adds its own components. -/
theorem components_append_slash (a b : String) :
    components (a ++ "/" ++ b) = components a ++ components b := by
  unfold components
  have htoList : (a ++ "/" ++ b).toList = a.toList ++ '/' :: b.toList := by simp
  rw [htoList, Text.runs_append_cons (by rfl), List.map_append]

@[simp] theorem components_slash_append (path : String) :
    components ("/" ++ path) = components path := by
  have h := components_append_slash "" path
  rwa [String.empty_append, components_empty, List.nil_append] at h

theorem components_of_isName {name : String} (h : IsName name) : components name = [name] := by
  unfold components
  rw [Text.runs_eq_singleton h.toList_ne_nil, List.map_singleton, String.ofList_toList]
  intro c hc
  simpa using fun he : c = '/' => h.2 (he ▸ hc)

@[simp] theorem components_root : components root = [] := by
  rw [root, ← String.append_empty (s := "/"), components_slash_append, components_empty]

/-! ## Spelling -/

@[simp] theorem ofComponents_nil : ofComponents [] = root := rfl

theorem ofComponents_singleton (name : String) : ofComponents [name] = "/" ++ name := by
  rw [ofComponents, String.intercalate_singleton, root]

theorem ofComponents_cons_cons (name next : String) (names : List String) :
    ofComponents (name :: next :: names) = "/" ++ name ++ ofComponents (next :: names) := by
  unfold ofComponents root
  rw [String.intercalate_cons_cons]
  simp only [String.append_assoc]

@[simp] theorem components_ofComponents {names : List String} (h : AreNames names) :
    components (ofComponents names) = names := by
  induction names with
  | nil => exact components_root
  | cons name names ih =>
    obtain ⟨hname, hnames⟩ := areNames_cons.mp h
    cases names with
    | nil => rw [ofComponents_singleton, components_slash_append, components_of_isName hname]
    | cons next names =>
      have hrest := ih hnames
      rw [ofComponents, root, components_slash_append] at hrest
      rw [ofComponents_cons_cons, ofComponents, root, ← String.append_assoc,
        components_append_slash, components_slash_append, components_of_isName hname, hrest]
      rfl

theorem ofComponents_injective {names more : List String} (h : AreNames names) (hm : AreNames more)
    (he : ofComponents names = ofComponents more) : names = more := by
  rw [← components_ofComponents h, he, components_ofComponents hm]

theorem ofComponents_eq_root_iff {names : List String} (h : AreNames names) :
    ofComponents names = root ↔ names = [] :=
  ⟨fun he => ofComponents_injective h areNames_nil he, fun he => he ▸ ofComponents_nil⟩

/-- What lies below a directory begins with its stem. -/
theorem ofComponents_append {names more : List String} (h : AreNames names) (hm : more ≠ []) :
    ofComponents (names ++ more) = stem (ofComponents names) ++ "/".intercalate more := by
  by_cases hn : names = []
  · rw [hn, List.nil_append, ofComponents_nil, stem, if_pos rfl, ofComponents]
  · have hroot : ofComponents names ≠ root := fun he => hn ((ofComponents_eq_root_iff h).mp he)
    rw [stem, if_neg hroot, ofComponents, ofComponents, String.intercalate_append_of_ne_nil hn hm]
    simp only [String.append_assoc]

theorem ofComponents_concat {names : List String} {name : String} (h : AreNames names) :
    ofComponents (names ++ [name]) = stem (ofComponents names) ++ name := by
  rw [ofComponents_append h (List.cons_ne_nil _ _), String.intercalate_singleton]

/-! ## Normal form -/

theorem endsWith_iff {ending text : String} :
    text.endsWith ending = true ↔ ending.toList <:+ text.toList := by
  rw [String.endsWith, String.Slice.endsWith_string_iff, String.copy_toSlice]

theorem hasDoubledSlash_iff {text : List Char} :
    hasDoubledSlash text = true ↔ ['/', '/'] <:+: text := by
  fun_induction hasDoubledSlash text with
  | case1 rest => exact iff_of_true rfl (List.prefix_append ['/', '/'] rest).isInfix
  | case2 c rest hne ih =>
    rw [ih, List.infix_cons_iff]
    refine ⟨Or.inr, fun h => h.resolve_left fun h => ?_⟩
    obtain ⟨tail, htail⟩ := h
    obtain ⟨rfl, rfl⟩ := List.cons.inj htail
    exact hne tail rfl rfl
  | case3 => exact iff_of_false Bool.false_ne_true fun h => absurd (List.infix_nil.mp h) (by simp)

/-- A slash that is neither doubled nor at the end has a run behind it. -/
theorem runs_slash_ne_nil {rest : List Char} (hdouble : ¬ ['/', '/'] <:+: '/' :: rest)
    (hend : ¬ ['/'] <:+ '/' :: rest) : Text.runs (· == '/') ('/' :: rest) ≠ [] := by
  intro hnil
  rw [Text.runs_eq_nil_iff] at hnil
  cases rest with
  | nil => exact hend List.suffix_rfl
  | cons c more =>
    obtain rfl : c = '/' := by simpa using hnil c (by simp)
    exact hdouble (List.prefix_append ['/', '/'] more).isInfix

/-- A text without doubled slashes and without a slash at its end is its runs with slashes between
them, up to a slash at its beginning. -/
theorem intercalate_runs {text : List Char} (hdouble : ¬ ['/', '/'] <:+: text)
    (hend : ¬ ['/'] <:+ text) :
    ['/'].intercalate (Text.runs (· == '/') text) =
      if text.head? = some '/' then text.tail else text := by
  fun_induction Text.runs (· == '/') text with
  | case1 => rfl
  | case2 c rest hc ih =>
    obtain rfl : c = '/' := by simpa using hc
    rw [ih (fun h => hdouble (h.trans (List.suffix_cons _ _).isInfix))
      (fun h => hend (h.trans (List.suffix_cons _ _)))]
    have hhead : rest.head? ≠ some '/' := by
      intro h
      obtain ⟨tail, rfl⟩ := List.head?_eq_some_iff.mp h
      exact hdouble (List.prefix_append ['/', '/'] tail).isInfix
    rw [if_neg hhead, List.head?_cons, if_pos rfl, List.tail_cons]
  | case3 c rest hc ih =>
    have hc : c ≠ '/' := by simpa using hc
    have hsuffix : rest.dropWhile (!· == '/') <:+ c :: rest :=
      (List.dropWhile_suffix _).trans (List.suffix_cons _ _)
    have hsplit := List.takeWhile_append_dropWhile (p := (!· == '/')) (l := rest)
    have hdouble' := fun h => hdouble (List.IsInfix.trans h hsuffix.isInfix)
    have hend' := fun h => hend (List.IsSuffix.trans h hsuffix)
    have ih := ih hdouble' hend'
    rw [List.head?_cons, if_neg (fun h => hc (Option.some.inj h))]
    cases hdrop : rest.dropWhile (!· == '/') with
    | nil =>
      rw [hdrop, List.append_nil] at hsplit
      rw [Text.runs, List.intercalate_singleton, hsplit]
    | cons d more =>
      obtain rfl : d = '/' := by
        have h := List.head?_dropWhile_not (!· == '/') rest
        rw [hdrop] at h
        simpa using h
      rw [hdrop] at hsplit ih hdouble' hend'
      rw [List.intercalate_cons_of_ne_nil (runs_slash_ne_nil hdouble' hend'), ih, List.head?_cons,
        if_pos rfl, List.tail_cons, List.append_assoc, List.singleton_append, List.cons_append,
        hsplit]

theorem hasDoubledSlash_append {a b : List Char} (ha : '/' ∉ a) :
    hasDoubledSlash (a ++ b) = hasDoubledSlash b := by
  induction a with
  | nil => rfl
  | cons c a ih =>
    have hc : c ≠ '/' := fun h => ha (h ▸ List.mem_cons_self)
    rw [List.cons_append, hasDoubledSlash.eq_2 _ _ (fun _ h _ => hc h)]
    exact ih fun h => ha (List.mem_cons_of_mem _ h)

theorem hasDoubledSlash_cons_name {name : String} (h : IsName name) (rest : List Char) :
    hasDoubledSlash ('/' :: (name.toList ++ rest)) = hasDoubledSlash rest := by
  have hcons := hasDoubledSlash_append (b := rest) h.2
  cases hname : name.toList with
  | nil => exact absurd hname h.toList_ne_nil
  | cons c more =>
    have hc : c ≠ '/' := fun he => h.2 (hname ▸ he ▸ List.mem_cons_self)
    rw [List.cons_append, hasDoubledSlash.eq_2 _ _ (fun _ _ ht => hc (List.cons.inj ht).1),
      ← List.cons_append, ← hname, hcons]

theorem not_hasDoubledSlash_ofComponents {names : List String} (h : AreNames names) :
    hasDoubledSlash (ofComponents names).toList = false := by
  induction names with
  | nil => rfl
  | cons name names ih =>
    obtain ⟨hname, hnames⟩ := areNames_cons.mp h
    cases names with
    | nil =>
      have hslash := hasDoubledSlash_cons_name hname []
      rw [List.append_nil] at hslash
      rw [ofComponents_singleton, String.toList_append]
      exact hslash
    | cons next names =>
      rw [ofComponents_cons_cons, String.toList_append, String.toList_append, List.append_assoc]
      exact (hasDoubledSlash_cons_name hname _).trans (ih hnames)

/-- A normal path begins with a slash, ends in none unless it is the root, and has no two of them
side by side. -/
theorem isNormal_iff_slashes {path : String} :
    isNormal path = true ↔ ['/'] <+: path.toList ∧ (path = root ∨ ¬ ['/'] <:+ path.toList) ∧
      ¬ ['/', '/'] <:+: path.toList := by
  unfold isNormal
  rw [Bool.and_eq_true, Bool.and_eq_true, Bool.or_eq_true, Bool.not_eq_true', Bool.not_eq_true',
    beq_iff_eq, ← Bool.not_eq_true, ← Bool.not_eq_true, hasDoubledSlash_iff,
    String.startsWith_string_iff, endsWith_iff, and_assoc]
  rfl

theorem isNormal_ofComponents {names : List String} (h : AreNames names) :
    isNormal (ofComponents names) = true := by
  refine isNormal_iff_slashes.mpr ⟨?_, ?_, ?_⟩
  · rw [ofComponents, String.toList_append]
    exact List.prefix_append _ _
  · rcases List.eq_nil_or_concat' names with rfl | ⟨above, name, rfl⟩
    · exact .inl rfl
    · obtain ⟨habove, hname⟩ := areNames_concat.mp h
      rw [ofComponents_concat habove, String.toList_append]
      refine .inr fun hs => hname.2 ?_
      have hslash : ['/'] <:+ name.toList :=
        List.suffix_of_suffix_length_le hs (List.suffix_append _ _)
          (List.length_pos_iff.mpr hname.toList_ne_nil)
      exact hslash.subset List.mem_cons_self
  · rw [← hasDoubledSlash_iff, not_hasDoubledSlash_ofComponents h]
    exact Bool.false_ne_true

/-- **Normal form.** The normal paths are those that are spelled from their components. -/
theorem isNormal_iff {path : String} :
    isNormal path = true ↔ ofComponents (components path) = path := by
  refine ⟨fun h => ?_, fun h => h ▸ isNormal_ofComponents (areNames_components path)⟩
  by_cases hroot : path = root
  · rw [hroot, components_root, ofComponents_nil]
  rw [isNormal_iff_slashes, or_iff_right hroot] at h
  obtain ⟨⟨rest, hrest⟩, hend, hdouble⟩ := h
  have hrest : path.toList = '/' :: rest := hrest.symm
  have hmap : (components path).map String.toList = Text.runs (· == '/') path.toList := by
    have hid : String.toList ∘ String.ofList = id := funext fun _ => String.toList_ofList
    rw [components, List.map_map, hid, List.map_id]
  rw [← String.toList_inj, ofComponents, String.toList_append, String.toList_intercalate, hmap]
  have hjoin := intercalate_runs hdouble hend
  rw [hrest, List.head?_cons, if_pos rfl, List.tail_cons] at hjoin
  rw [hrest]
  exact congrArg ('/' :: ·) hjoin

/-! ## Rebuilding -/

/-- After a slash there comes no other. -/
theorem head?_collapse_true (text : List Char) : (collapse true text).head? ≠ some '/' := by
  induction text with
  | nil => simp [collapse]
  | cons c rest ih =>
    by_cases hc : c = '/'
    · rw [collapse, if_pos hc, if_pos rfl]
      exact ih
    · rw [collapse, if_neg hc, List.head?_cons]
      exact fun h => hc (Option.some.inj h)

theorem hasDoubledSlash_cons {text : List Char} (c : Char) (h : text.head? ≠ some '/') :
    hasDoubledSlash (c :: text) = hasDoubledSlash text :=
  hasDoubledSlash.eq_2 _ _ fun rest _ hrest => h (by rw [hrest, List.head?_cons])

theorem not_hasDoubledSlash_collapse (afterSlash : Bool) (text : List Char) :
    hasDoubledSlash (collapse afterSlash text) = false := by
  induction text generalizing afterSlash with
  | nil => rfl
  | cons c rest ih =>
    by_cases hc : c = '/'
    · rw [collapse, if_pos hc]
      split
      · exact ih true
      · rw [hasDoubledSlash_cons c (head?_collapse_true rest)]
        exact ih true
    · have hname := hasDoubledSlash_append (a := [c]) (b := collapse false rest)
        (fun hmem => hc (List.mem_singleton.mp hmem).symm)
      rw [collapse, if_neg hc]
      exact hname.trans (ih false)

theorem takeWhile_collapse (text : List Char) :
    (collapse false text).takeWhile (!· == '/') = text.takeWhile (!· == '/') := by
  induction text with
  | nil => rfl
  | cons c rest ih => by_cases hc : c = '/' <;> simp [collapse, hc, ih]

theorem dropWhile_collapse (text : List Char) :
    (collapse false text).dropWhile (!· == '/') = collapse false (text.dropWhile (!· == '/')) := by
  induction text with
  | nil => rfl
  | cons c rest ih => by_cases hc : c = '/' <;> simp [collapse, hc, ih]

/-- Slashes that stand side by side are as good as one. -/
theorem runs_collapse (afterSlash : Bool) (text : List Char) :
    Text.runs (· == '/') (collapse afterSlash text) = Text.runs (· == '/') text := by
  fun_induction Text.runs (· == '/') text generalizing afterSlash with
  | case1 => rw [collapse, Text.runs]
  | case2 c rest hc ih =>
    rw [collapse, if_pos (beq_iff_eq.mp hc)]
    split
    · exact ih true
    · rw [Text.runs, if_pos hc]
      exact ih true
  | case3 c rest hc ih =>
    rw [collapse, if_neg (fun he => hc (beq_iff_eq.mpr he)), Text.runs, if_neg hc,
      takeWhile_collapse, dropWhile_collapse, ih]

/-- The last slash of a text goes, or nothing does. -/
theorem trimSlash_cases (text : List Char) :
    trimSlash text = text ∧ (['/'] <:+ text → text.length ≤ 1) ∨
      text = trimSlash text ++ ['/'] ∧ trimSlash text ≠ [] := by
  unfold trimSlash
  by_cases hlast : text.getLast? = some '/'
  · obtain ⟨front, rfl⟩ := List.getLast?_eq_some_iff.mp hlast
    by_cases hfront : front = []
    · simp [hfront]
    · have hlong : 1 < (front ++ ['/']).length := by
        have := List.length_pos_iff.mpr hfront
        rw [List.length_append, List.length_singleton]
        omega
      rw [if_pos ⟨hlong, hlast⟩, List.dropLast_concat]
      exact .inr ⟨rfl, hfront⟩
  · rw [if_neg fun h => hlast h.2]
    refine .inl ⟨rfl, ?_⟩
    rintro ⟨front, rfl⟩
    exact absurd List.getLast?_concat hlast

@[simp] theorem components_rebuild (path : String) :
    components (rebuild path) = components path := by
  have hruns : Text.runs (· == '/') (trimSlash (collapse false ('/' :: path.toList))) =
      Text.runs (· == '/') (collapse false ('/' :: path.toList)) := by
    rcases trimSlash_cases (collapse false ('/' :: path.toList)) with ⟨heq, -⟩ | ⟨heq, -⟩
    · rw [heq]
    · conv_rhs => rw [heq, Text.runs_append_cons (by rfl), Text.runs, List.append_nil]
  unfold components rebuild
  rw [String.toList_ofList, hruns, runs_collapse, Text.runs, if_pos (by rfl)]

theorem prefix_of_trimSlash (text : List Char) : trimSlash text <+: text := by
  rcases trimSlash_cases text with ⟨heq, -⟩ | ⟨heq, -⟩
  · rw [heq]
  · exact ⟨['/'], heq.symm⟩

theorem slash_prefix_trimSlash {text : List Char} (h : ['/'] <+: text) :
    ['/'] <+: trimSlash text := by
  rcases trimSlash_cases text with ⟨heq, -⟩ | ⟨-, hne⟩
  · rwa [heq]
  · exact List.prefix_of_prefix_length_le h (prefix_of_trimSlash text) (List.length_pos_iff.mpr hne)

/-- A slash that is left at the end is all that is left. -/
theorem trimSlash_of_suffix {text : List Char} (hdouble : ¬ ['/', '/'] <:+: text)
    (hend : ['/'] <:+ trimSlash text) : trimSlash text = ['/'] := by
  rcases trimSlash_cases text with ⟨heq, hshort⟩ | ⟨heq, -⟩
  · rw [heq] at hend ⊢
    exact (hend.eq_of_length_le (hshort hend)).symm
  · obtain ⟨front, hfront⟩ := hend
    refine absurd ⟨front, [], ?_⟩ hdouble
    rw [List.append_nil, heq, ← hfront, List.append_assoc]
    rfl

theorem isNormal_rebuild (path : String) : isNormal (rebuild path) = true := by
  have hstart : ['/'] <+: collapse false ('/' :: path.toList) := by
    rw [collapse, if_pos rfl, if_neg Bool.false_ne_true]
    exact List.prefix_append ['/'] _
  have hdouble : ¬ ['/', '/'] <:+: collapse false ('/' :: path.toList) := by
    rw [← hasDoubledSlash_iff, not_hasDoubledSlash_collapse]
    exact Bool.false_ne_true
  rw [isNormal_iff_slashes, rebuild, String.toList_ofList]
  refine ⟨slash_prefix_trimSlash hstart, ?_, fun h => ?_⟩
  · by_cases hslash : ['/'] <:+ trimSlash (collapse false ('/' :: path.toList))
    · rw [trimSlash_of_suffix hdouble hslash]
      exact .inl rfl
    · exact .inr hslash
  · exact hdouble (h.trans (prefix_of_trimSlash _).isInfix)

/-- What is made from the characters of a path is spelled from its components. -/
theorem rebuild_eq (path : String) : rebuild path = ofComponents (components path) := by
  rw [← components_rebuild, isNormal_iff.mp (isNormal_rebuild path)]

theorem normalize_eq (path : String) : normalize path = ofComponents (components path) := by
  unfold normalize
  split
  · next h => exact (isNormal_iff.mp h).symm
  · exact rebuild_eq path

@[simp] theorem isNormal_normalize (path : String) : isNormal (normalize path) = true := by
  rw [normalize_eq]
  exact isNormal_ofComponents (areNames_components path)

theorem isNormal_root : isNormal root = true := isNormal_ofComponents areNames_nil

/-- A normal path is spelled from names. -/
theorem exists_names {path : String} (h : isNormal path = true) :
    ∃ names, AreNames names ∧ path = ofComponents names :=
  ⟨_, areNames_components path, (isNormal_iff.mp h).symm⟩

/-- A normal path other than the root lies in a directory, under a name. -/
theorem exists_names_concat {path : String} (h : isNormal path = true) (hroot : path ≠ root) :
    ∃ names name, AreNames names ∧ IsName name ∧ path = ofComponents (names ++ [name]) := by
  obtain ⟨names, hnames, rfl⟩ := exists_names h
  rcases List.eq_nil_or_concat' names with rfl | ⟨above, name, rfl⟩
  · exact absurd ofComponents_nil hroot
  · obtain ⟨habove, hname⟩ := areNames_append.mp hnames
    exact ⟨above, name, habove, hname name List.mem_cons_self, rfl⟩

/-! ## Up and down -/

theorem stem_eq (directory : String) :
    stem directory = (if directory = root then "" else directory) ++ "/" := by
  unfold stem
  split
  · rw [String.empty_append, root]
  · rfl

/-- A name that is put behind a path, whatever its spelling, is the name of an entry. -/
theorem normalize_join (path : String) {name : String} (h : IsName name) :
    normalize (path ++ "/" ++ name) = stem (normalize path) ++ name := by
  rw [normalize_eq, components_append_slash, components_of_isName h,
    ofComponents_concat (areNames_components path), ← normalize_eq]

theorem ofComponents_ne_empty (names : List String) : ofComponents names ≠ "" := by
  intro h
  have := congrArg String.toList h
  rw [ofComponents, String.toList_append] at this
  exact List.cons_ne_nil _ _ this

section Child

variable {directory name : String} (h : IsName name)

include h in
theorem dropWhile_reverse_child :
    (stem directory ++ name).toList.reverse.dropWhile (· != '/') =
      '/' :: (if directory = root then "" else directory).toList.reverse := by
  have hall : ∀ c ∈ name.toList.reverse, (c != '/') = true := fun c hc =>
    bne_iff_ne.mpr fun he => h.2 (he ▸ List.mem_reverse.mp hc)
  rw [stem_eq, String.toList_append, String.toList_append, List.reverse_append,
    List.dropWhile_append_of_pos hall, List.reverse_append]
  rfl

include h in
/-- The directory above a child. -/
theorem parent_child (hd : directory ≠ "") : parent (stem directory ++ name) = directory := by
  unfold parent
  rw [dropWhile_reverse_child h, List.tail_cons]
  by_cases hroot : directory = root
  · rw [if_pos hroot, hroot]
    rfl
  · rw [if_neg hroot]
    split
    · next he => exact absurd (String.toList_eq_nil_iff.mp (List.reverse_eq_nil_iff.mp he)) hd
    · rw [List.reverse_reverse, String.ofList_toList]

include h in
theorem baseName_child : baseName (stem directory ++ name) = name := by
  have hall : ∀ c ∈ name.toList.reverse, (c != '/') = true := fun c hc =>
    bne_iff_ne.mpr fun he => h.2 (he ▸ List.mem_reverse.mp hc)
  rw [baseName, stem_eq, String.toList_append, String.toList_append, List.reverse_append,
    List.takeWhile_append_of_pos hall]
  have hstop : ((if directory = root then "" else directory).toList ++ "/".toList).reverse.takeWhile
      (· != '/') = [] := by
    rw [List.reverse_append]
    rfl
  rw [hstop, List.append_nil, List.reverse_reverse, String.ofList_toList]

end Child

section Names

variable {names more target : List String} (h : AreNames names)

include h

theorem parent_ofComponents_concat {name : String} (hname : IsName name) :
    parent (ofComponents (names ++ [name])) = ofComponents names := by
  rw [ofComponents_concat h, parent_child hname (ofComponents_ne_empty names)]

theorem baseName_ofComponents_concat {name : String} (hname : IsName name) :
    baseName (ofComponents (names ++ [name])) = name := by
  rw [ofComponents_concat h, baseName_child hname]

variable (hn : names ≠ [])

include hn

theorem stem_ofComponents : stem (ofComponents names) = ofComponents names ++ "/" :=
  if_neg fun he => hn ((ofComponents_eq_root_iff h).mp he)

/-- What begins with a directory and a slash lies below the directory. -/
theorem startsWith_slash_iff (hm : AreNames more) :
    (ofComponents more).startsWith (ofComponents names ++ "/") = true ↔
      ∃ rest, rest ≠ [] ∧ more = names ++ rest := by
  rw [String.startsWith_string_iff]
  constructor
  · rintro ⟨tail, htail⟩
    have hcut : ofComponents more = ofComponents names ++ "/" ++ String.ofList tail := by
      rw [← String.toList_inj, ← htail, String.toList_append (t := String.ofList tail),
        String.toList_ofList]
    have hsplit : more = names ++ components (String.ofList tail) := by
      rw [← components_ofComponents hm, hcut, components_append_slash, components_ofComponents h]
    refine ⟨_, fun hnil => ?_, hsplit⟩
    rw [hnil, List.append_nil] at hsplit
    rw [hsplit] at hcut
    have := congrArg String.length hcut
    rw [String.length_append, String.length_append, show "/".length = 1 from rfl] at this
    omega
  · rintro ⟨rest, hrest, rfl⟩
    rw [ofComponents_append h hrest, stem_ofComponents h hn,
      String.toList_append (t := "/".intercalate rest)]
    exact List.prefix_append _ _

theorem isWithin_iff (hm : AreNames more) :
    isWithin (ofComponents names) (ofComponents more) = true ↔ names <+: more := by
  rw [isWithin, Bool.or_eq_true, startsWith_slash_iff h hn hm, beq_iff_eq]
  constructor
  · rintro (he | ⟨rest, -, rfl⟩)
    · exact ofComponents_injective hm h he ▸ List.prefix_rfl
    · exact List.prefix_append _ _
  · rintro ⟨rest, rfl⟩
    by_cases hrest : rest = []
    · exact Or.inl (by rw [hrest, List.append_nil])
    · exact Or.inr ⟨rest, hrest, rfl⟩

/-- Below another directory, the names after those of the old one stay. -/
theorem rebase_ofComponents (ht : AreNames target) (htn : target ≠ []) (rest : List String) :
    rebase (ofComponents names) (ofComponents target) (ofComponents (names ++ rest)) =
      ofComponents (target ++ rest) := by
  unfold rebase
  by_cases hrest : rest = []
  · rw [hrest, List.append_nil, List.append_nil, ← String.length_toList, List.drop_length,
      String.ofList_nil, String.append_empty]
  · rw [ofComponents_append h hrest, ofComponents_append ht hrest, stem_ofComponents h hn,
      stem_ofComponents ht htn, String.append_assoc, String.toList_append, ← String.length_toList,
      List.drop_left, String.ofList_toList, String.append_assoc]

end Names

end Path

end FileScript
