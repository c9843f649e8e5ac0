import FileScript.Proofs.Sessions

/-!
# Lists of commands

What a registry shows of its commands depends only on the last command of each name
(`Registry.ShowsCommands`): not on the order in which commands with different names came, and not on
the order in which a table would give them out.

1. A registry has the last command of each name (`Registry.mem_values_iff`), once, in the order of
   names (`Registry.sorted_commands`).
2. Sorting by name, or by category and name, has one outcome only, since no two commands have the
   same name (`mergeSort_eq_of_perm`).
3. A heading is printed where the category of the sorted commands changes, and so once in front of
   each category (`Registry.exists_groups`).
-/

namespace FileScript

/-! ## Sorting by a key -/

section Sorting

variable {α κ : Type} [LinearOrder κ] {before : α → α → Bool} {key : α → κ} {l order : List α}

/-- What is sorted by a key ascends by it. -/
theorem pairwise_le_mergeSort (hbefore : ∀ a b, before a b = true ↔ key a ≤ key b) (l : List α) :
    (l.mergeSort before).Pairwise fun a b => key a ≤ key b := by
  refine (List.pairwise_mergeSort (fun a b c hab hbc => ?_) (fun a b => ?_) l).imp
    (hbefore _ _).mp
  · exact (hbefore a c).mpr (((hbefore a b).mp hab).trans ((hbefore b c).mp hbc))
  · rw [Bool.or_eq_true, hbefore, hbefore]
    exact le_total (key a) (key b)

/-- It ascends strictly if no key comes twice. -/
theorem pairwise_lt_mergeSort (hbefore : ∀ a b, before a b = true ↔ key a ≤ key b)
    (hkeys : (l.map key).Nodup) : (l.mergeSort before).Pairwise fun a b => key a < key b := by
  have hnodup : ((l.mergeSort before).map key).Nodup :=
    ((List.mergeSort_perm l before).map key).nodup_iff.mpr hkeys
  exact (pairwise_le_mergeSort hbefore l).imp₂ (fun _ _ => lt_of_le_of_ne)
    (List.pairwise_map.mp hnodup)

/-- Then sorting has one outcome, in whatever order the list comes. -/
theorem mergeSort_eq_of_perm (hbefore : ∀ a b, before a b = true ↔ key a ≤ key b)
    (hperm : order.Perm l) (hkeys : (l.map key).Nodup) :
    order.mergeSort before = l.mergeSort before := by
  refine List.Perm.eq_of_pairwise (fun a b ha hb hab hba => ?_)
    (pairwise_le_mergeSort hbefore order) (pairwise_le_mergeSort hbefore l)
    ((List.mergeSort_perm _ _).trans (hperm.trans (List.mergeSort_perm _ _).symm))
  exact List.inj_on_of_nodup_map hkeys (hperm.mem_iff.mp (List.mem_mergeSort.mp ha))
    (List.mem_mergeSort.mp hb) (le_antisymm hab hba)

end Sorting

namespace Synopsis

/-- By what commands are sorted for the list by category. -/
def key (c : Synopsis) : Lex (String × String) := toLex (c.category, c.name)

theorem precedes_iff (a b : Synopsis) : a.precedes b = true ↔ a.key ≤ b.key := by
  rw [precedes, key, key, Prod.Lex.toLex_le_toLex, Bool.or_eq_true, Bool.and_eq_true,
    decide_eq_true_iff, decide_eq_true_iff, beq_iff_eq]

/-- Commands with different names have different keys. -/
theorem nodup_keys {commands : List Synopsis} (hnames : (commands.map name).Nodup) :
    (commands.map key).Nodup :=
  List.Nodup.of_map (fun k => (ofLex k).2) (by rwa [List.map_map])

end Synopsis

namespace Registry

/-! ## What is registered -/

/-- The last command of a name depends on the commands of that name, in their order. -/
theorem lastNamed_eq_getLast? (commands : List Command) (name : String) :
    lastNamed commands name = (commands.filter (·.name = name)).getLast? := by
  rw [lastNamed, ← List.head?_filter, List.filter_reverse, List.head?_reverse]

/-- The commands of a registry as they present themselves, in the order of their names. -/
def synopses (r : Registry) : List Synopsis := r.commands.values.map Command.toSynopsis

theorem values_eq (commands : Std.TreeMap String Command) :
    commands.values = commands.toList.map Prod.snd := by
  have hfold : commands.values = commands.foldr (fun _ c l => c :: l) [] := rfl
  rw [hfold, Std.TreeMap.foldr_eq_foldr_toList]
  induction commands.toList with
  | nil => rfl
  | cons entry entries ih => rw [List.foldr_cons, ih, List.map_cons]

/-- Commands are kept under their names. -/
theorem name_of_get? {commands : List Command} {name : String} {c : Command}
    (h : (ofList commands).get? name = some c) : c.name = name := (mem_of_get?_ofList h).2

theorem mem_values_iff {commands : List Command} {c : Command} :
    c ∈ (ofList commands).commands.values ↔ lastNamed commands c.name = some c := by
  rw [values_eq, List.mem_map, ← get?_ofList, get?]
  constructor
  · rintro ⟨⟨name, c⟩, hmem, rfl⟩
    have hget := Std.TreeMap.mem_toList_iff_getElem?_eq_some.mp hmem
    rwa [name_of_get? hget]
  · intro hget
    exact ⟨(c.name, c), Std.TreeMap.mem_toList_iff_getElem?_eq_some.mpr hget, rfl⟩

theorem mem_synopses_iff {commands : List Command} {c : Synopsis} :
    c ∈ (ofList commands).synopses ↔
      (lastNamed commands c.name).map Command.toSynopsis = some c := by
  rw [synopses, List.mem_map, Option.map_eq_some_iff]
  constructor
  · rintro ⟨found, hmem, rfl⟩
    exact ⟨found, mem_values_iff.mp hmem, rfl⟩
  · rintro ⟨found, hfound, rfl⟩
    exact ⟨found, mem_values_iff.mpr hfound, rfl⟩

/-- The commands of a registry stand in the order of their names. -/
theorem sorted_commands (commands : List Command) :
    (ofList commands).commands.values.Pairwise fun a b => a.name < b.name := by
  rw [values_eq, List.pairwise_map]
  refine Std.TreeMap.ordered_keys_toList.imp_of_mem ?_
  rintro ⟨name, c⟩ ⟨name', c'⟩ hmem hmem' hlt
  have hname := name_of_get? (Std.TreeMap.mem_toList_iff_getElem?_eq_some.mp hmem)
  have hname' := name_of_get? (Std.TreeMap.mem_toList_iff_getElem?_eq_some.mp hmem')
  rw [hname, hname']
  exact compare_lt_iff_lt.mp hlt

theorem sorted_synopses (commands : List Command) :
    (ofList commands).synopses.Pairwise fun a b => a.name < b.name :=
  List.pairwise_map.mpr (sorted_commands commands)

theorem nodup_names (commands : List Command) :
    ((ofList commands).synopses.map Synopsis.name).Nodup :=
  List.pairwise_map.mpr ((sorted_synopses commands).imp fun h => h.ne)

/-- How the commands present themselves depends on the last one of each name. -/
theorem synopses_eq {commands others : List Command}
    (h : ∀ name, (lastNamed others name).map Command.toSynopsis =
      (lastNamed commands name).map Command.toSynopsis) :
    (ofList others).synopses = (ofList commands).synopses := by
  refine List.Perm.eq_of_pairwise (fun a b _ _ hab hba => (lt_asymm hab hba).elim)
    (sorted_synopses others) (sorted_synopses commands) ?_
  refine (List.perm_ext_iff_of_nodup (nodup_names others).of_map (nodup_names commands).of_map).mpr
    fun c => ?_
  rw [mem_synopses_iff, mem_synopses_iff, h]

/-! ## Lists of commands that come in some order -/

/-- The names and descriptions of some commands, sorted by name. -/
def listOf (commands : List Synopsis) : List (String × String) :=
  (commands.map fun c => (c.name, c.description)).mergeSort fun a b => a.1 ≤ b.1

/-- The list of some commands by category. -/
def helpOf (commands : List Synopsis) : String :=
  let sorted := commands.mergeSort Synopsis.precedes
  String.join (helpLines ((sorted.map (·.usage.utf8ByteSize)).foldl max 0) "" sorted)

theorem list_eq (r : Registry) : r.list = r.synopses.map fun c => (c.name, c.description) := by
  rw [list, synopses, List.map_map]
  rfl

theorem help_eq (r : Registry) : r.help = helpOf r.synopses := rfl

/-- Both lists depend on the last command of each name. -/
theorem lists_eq {commands others : List Command}
    (h : ∀ name, (lastNamed others name).map Command.toSynopsis =
      (lastNamed commands name).map Command.toSynopsis) :
    (ofList others).list = (ofList commands).list ∧
      (ofList others).help = (ofList commands).help := by
  rw [list_eq, list_eq, help_eq, help_eq, synopses_eq h]
  exact ⟨rfl, rfl⟩

theorem sorted_list (commands : List Command) :
    (ofList commands).list.Pairwise fun a b => a.1 < b.1 := by
  rw [list_eq, List.pairwise_map]
  exact sorted_synopses commands

/-- The list by name does not depend on the order in which the commands are given out. -/
theorem listOf_of_perm {commands : List Command} {order : List Synopsis}
    (hperm : order.Perm (ofList commands).synopses) :
    listOf order = (ofList commands).list := by
  have hsorted := sorted_list commands
  have hnames : ((ofList commands).list.map Prod.fst).Nodup :=
    List.pairwise_map.mpr (hsorted.imp fun h => h.ne)
  have hsame : (order.map fun c => (c.name, c.description)).Perm (ofList commands).list := by
    rw [list_eq]
    exact hperm.map _
  calc listOf order
      = (ofList commands).list.mergeSort fun a b => a.1 ≤ b.1 :=
        mergeSort_eq_of_perm (fun _ _ => decide_eq_true_iff) hsame hnames
    _ = (ofList commands).list :=
        List.mergeSort_of_pairwise (hsorted.imp fun h => decide_eq_true h.le)

/-- The list by category does not depend on it either. -/
theorem helpOf_of_perm {commands : List Command} {order : List Synopsis}
    (hperm : order.Perm (ofList commands).synopses) :
    helpOf order = (ofList commands).help := by
  have hkeys := Synopsis.nodup_keys (nodup_names commands)
  rw [help_eq, helpOf, helpOf, mergeSort_eq_of_perm Synopsis.precedes_iff hperm hkeys]

/-! ## Groups -/

/-- The commands of a category. -/
structure Group where
  category : String
  members : List Synopsis

/-- How a group is printed: a heading with its category, unless that is empty, and then a line for
each of its commands. -/
def Group.text (width : Nat) (g : Group) : String :=
  (if g.category = "" then "" else g.category ++ ":\n") ++
    String.join (g.members.map (·.helpLine width))

theorem Group.text_of_ne {g : Group} (h : g.category ≠ "") (width : Nat) :
    g.text width = g.category ++ ":\n" ++ String.join (g.members.map (·.helpLine width)) := by
  rw [text, if_neg h]

theorem not_lt_empty (text : String) : ¬ text < "" := fun h =>
  List.not_lt_nil _ (String.lt_iff_toList_lt.mp h)

/-- A command of the present category has no heading. -/
theorem join_helpLines_of_eq {width : Nat} {category : String} {c : Synopsis}
    (h : c.category = category) (rest : List Synopsis) :
    String.join (helpLines width category (c :: rest)) =
      c.helpLine width ++ String.join (helpLines width category rest) := by
  rw [helpLines, if_neg (fun hne => hne h), List.nil_append, String.join_cons, h]

/-- A command of another category has a heading with that. -/
theorem join_helpLines_of_ne {width : Nat} {category : String} {c : Synopsis}
    (h : c.category ≠ category) (rest : List Synopsis) :
    String.join (helpLines width category (c :: rest)) =
      c.category ++ ":\n" ++ (c.helpLine width ++
        String.join (helpLines width c.category rest)) := by
  have hheading : s!"{c.category}:\n" = c.category ++ ":\n" := rfl
  rw [helpLines, if_pos h, List.singleton_append, String.join_cons, String.join_cons, hheading]

/-- Sorted commands fall into those of the present category, and groups of higher categories. A
heading is printed in front of each group. -/
theorem exists_groups (width : Nat) {commands : List Synopsis} {category : String}
    (hsorted : commands.Pairwise fun a b => a.key < b.key)
    (hfrom : ∀ c ∈ commands, category ≤ c.category) :
    ∃ (here : List Synopsis) (groups : List Group),
      commands = here ++ groups.flatMap Group.members ∧
      (∀ c ∈ here, c.category = category) ∧
      (∀ g ∈ groups, category < g.category ∧ g.members ≠ [] ∧
        ∀ c ∈ g.members, c.category = g.category) ∧
      groups.Pairwise (fun g g' => g.category < g'.category) ∧
      String.join (helpLines width category commands) =
        String.join (here.map (·.helpLine width)) ++ String.join (groups.map (·.text width)) := by
  -- Categories never fall along the sorted commands, so no group is taken up again.
  induction commands generalizing category with
  | nil => exact ⟨[], [], rfl, by simp, by simp, .nil, rfl⟩
  | cons c rest ih =>
    obtain ⟨hc, hrest⟩ := List.pairwise_cons.mp hsorted
    have hlater : ∀ d ∈ rest, c.category ≤ d.category := fun d hd =>
      (Prod.Lex.toLex_lt_toLex.mp (hc d hd)).elim le_of_lt fun h => h.1.le
    obtain ⟨here, groups, rfl, hhere, hgroups, hascending, htext⟩ := ih hrest hlater
    by_cases hsame : c.category = category
    · subst hsame
      refine ⟨c :: here, groups, rfl, List.forall_mem_cons.mpr ⟨rfl, hhere⟩, hgroups, hascending,
        ?_⟩
      rw [join_helpLines_of_eq rfl, htext, List.map_cons, String.join_cons, String.append_assoc]
    · have hlt : category < c.category :=
        lt_of_le_of_ne (hfrom c List.mem_cons_self) (Ne.symm hsame)
      have hheading : c.category ≠ "" := fun h => not_lt_empty category (h ▸ hlt)
      refine ⟨[], ⟨c.category, c :: here⟩ :: groups, rfl, by simp, ?_, ?_, ?_⟩
      · refine List.forall_mem_cons.mpr ⟨⟨hlt, List.cons_ne_nil _ _,
          List.forall_mem_cons.mpr ⟨rfl, hhere⟩⟩, fun g hg => ?_⟩
        exact ⟨hlt.trans (hgroups g hg).1, (hgroups g hg).2⟩
      · exact List.pairwise_cons.mpr ⟨fun g hg => (hgroups g hg).1, hascending⟩
      · rw [join_helpLines_of_ne hsame, htext, List.map_cons, String.join_cons,
          Group.text_of_ne hheading, List.map_cons, String.join_cons]
        simp only [List.map_nil, String.join_nil, String.empty_append, String.append_assoc]

/-- Some commands in groups: one for each of their categories, in the order of the categories, with
the commands of a group in the order of their names. Only the first group can have the empty
category. -/
structure IsGrouping (commands : Synopsis → Prop) (groups : List Group) : Prop where
  ascending : groups.Pairwise fun g g' => g.category < g'.category
  not_empty : ∀ g ∈ groups, g.members ≠ []
  category : ∀ g ∈ groups, ∀ c ∈ g.members, c.category = g.category
  sorted : ∀ g ∈ groups, g.members.Pairwise fun c d => c.name < d.name
  complete : ∀ c, (∃ g ∈ groups, c ∈ g.members) ↔ commands c
  headed : ∀ g ∈ groups.tail, g.category ≠ ""

theorem IsGrouping.congr {commands commands' : Synopsis → Prop} {groups : List Group}
    (h : IsGrouping commands groups) (heq : ∀ c, commands c ↔ commands' c) :
    IsGrouping commands' groups :=
  { h with complete := fun c => (h.complete c).trans (heq c) }

theorem IsGrouping.widths_eq {commands : List Synopsis} {groups : List Group}
    (h : IsGrouping (· ∈ commands) groups) :
    {n | n ∈ commands.map (·.usage.utf8ByteSize)} =
      {n | ∃ g ∈ groups, ∃ c ∈ g.members, n = c.usage.utf8ByteSize} := by
  ext n
  rw [Set.mem_ofPred_eq, Set.mem_ofPred_eq, List.mem_map]
  constructor
  · rintro ⟨c, hc, rfl⟩
    obtain ⟨g, hg, hc⟩ := (h.complete c).mpr hc
    exact ⟨g, hg, c, hc, rfl⟩
  · rintro ⟨g, hg, c, hc, rfl⟩
    exact ⟨c, (h.complete c).mp ⟨g, hg, hc⟩, rfl⟩

/-- Sorted commands are printed in groups. -/
theorem exists_grouping (width : Nat) {commands : List Synopsis}
    (hsorted : commands.Pairwise fun a b => a.key < b.key) :
    ∃ groups, IsGrouping (· ∈ commands) groups ∧
      String.join (helpLines width "" commands) = String.join (groups.map (·.text width)) := by
  obtain ⟨here, groups, rfl, hhere, hgroups, hascending, htext⟩ :=
    exists_groups width hsorted fun c _ => not_lt.mp (not_lt_empty c.category)
  have hheaded : ∀ g ∈ groups, g.category ≠ "" := fun g hg => (hgroups g hg).1.ne'
  have hnames : ∀ {category : String} {members : List Synopsis},
      members.Sublist (here ++ groups.flatMap Group.members) →
      (∀ c ∈ members, c.category = category) → members.Pairwise fun c d => c.name < d.name := by
    intro category members hsub hcategory
    refine (hsorted.sublist hsub).imp_of_mem fun {c d} hc hd hlt => ?_
    rcases Prod.Lex.toLex_lt_toLex.mp hlt with hlt | ⟨-, hlt⟩
    · exact absurd ((hcategory c hc).trans (hcategory d hd).symm) hlt.ne
    · exact hlt
  have hsub : ∀ g ∈ groups, g.members.Sublist (here ++ groups.flatMap Group.members) :=
    fun g hg => (List.sublist_flatten_of_mem (List.mem_map_of_mem hg)).trans
      (List.sublist_append_right _ _)
  -- The commands of the empty category are a group of their own if there are any.
  by_cases hnil : here = []
  · subst hnil
    refine ⟨groups, ?_, by rw [htext, List.map_nil, String.join_nil, String.empty_append]⟩
    exact {
      ascending := hascending
      not_empty := fun g hg => (hgroups g hg).2.1
      category := fun g hg => (hgroups g hg).2.2
      sorted := fun g hg => hnames (hsub g hg) (hgroups g hg).2.2
      complete := fun c => by simp
      headed := fun g hg => hheaded g (List.mem_of_mem_tail hg) }
  · refine ⟨⟨"", here⟩ :: groups, ?_, ?_⟩
    · exact {
        ascending := List.pairwise_cons.mpr ⟨fun g hg => (hgroups g hg).1, hascending⟩
        not_empty := List.forall_mem_cons.mpr ⟨hnil, fun g hg => (hgroups g hg).2.1⟩
        category := List.forall_mem_cons.mpr ⟨hhere, fun g hg => (hgroups g hg).2.2⟩
        sorted := List.forall_mem_cons.mpr ⟨hnames (List.sublist_append_left _ _) hhere,
          fun g hg => hnames (hsub g hg) (hgroups g hg).2.2⟩
        complete := fun c => by simp
        headed := hheaded }
    · rw [htext, List.map_cons, String.join_cons, Group.text, if_pos rfl, String.empty_append]

/-- The width of a list is that of its widest text, or zero if there is none. -/
theorem isGreatest_foldl_max (widths : List Nat) :
    IsGreatest (insert 0 {n | n ∈ widths}) (widths.foldl max 0) := by
  induction widths using List.reverseRecOn with
  | nil =>
    refine ⟨Set.mem_insert _ _, ?_⟩
    rintro n (rfl | hn)
    · exact le_rfl
    · exact absurd hn List.not_mem_nil
  | append_singleton widths last ih =>
    have hset : insert 0 {n | n ∈ widths ++ [last]} = insert last (insert 0 {n | n ∈ widths}) := by
      ext n
      simp only [Set.mem_insert_iff, Set.mem_ofPred_eq, List.mem_append, List.mem_singleton]
      tauto
    rw [List.foldl_append, List.foldl_cons, List.foldl_nil, max_comm, hset]
    exact ih.insert last

/-! ## What is shown -/

/-- What a registry of some commands shows. The list by name has the last command of each name, once
and in order; the list by category has them in groups, with their usage filled up to that of the
widest. Neither depends on other commands, nor on the order in which commands of different names
come or are given out. -/
structure ShowsCommands (commands : List Command) : Prop where
  listed : ∀ name description, (name, description) ∈ (ofList commands).list ↔
    ∃ c, lastNamed commands name = some c ∧ c.description = description
  ascending : (ofList commands).list.Pairwise fun a b => a.1 < b.1
  grouped : ∃ width groups,
    IsGrouping (fun c => ∃ found, lastNamed commands c.name = some found ∧ found.toSynopsis = c)
      groups ∧
    IsGreatest (insert 0 {n | ∃ g ∈ groups, ∃ c ∈ g.members, n = c.usage.utf8ByteSize}) width ∧
    (ofList commands).help = String.join (groups.map (·.text width))
  last_only : ∀ others : List Command,
    (∀ name, (lastNamed others name).map Command.toSynopsis =
      (lastNamed commands name).map Command.toSynopsis) →
    (ofList others).list = (ofList commands).list ∧ (ofList others).help = (ofList commands).help
  reordered : ∀ others : List Command,
    (∀ name, others.filter (·.name = name) = commands.filter (·.name = name)) →
    (ofList others).list = (ofList commands).list ∧ (ofList others).help = (ofList commands).help
  any_order : ∀ order : List Synopsis, order.Perm (ofList commands).synopses →
    listOf order = (ofList commands).list ∧ helpOf order = (ofList commands).help

/-- **Both lists of the commands of a registry depend on the last command of each name alone**, have
it once and in order, and the list by category has a heading in front of each category that is not
empty. -/
theorem showsCommands (commands : List Command) : ShowsCommands commands where
  listed name description := by
    rw [list_eq, List.mem_map]
    simp only [mem_synopses_iff, Option.map_eq_some_iff, Prod.mk.injEq]
    constructor
    · rintro ⟨_, ⟨c, hc, rfl⟩, rfl, rfl⟩
      exact ⟨c, hc, rfl⟩
    · rintro ⟨c, hc, rfl⟩
      have hname := name_of_get? ((get?_ofList commands name).trans hc)
      exact ⟨c.toSynopsis, ⟨c, by rwa [hname], rfl⟩, hname, rfl⟩
  ascending := sorted_list commands
  grouped := by
    have hsorted := pairwise_lt_mergeSort Synopsis.precedes_iff
      (Synopsis.nodup_keys (nodup_names commands))
    have hwidth := isGreatest_foldl_max
      (((ofList commands).synopses.mergeSort Synopsis.precedes).map (·.usage.utf8ByteSize))
    obtain ⟨groups, hgrouping, htext⟩ := exists_grouping _ hsorted
    refine ⟨_, groups, hgrouping.congr fun c => ?_, ?_, (help_eq _).trans htext⟩
    · rw [List.mem_mergeSort, mem_synopses_iff, Option.map_eq_some_iff]
    · rwa [← hgrouping.widths_eq]
  last_only _ h := lists_eq h
  reordered _ h := lists_eq fun name => by rw [lastNamed_eq_getLast?, lastNamed_eq_getLast?, h]
  any_order order hperm := ⟨listOf_of_perm hperm, helpOf_of_perm hperm⟩

end Registry

end FileScript
