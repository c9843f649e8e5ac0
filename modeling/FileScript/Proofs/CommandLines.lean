import FileScript.CommandLine.Options
import Mathlib

/-!
# Command lines

A command line is a sequence of options and scripts, each of one or two arguments, and may go over
into a list of scripts at a terminator `--`. This is said here without the loop that reads the
arguments (`Options.Reads` and `Options.Stops`), and the loop agrees with it:

1. Each option and each script adds to what was read before (`Options.addArgs_of_asks`), and so does
   a sequence of them, whatever follows it (`Options.addArgs_of_reads`).
2. Every command line begins with such a sequence, after which it ends, goes over into scripts, or
   is not understood (`Options.exists_stop`).
3. So what was read before has no say in how the rest is read (`Options.addArgs_merge`), and a
   command line is understood if it is such a sequence with a list of scripts or without one
   (`Options.ofArgs_eq_ok_iff`).

A command line may thus be cut in two between any two options (`Options.composes`).
-/

namespace FileScript.CommandLine

namespace Options

/-! ## What command lines are made of -/

/-- What two command lines ask for, one after the other: the scripts of both in their order, help if
either asks for it, and the settings that the later one names, or else those of the earlier one. -/
def merge (o p : Options) : Options where
  config := p.config <|> o.config
  scripts := o.scripts ++ p.scripts
  help := o.help || p.help

@[simp] theorem merge_empty (o : Options) : o.merge {} = o := by simp [merge]

@[simp] theorem empty_merge (o : Options) : merge {} o = o := by simp [merge]

theorem merge_assoc (o p q : Options) : (o.merge p).merge q = o.merge (p.merge q) := by
  simp [merge, Bool.or_assoc, Option.or_assoc]

theorem merge_scripts (o : Options) (scripts : List String) :
    o.merge { scripts } = { o with scripts := o.scripts ++ scripts } := by simp [merge]

/-- Whether an argument that is not the value of an option names a script. -/
def IsScript (argument : String) : Prop := argument = "-" ∨ ¬ argument.startsWith "-"

/-- The arguments of one option or script, and what they ask for. The value of an option is any
argument, even one that looks like an option or a terminator. -/
inductive Asks : List String → Options → Prop
  | help {spelling : String} (h : spelling ∈ ["-h", "--help"]) : Asks [spelling] { help := true }
  | config (path : String) : Asks ["--config", path] { config := some path }
  | configEquals (path : String) : Asks ["--config=" ++ path] { config := some path }
  | script {name : String} (h : IsScript name) : Asks [name] { scripts := [name] }

/-- A sequence of options and scripts, and what they ask for together. -/
inductive Reads : List String → Options → Prop
  | nil : Reads [] {}
  | cons {args rest : List String} {o p : Options} (h : Asks args o) (hrest : Reads rest p) :
      Reads (args ++ rest) (o.merge p)

/-- Whether an argument looks like an option, but is none. -/
structure IsUnknown (argument : String) : Prop where
  not_script : ¬ IsScript argument
  not_mem : argument ∉ ["-h", "--help", "--config", "--"]
  not_config : ∀ path, argument ≠ "--config=" ++ path

/-- Arguments at which no option or script begins, and what that means: the command line has ended,
or goes over into scripts, or is not understood. -/
inductive Stops : List String → Except OptionError (List String) → Prop
  | nil : Stops [] (.ok [])
  | terminator (scripts : List String) : Stops ("--" :: scripts) (.ok scripts)
  | missingPath : Stops ["--config"] (.error .missingPath)
  | unknown {argument : String} (h : IsUnknown argument) (rest : List String) :
      Stops (argument :: rest) (.error (.unknownOption argument))

theorem Asks.ne_nil {args : List String} {o : Options} (h : Asks args o) : args ≠ [] := by
  cases h <;> exact List.cons_ne_nil _ _

/-- No other arguments are possible. -/
theorem asks_or_stops (args : List String) :
    (∃ head rest o, args = head ++ rest ∧ Asks head o) ∨ ∃ outcome, Stops args outcome := by
  cases args with
  | nil => exact .inr ⟨_, .nil⟩
  | cons argument rest =>
    by_cases hhelp : argument ∈ ["-h", "--help"]
    · exact .inl ⟨[argument], rest, _, rfl, .help hhelp⟩
    by_cases hconfig : argument = "--config"
    · subst hconfig
      cases rest with
      | nil => exact .inr ⟨_, .missingPath⟩
      | cons path rest => exact .inl ⟨["--config", path], rest, _, rfl, .config path⟩
    by_cases hend : argument = "--"
    · subst hend
      exact .inr ⟨_, .terminator rest⟩
    by_cases hequals : ∃ path, argument = "--config=" ++ path
    · obtain ⟨path, rfl⟩ := hequals
      exact .inl ⟨["--config=" ++ path], rest, _, rfl, .configEquals path⟩
    by_cases hscript : IsScript argument
    · exact .inl ⟨[argument], rest, _, rfl, .script hscript⟩
    · refine .inr ⟨_, .unknown ⟨hscript, ?_, not_exists.mp hequals⟩ rest⟩
      simp only [List.mem_cons, List.not_mem_nil, or_false, not_or] at hhelp ⊢
      exact ⟨hhelp.1, hhelp.2, hconfig, hend⟩

/-- Every command line begins with a sequence of options and scripts, after which reading stops. -/
theorem exists_stop (args : List String) :
    ∃ before p after outcome, args = before ++ after ∧ Reads before p ∧ Stops after outcome := by
  rcases asks_or_stops args with ⟨head, rest, o, hsplit, hhead⟩ | ⟨outcome, hstops⟩
  · have hshorter : rest.length < args.length := by
      have hpos := List.length_pos_of_ne_nil hhead.ne_nil
      rw [hsplit, List.length_append]
      omega
    obtain ⟨before, p, after, outcome, rfl, hreads, hstops⟩ := exists_stop rest
    rw [hsplit, ← List.append_assoc]
    exact ⟨_, _, _, _, rfl, .cons hhead hreads, hstops⟩
  · exact ⟨[], _, args, outcome, rfl, .nil, hstops⟩
termination_by args.length

/-! ## How they are read -/

theorem configPath?_eq_some_iff {argument path : String} :
    configPath? argument = some path ↔ argument = "--config=" ++ path := by
  simp only [configPath?, Option.ite_none_right_eq_some, Option.some.injEq,
    String.startsWith_string_iff, String.toList_inj.symm, String.toList_append,
    String.toList_ofList, ← String.length_toList]
  constructor
  · rintro ⟨⟨rest, hrest⟩, hpath⟩
    rw [← hpath, ← hrest, List.drop_left]
  · intro h
    rw [h, List.drop_left]
    exact ⟨List.prefix_append _ _, rfl⟩

theorem configPath?_eq_none_iff {argument : String} :
    configPath? argument = none ↔ ∀ path, argument ≠ "--config=" ++ path := by
  simp only [Option.eq_none_iff_forall_ne_some, Ne, configPath?_eq_some_iff]

theorem not_isScript_iff {argument : String} :
    ¬ IsScript argument ↔ argument.startsWith "-" ∧ argument ≠ "-" := by
  unfold IsScript
  tauto

theorem IsScript.not_mem {argument : String} (h : IsScript argument) :
    argument ∉ ["-h", "--help", "--config", "--"] := by
  contrapose! h
  simp only [List.mem_cons, List.not_mem_nil, or_false] at h
  rw [not_isScript_iff]
  rcases h with rfl | rfl | rfl | rfl <;> decide +kernel

theorem IsScript.not_config {argument : String} (h : IsScript argument) (path : String) :
    argument ≠ "--config=" ++ path := by
  contrapose! h
  rw [h, not_isScript_iff]
  simp [String.startsWith_string_iff, ← String.toList_inj]

theorem config_not_mem (path : String) :
    "--config=" ++ path ∉ ["-h", "--help", "--config", "--"] := by
  simp [← String.toList_inj]

/-- How an argument is read that is none of the fixed ones. -/
theorem addArgs_cons {argument : String} (h : argument ∉ ["-h", "--help", "--config", "--"])
    (o : Options) (rest : List String) :
    addArgs o (argument :: rest) = match configPath? argument with
      | some path => addArgs { o with config := some path } rest
      | none =>
        if argument.startsWith "-" ∧ argument ≠ "-" then .error (.unknownOption argument)
        else addArgs { o with scripts := o.scripts ++ [argument] } rest := by
  simp only [List.mem_cons, List.not_mem_nil, or_false, not_or] at h
  rw [addArgs] <;> tauto

/-- One option or script is added to what was read before. -/
theorem addArgs_of_asks {args : List String} {p : Options} (h : Asks args p) (o : Options)
    (rest : List String) : addArgs o (args ++ rest) = addArgs (o.merge p) rest := by
  cases h with
  | help h =>
    rcases List.mem_pair.mp h with rfl | rfl <;>
    · rw [List.singleton_append, addArgs]
      simp [merge]
  | config path =>
    show addArgs o ("--config" :: path :: rest) = _
    rw [addArgs]
    simp [merge]
  | configEquals path =>
    rw [List.singleton_append, addArgs_cons (config_not_mem path),
      configPath?_eq_some_iff.mpr rfl]
    simp [merge]
  | @script name h =>
    rw [List.singleton_append, addArgs_cons h.not_mem, configPath?_eq_none_iff.mpr h.not_config]
    dsimp only
    rw [if_neg (not_isScript_iff.not.mp (not_not.mpr h)), merge_scripts]

/-- So is a sequence of them, and what follows it is read after that. -/
theorem addArgs_of_reads {args : List String} {p : Options} (h : Reads args p) (o : Options)
    (rest : List String) : addArgs o (args ++ rest) = addArgs (o.merge p) rest := by
  induction h generalizing o with
  | nil => rw [List.nil_append, merge_empty]
  | cons h _ ih => rw [List.append_assoc, addArgs_of_asks h, ih, merge_assoc]

theorem addArgs_of_stops {args : List String} {outcome : Except OptionError (List String)}
    (h : Stops args outcome) (o : Options) :
    addArgs o args = outcome.map fun scripts => o.merge { scripts } := by
  cases h with
  | nil => rw [addArgs, Except.map, merge_empty]
  | terminator scripts => rw [addArgs, Except.map, merge_scripts]
  | missingPath => rw [addArgs, Except.map]
  | unknown h rest =>
    rw [addArgs_cons h.not_mem, configPath?_eq_none_iff.mpr h.not_config]
    dsimp only
    rw [if_pos (not_isScript_iff.mp h.not_script), Except.map]

/-- What was read before is added to what is read afterwards, and has no say in whether that is
understood. -/
theorem addArgs_merge (o p : Options) (args : List String) :
    addArgs (o.merge p) args = (addArgs p args).map o.merge := by
  obtain ⟨before, q, after, outcome, rfl, hreads, hstops⟩ := exists_stop args
  rw [addArgs_of_reads hreads, addArgs_of_reads hreads, addArgs_of_stops hstops,
    addArgs_of_stops hstops]
  cases outcome with
  | ok scripts => simp only [Except.map, merge_assoc]
  | error e => rfl

theorem addArgs_eq_map (o : Options) (args : List String) :
    addArgs o args = (ofArgs args).map o.merge := by
  rw [ofArgs, ← addArgs_merge, merge_empty]

/-- What a sequence of options and scripts asks for is added to what the rest asks for. -/
theorem ofArgs_append {args : List String} {p : Options} (h : Reads args p) (more : List String) :
    ofArgs (args ++ more) = (ofArgs more).map p.merge := by
  rw [← addArgs_eq_map, ofArgs, addArgs_of_reads h, empty_merge]

theorem ofArgs_of_stops {before after : List String} {p : Options}
    {outcome : Except OptionError (List String)} (hreads : Reads before p)
    (hstops : Stops after outcome) : ofArgs (before ++ after) =
      outcome.map fun scripts => { p with scripts := p.scripts ++ scripts } := by
  rw [ofArgs, addArgs_of_reads hreads, addArgs_of_stops hstops, empty_merge]
  simp only [merge_scripts]

theorem ofArgs_of_reads {args : List String} {p : Options} (h : Reads args p) :
    ofArgs args = .ok p := by
  have hempty := ofArgs_of_stops h .nil
  rwa [List.append_nil, Except.map, List.append_nil] at hempty

/-- The command lines that are understood, and what they ask for. -/
theorem ofArgs_eq_ok_iff {args : List String} {o : Options} :
    ofArgs args = .ok o ↔ Reads args o ∨ ∃ before after p, args = before ++ "--" :: after ∧
      Reads before p ∧ o = { p with scripts := p.scripts ++ after } := by
  constructor
  · intro h
    obtain ⟨before, p, after, outcome, rfl, hreads, hstops⟩ := exists_stop args
    rw [ofArgs_of_stops hreads hstops] at h
    cases hstops with
    | nil =>
      rw [Except.map, List.append_nil] at h
      rw [List.append_nil, ← Except.ok.inj h]
      exact .inl hreads
    | terminator scripts => exact .inr ⟨before, scripts, p, rfl, hreads, (Except.ok.inj h).symm⟩
    | missingPath => cases h
    | unknown _ rest => cases h
  · rintro (h | ⟨before, after, p, rfl, h, rfl⟩)
    · exact ofArgs_of_reads h
    · exact ofArgs_of_stops h (.terminator after)

/-- Only scripts are taken for scripts. -/
theorem Reads.isScript {args : List String} {p : Options} (h : Reads args p) :
    ∀ script ∈ p.scripts, IsScript script := by
  induction h with
  | nil => exact fun _ hmem => absurd hmem List.not_mem_nil
  | cons h _ ih =>
    intro script hmem
    rcases List.mem_append.mp hmem with hmem | hmem
    · cases h with
      | script h => rwa [List.mem_singleton.mp hmem]
      | _ => exact absurd hmem List.not_mem_nil
    · exact ih script hmem

/-! ## Command lines in two parts -/

/-- A terminator is reached between `before` and `after`: the argument `--` comes where an option or
a script may begin, and so is not the value of an option. -/
structure EndsAt (args before after : List String) : Prop where
  eq : args = before ++ "--" :: after
  reads : ∃ p, Reads before p

/-- Whether a terminator is reached. -/
def ReachesTerminator (args : List String) : Prop := ∃ before after, EndsAt args before after

/-- How a command line that asks for `o` goes on. As long as no terminator is reached, what follows
is read as if it stood alone, and merged with `o` or refused for the same reason; after a terminator
it is a list of scripts. What was taken for a script before a terminator looks like one. -/
structure Composes (args : List String) (o : Options) : Prop where
  onward : ¬ ReachesTerminator args → ∀ more, ofArgs (args ++ more) = (ofArgs more).map o.merge
  refused : ¬ ReachesTerminator args → ∀ more e,
    ofArgs (args ++ more) = .error e ↔ ofArgs more = .error e
  verbatim : ReachesTerminator args → ∀ more,
    ofArgs (args ++ more) = .ok { o with scripts := o.scripts ++ more }
  scripts : ¬ ReachesTerminator args → ∀ script ∈ o.scripts, IsScript script
  scripts_before : ∀ before after, EndsAt args before after → ∃ p, ofArgs before = .ok p ∧
    o = { p with scripts := p.scripts ++ after } ∧ ∀ script ∈ p.scripts, IsScript script

theorem reads_of_not_reachesTerminator {args : List String} {o : Options}
    (h : ofArgs args = .ok o) (hend : ¬ ReachesTerminator args) : Reads args o := by
  rcases ofArgs_eq_ok_iff.mp h with hreads | ⟨before, after, p, heq, hreads, -⟩
  · exact hreads
  · exact absurd ⟨before, after, heq, p, hreads⟩ hend

theorem eq_of_endsAt {args before after : List String} {o p : Options} (h : ofArgs args = .ok o)
    (heq : args = before ++ "--" :: after) (hreads : Reads before p) :
    o = { p with scripts := p.scripts ++ after } := by
  rw [heq, ofArgs_of_stops hreads (.terminator after)] at h
  exact (Except.ok.inj h).symm

/-- **A command line may be cut in two between any two options**, and before or after any script. -/
theorem composes {args : List String} {o : Options} (h : ofArgs args = .ok o) :
    Composes args o where
  onward hend := ofArgs_append (reads_of_not_reachesTerminator h hend)
  refused hend more e := by
    rw [ofArgs_append (reads_of_not_reachesTerminator h hend)]
    cases ofArgs more <;> simp [Except.map]
  verbatim := by
    rintro ⟨before, after, heq, p, hreads⟩ more
    rw [eq_of_endsAt h heq hreads, heq, List.append_assoc, List.cons_append,
      ofArgs_of_stops hreads (.terminator _), Except.map]
    simp only [List.append_assoc]
  scripts hend := (reads_of_not_reachesTerminator h hend).isScript
  scripts_before := by
    rintro before after ⟨heq, p, hreads⟩
    exact ⟨p, ofArgs_of_reads hreads, eq_of_endsAt h heq hreads, hreads.isScript⟩

/-- A command line that ends with the value of an option, which looks like a terminator. -/
theorem composes_after_value :
    ofArgs ["run.txt", "--config", "--"] = .ok { config := some "--", scripts := ["run.txt"] } ∧
      Composes ["run.txt", "--config", "--"] { config := some "--", scripts := ["run.txt"] } :=
  ⟨by cbv, composes (by cbv)⟩

end Options

end FileScript.CommandLine
