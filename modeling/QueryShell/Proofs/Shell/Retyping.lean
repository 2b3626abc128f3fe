import QueryShell.Proofs.Command.Listing
import QueryShell.Proofs.Shell.Parameters

/-
The lines that list the parameters, executed by a shell that has none. If all names are identifiers, every
line succeeds without a word to the server, and the parameters are the listed ones. A name that is no
identifier stands on its line without the backticks that it needs, so it is not set again, whatever else is.
-/
namespace QueryShell.Shell

open Program Connection Command

variable {depth : Nat} {s s' : Shell} {history : List Step} {events : List Event} {name : String}
  {v : Json} {result : Except Failure Unit}

/-! ## One line -/

/-- What starts with a colon is a command or the misuse of one. -/
theorem meaning_of_colon {line : String} (h : line.toList.head? = some ':') :
    (∀ c, Command.parse line = .ok c → meaning line = .command c) ∧
      ∀ m, Command.parse line = .error m → meaning line = .misuse m := by
  obtain ⟨rest, hrest⟩ := List.head?_eq_some_iff.1 h
  have hvisible : Text.allBlank line = false := by
    rw [Text.allBlank, hrest]
    rfl
  have htrim : (Text.trim line).toList.head? = some Statement.commandMark := by
    obtain ⟨kept, hkept, -⟩ := Text.trimChars_cons (c := ':') (by decide) rest
    rw [Text.trim, String.toList_ofList, hrest, hkept]
    rfl
  unfold meaning
  rw [hvisible, if_neg Bool.false_ne_true, if_pos htrim]
  refine ⟨fun c hparse => ?_, fun m hparse => ?_⟩ <;> simp only [hparse]

theorem listing_head? (name : String) (v : Json) : (listing name v).toList.head? = some ':' := by
  rw [listing, withArguments, String.toList_append, String.toList_append]
  rfl

/-- A value that the line's own reader allows. -/
structure Literal (v : Json) : Prop where
  proper : v.Proper
  doubleFree : v.DoubleFree
  shallow : v.depth ≤ Json.greatestDepth

theorem Literal.literal? (h : Literal v) : Parameters.literal? v.text = some v := by
  rw [Parameters.literal?, (isArgument_text h.proper h.doubleFree).trimmed]
  exact Json.parse?_text h.proper h.doubleFree h.shallow

/-- With an identifier, the line sets what it lists, and the server is not asked. -/
theorem runs_listing (hname : isIdentifier name = true) (hliteral : Literal v)
    (hrun : Runs (handling depth) (execute (listing name v)).run s events result s') :
    result = .ok () ∧ turns events = [] ∧ transactions events = [] ∧
      s'.parameters = s.parameters.set name v := by
  obtain ⟨t, hexecutes, -, hparameters⟩ := executes_of_runs hrun
  have hparse := parse_listing hname hliteral.proper hliteral.doubleFree
  have hmeaning := (meaning_of_colon (listing_head? name v)).1 _ hparse
  have hset : unquote (Text.trim name) = name :=
    (unquote_of_parse hparse).trans (parameterName_of_isIdentifier hname)
  rw [hmeaning] at hexecutes
  cases hexecutes with
  | tells htells => cases htells
  | param hassigns htalks hevents =>
    have hturns := htalks.turns
    have htransactions := htalks.transactions
    have hsame := htalks.parameters
    cases hassigns with
    | literal hvalue =>
      cases hliteral.literal?.symm.trans hvalue
      rw [hevents, List.nil_append]
      refine ⟨rfl, hturns, htransactions, ?_⟩
      rw [hparameters, hsame, hset]
    | evaluated hnone => cases hliteral.literal?.symm.trans hnone
    | failed hnone => cases hliteral.literal?.symm.trans hnone
    | lacking hnone => cases hliteral.literal?.symm.trans hnone

/-- Whatever the name is, what the line sets has an identifier for its name. -/
theorem isIdentifier_of_runs_listing (hname : backtick ∉ name.toList) (hliteral : Literal v)
    (hrun : Runs (handling depth) (execute (listing name v)).run s events result s') :
    ∀ p ∈ s'.parameters, p ∈ s.parameters ∨ isIdentifier p.1 = true := by
  obtain ⟨t, hexecutes, -, hparameters⟩ := executes_of_runs hrun
  obtain ⟨hcommand, hmisuse⟩ := meaning_of_colon (listing_head? name v)
  rw [hparameters]
  cases hparse : Command.parse (listing name v) with
  | error m =>
    rw [hmisuse m hparse] at hexecutes
    cases hexecutes with
    | misuse htalks => exact fun p hp => .inl (htalks.parameters ▸ hp)
  | ok c =>
    obtain ⟨other, value, rfl, hother⟩ :=
      isIdentifier_of_parse_listing hname hliteral.proper hliteral.doubleFree hparse
    rw [hcommand _ hparse] at hexecutes
    have hset : unquote (Text.trim other) = other :=
      (unquote_of_parse hparse).trans (parameterName_of_isIdentifier hother)
    have hinsert {w : Json} {p : String × Json} (hp : p ∈ s.parameters.set (unquote (Text.trim other)) w) :
        p ∈ s.parameters ∨ isIdentifier p.1 = true := by
      rw [hset] at hp
      rcases Json.mem_insert hp with rfl | hp
      · exact .inr hother
      · exact .inl hp
    cases hexecutes with
    | tells htells => cases htells
    | param hassigns htalks hevents =>
      rw [htalks.parameters]
      cases hassigns with
      | literal => exact fun p hp => hinsert hp
      | evaluated => exact fun p hp => hinsert hp
      | failed => exact fun p hp => .inl hp
      | lacking => exact fun p hp => .inl hp

/-! ## All lines -/

/-- Executes statements one after another, whatever becomes of each. -/
def executeAll : List String → Program Shell (List (Except Failure Unit))
  | [] => pure []
  | statement :: rest => do
    let result ← (execute statement).run
    return result :: (← executeAll rest)

theorem runs_executeAll_cons {statement : String} {rest : List String} {results : List (Except Failure Unit)}
    (h : Runs (handling depth) (executeAll (statement :: rest)) s events results s') :
    ∃ first result t second others, Runs (handling depth) (execute statement).run s first result t ∧
      Runs (handling depth) (executeAll rest) t second others s' ∧ events = first ++ second ∧
      results = result :: others := by
  obtain ⟨first, result, t, second, hfirst, hrest, rfl⟩ := runs_bind h
  obtain ⟨second, others, u, third, hothers, hend, rfl⟩ := runs_bind hrest
  obtain ⟨rfl, rfl, rfl⟩ := runs_pure hend
  exact ⟨first, result, t, second, others, hfirst, hothers, by rw [List.append_nil], rfl⟩

/-- Every line sets what it lists, one after the other. -/
theorem runs_describe {parameters : Parameters} {results : List (Except Failure Unit)}
    (hnames : ∀ p ∈ parameters, isIdentifier p.1 = true) (hvalues : ∀ p ∈ parameters, Literal p.2)
    (hrun : Runs (handling depth) (executeAll parameters.describe) s events results s') :
    results = parameters.map (fun _ => .ok ()) ∧ turns events = [] ∧ transactions events = [] ∧
      s'.parameters = parameters.foldl (fun sorted (name, v) => sorted.set name v) s.parameters := by
  rw [describe_eq] at hrun
  induction parameters generalizing s events results with
  | nil =>
    obtain ⟨rfl, rfl, rfl⟩ := runs_pure hrun
    exact ⟨rfl, rfl, rfl, rfl⟩
  | cons p parameters ih =>
    obtain ⟨hname, hnames⟩ := List.forall_mem_cons.1 hnames
    obtain ⟨hvalue, hvalues⟩ := List.forall_mem_cons.1 hvalues
    obtain ⟨first, result, t, second, others, hfirst, hrest, rfl, rfl⟩ := runs_executeAll_cons hrun
    obtain ⟨rfl, hturns, htransactions, hset⟩ := runs_listing hname hvalue hfirst
    obtain ⟨rfl, hturns', htransactions', hset'⟩ := ih hnames hvalues hrest
    refine ⟨rfl, ?_, ?_, ?_⟩
    · rw [turns_append, hturns, hturns', List.append_nil]
    · rw [transactions_append, htransactions, htransactions', List.append_nil]
    · rw [hset', hset, List.foldl_cons]

/-- The lines set nothing but identifiers. -/
theorem isIdentifier_of_runs_describe {parameters : Parameters} {results : List (Except Failure Unit)}
    (hnames : ∀ p ∈ parameters, backtick ∉ p.1.toList) (hvalues : ∀ p ∈ parameters, Literal p.2)
    (hrun : Runs (handling depth) (executeAll parameters.describe) s events results s') :
    ∀ p ∈ s'.parameters, p ∈ s.parameters ∨ isIdentifier p.1 = true := by
  rw [describe_eq] at hrun
  induction parameters generalizing s events results with
  | nil =>
    obtain ⟨rfl, rfl, rfl⟩ := runs_pure hrun
    exact fun p hp => .inl hp
  | cons q parameters ih =>
    obtain ⟨hname, hnames⟩ := List.forall_mem_cons.1 hnames
    obtain ⟨hvalue, hvalues⟩ := List.forall_mem_cons.1 hvalues
    obtain ⟨first, result, t, second, others, hfirst, hrest, rfl, rfl⟩ := runs_executeAll_cons hrun
    intro p hp
    rcases ih hnames hvalues hrest p hp with hp | hp
    · exact isIdentifier_of_runs_listing hname hvalue hfirst p hp
    · exact .inr hp

/-! ## Parameters in force -/

/-- Everything that the server answered with is a value as the program has them. -/
def AnswersProper (history : List Step) : Prop :=
  ∀ step ∈ history, ∀ v ∈ step.answer?, v.Proper

/-- A parameter that is set has no backtick in its name, and its value is proper. -/
theorem sets?_proper {step : Step} (hanswer : ∀ v ∈ step.answer?, v.Proper) {p : String × Json}
    (h : step.sets? = some p) : backtick ∉ p.1.toList ∧ p.2.Proper := by
  unfold Step.sets? at h
  split at h
  · rename_i name expression hdone
    obtain ⟨v, hv, rfl⟩ := Option.map_eq_some_iff.1 h
    refine ⟨?_, ?_⟩
    · rw [parameterName, String.toList_ofList, List.mem_filter]
      simp
    · rcases Option.or_eq_some_iff.1 hv with hv | ⟨-, hv⟩
      · exact Json.proper_of_parse? hv
      · exact hanswer v hv
  · cases h

theorem inForce_proper (hanswers : AnswersProper history) :
    ∀ p ∈ inForce history, backtick ∉ p.1.toList ∧ p.2.Proper := by
  induction history using List.reverseRecOn with
  | nil => nofun
  | append_singleton history step ih =>
    obtain ⟨hbefore, hstep⟩ := List.forall_mem_append.1 hanswers
    rw [inForce_snoc]
    unfold Step.update
    split
    · nofun
    split
    · rename_i name v hsets
      intro p hp
      rcases Json.mem_insert hp with rfl | hp
      · exact sets?_proper (List.forall_mem_singleton.1 hstep) hsets
      · exact ih hbefore p hp
    · exact ih hbefore

/-! ## Typing the listing in -/

/-- The lines can be executed, and however that goes: each of them succeeds, nothing is asked of the
driver, and the shell has these parameters then. -/
structure Rebuilds (depth : Nat) (lines : List String) (s : Shell) (parameters : Parameters) : Prop where
  runs : ∃ events results s', Runs (handling depth) (executeAll lines) s events results s'
  every : ∀ {events results s'}, Runs (handling depth) (executeAll lines) s events results s' →
    results = lines.map (fun _ => .ok ()) ∧ turns events = [] ∧ transactions events = [] ∧
      s'.parameters = parameters

/-- A shell without parameters takes over those of another one by executing the lines that list them, if
and only if all their names are identifiers. The values have no doubles and do not nest too deep. -/
theorem rebuilds_describe {depth' : Nat} {again : Shell} (hserved : Served depth history s)
    (hanswers : AnswersProper history)
    (hvalues : ∀ p ∈ s.parameters, p.2.DoubleFree ∧ p.2.depth ≤ Json.greatestDepth)
    (hempty : again.parameters = []) :
    Rebuilds depth' s.parameters.describe again s.parameters ↔
      ∀ p ∈ s.parameters, isIdentifier p.1 = true := by
  have hparameters : s.parameters = inForce history := hserved.inv.1.parameters
  have hsorted : Json.Sorted s.parameters := hparameters ▸ sorted_inForce history
  have hproper := inForce_proper hanswers
  rw [← hparameters] at hproper
  have hliteral : ∀ p ∈ s.parameters, Literal p.2 := fun p hp =>
    ⟨(hproper p hp).2, (hvalues p hp).1, (hvalues p hp).2⟩
  have hruns := runs_trace (handling_quiet depth') willing (executeAll s.parameters.describe) again
  constructor
  · intro hrebuilds p hp
    have hidentifiers := isIdentifier_of_runs_describe (fun p hp => (hproper p hp).1) hliteral hruns
    rw [(hrebuilds.every hruns).2.2.2, hempty] at hidentifiers
    exact (hidentifiers p hp).resolve_left List.not_mem_nil
  · refine fun hnames => ⟨⟨_, _, _, hruns⟩, fun hrun => ?_⟩
    obtain ⟨hresults, hturns, htransactions, hset⟩ := runs_describe hnames hliteral hrun
    refine ⟨?_, hturns, htransactions, ?_⟩
    · rw [hresults, Parameters.describe, List.map_map]
      rfl
    · rw [hset, hempty]
      exact Json.sortMembers_of_sorted hsorted

/-- Parameters are set, cleared, evaluated and set again. One name stands between backticks without need, and
texts hold what also separates names from values. -/
def settings : List String :=
  [":param gone => 1", ":params clear", ":param \x60b2\x60 => \x7b\"=> :\": [null, \"'q' => \"]\x7d",
    ":param a => date()", ":param _c => date()", ":param a: -3"]

/-- A shell without parameters. -/
def fresh : Shell :=
  { connection := { interactive := true }, printer := { format := .plain } }

theorem rebuilds_settings :
    let connected := (connect {}).run.trace evaluating fresh
    let run := replay evaluating settings connected.2.2
    let history := .connected {} connected.1 connected.2.1 :: run.1
    Served 0 history run.2 ∧ AnswersProper history ∧
      (∀ p ∈ run.2.parameters, p.2.DoubleFree ∧ p.2.depth ≤ Json.greatestDepth) ∧ fresh.parameters = [] ∧
      run.2.parameters.describe = [":param _c => \"today\"", ":param a => -3",
        ":param b2 => \x7b\"=> :\":[null,\"'q' => \"]\x7d"] ∧
      Rebuilds 0 run.2.parameters.describe fresh run.2.parameters := by
  intro connected run history
  have hconnected : Served 0 ([] ++ [.connected {} connected.1 connected.2.1]) connected.2.2 :=
    .connected .new (runs_trace (handling_quiet 0) evaluating _ _)
  have hserved : Served 0 history run.2 := served_replay evaluating settings hconnected
  have hanswers : AnswersProper history := by
    have htexts : (history.all fun step => step.answer?.all (· = .string "today")) = true := by
      decide +kernel
    intro step hstep v hv
    have hv : v = .string "today" :=
      of_decide_eq_true ((Option.all_eq_true _ _).1 (List.all_eq_true.1 htexts step hstep) v hv)
    rw [hv]
    exact .string _
  have hparameters : run.2.parameters = [("_c", .string "today"), ("a", .int (-3)),
      ("b2", .object [("=> :", .array [.null, .string "'q' => "])])] := by
    decide +kernel
  have hvalues : ∀ p ∈ run.2.parameters, p.2.DoubleFree ∧ p.2.depth ≤ Json.greatestDepth := by
    have htexts : ∀ v ∈ [Json.null, .string "'q' => "], v.DoubleFree :=
      List.forall_mem_cons.2 ⟨.null, List.forall_mem_singleton.2 (.string _)⟩
    have hobject : ∀ p ∈ [("=> :", Json.array [.null, .string "'q' => "])], p.2.DoubleFree :=
      List.forall_mem_singleton.2 (.array htexts)
    rw [hparameters]
    simp only [List.forall_mem_cons]
    exact ⟨⟨.string _, by decide⟩, ⟨.int _, by decide⟩, ⟨.object hobject, by decide⟩, List.forall_mem_nil _⟩
  have hnames : ∀ p ∈ run.2.parameters, isIdentifier p.1 = true := by
    rw [hparameters]
    decide +kernel
  refine ⟨hserved, hanswers, hvalues, rfl, ?_, (rebuilds_describe hserved hanswers hvalues rfl).2 hnames⟩
  rw [hparameters]
  decide +kernel

/-- A name with a blank is listed without its backticks, and the line is refused. -/
theorem not_rebuilds_quoted :
    let run := replay willing [":param \x60my name\x60 => 1"] fresh
    Served 0 run.1 run.2 ∧ AnswersProper run.1 ∧ run.2.parameters = [("my name", .int 1)] ∧
      run.2.parameters.describe = [":param my name => 1"] ∧
      ((execute ":param my name => 1").run.trace willing fresh).2.1 =
        .error (.refused (.misuse .malformedParam)) ∧
      ¬ Rebuilds 0 run.2.parameters.describe fresh run.2.parameters := by
  intro run
  have hserved : Served 0 run.1 run.2 := by
    have hreplayed : Served 0 ([] ++ run.1) run.2 := served_replay willing _ .new
    rwa [List.nil_append] at hreplayed
  have hanswers : AnswersProper run.1 := by
    have hnone : (run.1.all fun step => step.answer?.isNone) = true := by decide +kernel
    intro step hstep v hv
    rw [Option.isNone_iff_eq_none.1 (List.all_eq_true.1 hnone step hstep)] at hv
    cases hv
  have hparameters : run.2.parameters = [("my name", .int 1)] := by decide +kernel
  have hlines : run.2.parameters.describe = [":param my name => 1"] := by
    rw [hparameters]
    decide +kernel
  have hlast : ((executeAll [":param my name => 1"]).trace willing fresh).2.2.parameters = [] := by
    decide +kernel
  refine ⟨hserved, hanswers, hparameters, hlines, by decide +kernel, fun hrebuilds => ?_⟩
  have hruns := runs_trace (handling_quiet 0) willing (executeAll [":param my name => 1"]) fresh
  rw [hlines] at hrebuilds
  have hsame := hlast.symm.trans ((hrebuilds.every hruns).2.2.2.trans hparameters)
  exact List.cons_ne_nil _ _ hsame.symm

end QueryShell.Shell
