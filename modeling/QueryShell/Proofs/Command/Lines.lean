import QueryShell.Proofs.Command.Names
import QueryShell.Proofs.History.Reading

/-
Commands on lines of their own. `Writes` lists the ways to write each command; whatever stands in its
arguments, the line is one statement, the accumulator is as good as new behind it, and reading the
statement gives the command (`feed_written`).
-/
namespace QueryShell

namespace Text

theorem trimChars_head (cs : List Char) : ∀ c ∈ (trimChars cs).head?, ¬ isBlank c := by
  intro c hc
  have hnot := List.head?_dropWhile_not isBlank cs
  cases hdrop : cs.dropWhile isBlank with
  | nil =>
    rw [trimChars_eq_rdropWhile, hdrop, List.rdropWhile_nil] at hc
    cases hc
  | cons d rest =>
    rw [hdrop] at hnot
    have hd : ¬ isBlank d := by simpa using hnot
    obtain ⟨kept, hkept, -⟩ := trimChars_cons hd rest
    have hsame : trimChars cs = trimChars (d :: rest) := by
      rw [← hdrop, trimChars_eq_rdropWhile, trimChars_eq_rdropWhile, List.dropWhile_idempotent]
    rw [hsame, hkept] at hc
    cases hc
    exact hd

theorem cutAtBlank_visible {word : List Char} (h : ∀ c ∈ word, isBlank c = false) :
    cutAtBlank word = (word, none) := by
  have hword : ∀ c ∈ word, (!isBlank c) = true := fun c hc => by rw [h c hc, Bool.not_false]
  rw [cutAtBlank, List.dropWhile_eq_nil_iff.2 hword]

theorem cutAtBlank_append {word : List Char} (h : ∀ c ∈ word, isBlank c = false) (rest : List Char) :
    cutAtBlank (word ++ ' ' :: rest) = (word, some rest) := by
  have hword : ∀ c ∈ word, (!isBlank c) = true := fun c hc => by rw [h c hc, Bool.not_false]
  have hspace : (!isBlank ' ') = false := rfl
  have hdrop : (word ++ ' ' :: rest).dropWhile (!isBlank ·) = ' ' :: rest := by
    rw [List.dropWhile_append_of_pos hword, List.dropWhile_cons, hspace]
    rfl
  have htake : (word ++ ' ' :: rest).takeWhile (!isBlank ·) = word := by
    rw [List.takeWhile_append_of_pos hword, List.takeWhile_cons, hspace]
    exact List.append_nil word
  rw [cutAtBlank, hdrop, htake]

end Text

/-! ## One line, one statement -/

namespace Statement.Accumulator

open Text

theorem Shows.feed {a : Accumulator} (ha : a.Shows) (text : String) : (a.feed text).1.Shows := by
  rw [feed_eq_feedLines]
  exact ha.feedLines _

theorem Shows.feedTyped {a : Accumulator} (ha : a.Shows) (typed : List Typed) :
    (a.feedTyped typed).1.Shows := by
  induction typed generalizing a with
  | nil => exact ha
  | cons t typed ih =>
    cases t with
    | line text => exact ih (ha.feed text)
    | giveUp => exact ih (shows_empty true)

theorem Shows.blank {a : Accumulator} (ha : a.Shows) (hpending : a.hasPendingText = false) :
    Blank a.buffer.toList := by
  rw [Shows, hpending] at ha
  simpa [allBlank, Blank] using ha

/-- A blank piece stays blank when a line is joined to it. -/
theorem joinLine_blank {a : Accumulator} (ha : a.Shows) (hpending : a.hasPendingText = false) :
    ∃ front, Blank front ∧ a.joinLine = (under front (.blank false), []) := by
  have hblank := ha.blank hpending
  obtain ⟨buffer, stage⟩ := a
  cases stage with
  | command => cases hpending
  | query depth mode => cases hpending
  | blank fresh =>
    cases fresh with
    | true =>
      refine ⟨buffer.toList, hblank, ?_⟩
      simp [joinLine, under]
    | false =>
      have hfeed : Blank ['\n'] := fun c hc => List.mem_singleton.1 hc ▸ rfl
      refine ⟨buffer.toList ++ ['\n'], hblank.append hfeed, ?_⟩
      have hpush : (under buffer.toList (.blank false)).push '\n' =
          (under (buffer.toList ++ ['\n']) (.blank false), []) := push_some rfl
      rw [under, String.ofList_toList] at hpush
      exact hpush

theorem pushAll_command (piece line : List Char) :
    (under piece .command).pushAll line = (under (piece ++ line) .command, []) := by
  induction line generalizing piece with
  | nil => rw [List.append_nil]; rfl
  | cons c line ih =>
    have hpush : (under piece .command).push c = (under (piece ++ [c]) .command, []) := push_some rfl
    rw [pushAll, hpush]
    dsimp only
    rw [ih, List.append_assoc]
    rfl

/-- A line that starts with a colon is a statement, whatever else stands on it, and nothing is left. -/
theorem feed_command {a : Accumulator} (ha : a.Shows) (hpending : a.hasPendingText = false)
    {line : String} (hcommand : line.toList.head? = some ':') (hline : '\n' ∉ line.toList) :
    ∃ front, Blank front ∧ a.feed line = (empty, [String.ofList (front ++ line.toList)]) := by
  obtain ⟨rest, hrest⟩ := List.head?_eq_some_iff.1 hcommand
  obtain ⟨front, hfront, hjoin⟩ := joinLine_blank ha hpending
  have hvisible : allBlank line = false := by
    rw [allBlank, hrest]
    rfl
  have hcolon : (Stage.blank false).next ':' = some .command := rfl
  have hpush : (under front (.blank false)).pushAll line.toList =
      (under (front ++ line.toList) .command, []) := by
    rw [hrest, pushAll, push_some hcolon]
    dsimp only
    rw [pushAll_command, List.append_assoc]
    rfl
  refine ⟨front, hfront, ?_⟩
  rw [feed_eq_feedLines, physicalLines_of_not_mem hline, feedLines]
  simp only [feedLine, hvisible, hjoin, hpush]
  simp [feedLines, endLine, under]

end Statement.Accumulator

/-! ## Written commands -/

namespace Command

open Statement Text

/-- A name between backticks. -/
def quoted (name : String) : String :=
  backtick.toString ++ name ++ backtick.toString

/-- A text that can be an argument to the end of its line. -/
structure IsArgument (text : String) : Prop where
  ne_empty : text ≠ ""
  trimmed : trim text = text
  line : '\n' ∉ text.toList

/-- A name that a parameter can have: an identifier, or anything else between backticks. -/
inductive IsName : String → Prop where
  | identifier {first : Char} {more : List Char} (hfirst : startsName first = true)
      (hmore : ∀ c ∈ more, continuesName c = true) : IsName (String.ofList (first :: more))
  | quoted {inner : String} (hne : inner ≠ "") (hinner : backtick ∉ inner.toList)
      (hline : '\n' ∉ inner.toList) : IsName (quoted inner)

/-- A command's word with its arguments. -/
def withArguments (word arguments : String) : String :=
  word ++ " " ++ arguments

/-- The ways to write a command on one line. -/
inductive Writes : Command → String → Prop where
  | exit : Writes .exit ":exit"
  | quit : Writes .exit ":quit"
  | begin : Writes .begin ":begin"
  | commit : Writes .commit ":commit"
  | rollback : Writes .rollback ":rollback"
  | use {database : String} (hline : '\n' ∉ database.toList) :
      Writes (.use database) (withArguments ":use" (quoted database))
  | setParam {name value : String} (hname : IsName name) (hvalue : IsArgument value) :
      Writes (.setParam name value) (withArguments ":param" (name ++ " => " ++ value))
  | param : Writes .listParams ":param"
  | params : Writes .listParams ":params"
  | clearParams : Writes .clearParams (withArguments ":params" "clear")
  | history : Writes .history ":history"
  | help : Writes (.help none) ":help"
  | helpOn {topic : String} (htopic : IsArgument topic) :
      Writes (.help (some topic)) (withArguments ":help" topic)

/-- Text on one line that starts and ends with visible characters. -/
structure Spans (cs : List Char) : Prop where
  ne_nil : cs ≠ []
  head : ∀ c ∈ cs.head?, ¬ isBlank c
  last : ∀ c ∈ cs.getLast?, ¬ isBlank c
  line : '\n' ∉ cs

theorem IsArgument.spans {text : String} (h : IsArgument text) : Spans text.toList := by
  have htrim : trimChars text.toList = text.toList := by
    simpa [trim] using congrArg String.toList h.trimmed
  refine ⟨fun hnil => h.ne_empty (String.toList_inj.1 hnil), ?_, ?_, h.line⟩
  · rw [← htrim]
    exact trimChars_head _
  · rw [← htrim]
    exact trimChars_last _

/-- What stands between two texts can be anything that goes on one line. -/
theorem Spans.around {front back : List Char} (hfront : Spans front) (hback : Spans back)
    {between : List Char} (hbetween : '\n' ∉ between) : Spans (front ++ between ++ back) where
  ne_nil := by simp [hfront.ne_nil]
  head := by
    rw [List.append_assoc, List.head?_append_of_ne_nil _ hfront.ne_nil]
    exact hfront.head
  last := by
    rw [List.getLast?_append_of_ne_nil _ hback.ne_nil]
    exact hback.last
  line := by
    simp only [List.mem_append, not_or]
    exact ⟨⟨hfront.line, hbetween⟩, hback.line⟩

theorem Spans.trim_eq {cs : List Char} (h : Spans cs) : trimChars cs = cs :=
  trimChars_eq_self h.head h.last

theorem visible_of_all {cs : List Char} (h : cs.all (!isBlank ·) = true) :
    ∀ c ∈ cs, isBlank c = false := by
  simpa using h

theorem spans_of_visible {word : List Char} (hne : word ≠ []) (h : ∀ c ∈ word, isBlank c = false) :
    Spans word where
  ne_nil := hne
  head c hc := by simp [h c (List.mem_of_head? hc)]
  last c hc := by simp [h c (List.mem_of_getLast? hc)]
  line hmem := absurd (h _ hmem) (by decide)

theorem quoted_toList (name : String) : (quoted name).toList = [backtick] ++ name.toList ++ [backtick] := by
  simp [quoted]

theorem spans_quoted {name : String} (hline : '\n' ∉ name.toList) : Spans (quoted name).toList := by
  have hquote : Spans [backtick] := spans_of_visible (by simp) (visible_of_all rfl)
  rw [quoted_toList]
  exact hquote.around hquote hline

theorem IsName.spans {name : String} (h : IsName name) : Spans name.toList := by
  cases h with
  | identifier hfirst hmore =>
    rw [String.toList_ofList]
    refine spans_of_visible (List.cons_ne_nil _ _) fun c hc => ?_
    have hc : continuesName c = true := by
      rcases List.mem_cons.1 hc with rfl | hc
      · rw [continuesName, hfirst, Bool.true_or]
      · exact hmore c hc
    simpa using not_isBlank_of_continuesName hc
  | quoted hne hinner hline => exact spans_quoted hline

/-! ## Reading -/

/-- The name of a parameter is cut off in front of a blank. -/
theorem cutName_written {name : String} (h : IsName name) (rest : List Char) :
    cutName (name.toList ++ ' ' :: rest) = some (name.toList, ' ' :: rest) := by
  cases h with
  | @identifier first more hfirst hmore =>
    have hquote : (first == backtick) = false := by
      refine beq_false_of_ne (ne_backtick_of_continuesName ?_)
      rw [continuesName, hfirst, Bool.true_or]
    have hspace : continuesName ' ' = false :=
      Bool.eq_false_iff.2 fun hcontinues => not_isBlank_of_continuesName hcontinues rfl
    have hspan : (more ++ ' ' :: rest).span continuesName = (more, ' ' :: rest) := by
      rw [List.span_eq_takeWhile_dropWhile, List.takeWhile_append_of_pos hmore,
        List.dropWhile_append_of_pos hmore, List.takeWhile_cons, List.dropWhile_cons, hspace]
      simp
    rw [String.toList_ofList, List.cons_append, cutName]
    simp only [hquote, hfirst, hspan]
    rfl
  | @quoted inner hne hinner hline =>
    have hinside : ∀ c ∈ inner.toList, (c != backtick) = true := fun c hc =>
      bne_iff_ne.2 fun heq => hinner (heq ▸ hc)
    have hclose : (backtick != backtick) = false := by decide
    have hspan : (inner.toList ++ backtick :: ' ' :: rest).span (· != backtick) =
        (inner.toList, backtick :: ' ' :: rest) := by
      rw [List.span_eq_takeWhile_dropWhile, List.takeWhile_append_of_pos hinside,
        List.dropWhile_append_of_pos hinside, List.takeWhile_cons, List.dropWhile_cons, hclose]
      simp
    rw [quoted_toList]
    simp only [List.cons_append, List.nil_append, List.append_assoc, cutName, hspan]
    cases hchars : inner.toList with
    | nil => exact absurd (String.toList_inj.1 hchars) hne
    | cons c cs => simp

theorem parseParam_written {name value : String} (hname : IsName name) (hvalue : IsArgument value) :
    parseParam (name ++ " => " ++ value).toList = .ok (.setParam name value) := by
  have htoList : (name ++ " => " ++ value).toList =
      name.toList ++ ' ' :: '=' :: '>' :: ' ' :: value.toList := by
    simp
  have hsign : cutSign ((' ' :: '=' :: '>' :: ' ' :: value.toList).dropWhile isBlank) =
      some (' ' :: value.toList) := rfl
  have hfront : ∀ c ∈ [' '], isBlank c := List.all_eq_true.1 rfl
  have htrim : trimChars (' ' :: value.toList) = value.toList :=
    (trimChars_append hfront _).trans hvalue.spans.trim_eq
  have hempty : value.toList.isEmpty = false := by
    simpa using hvalue.ne_empty
  have hline : value.toList.contains '\n' = false := by
    simpa using hvalue.line
  rw [htoList, parseParam, cutName_written hname]
  simp only [hsign, htrim, hempty, hline]
  simp

/-- What a line and everything that is trimmed to it are read as. -/
structure Reads (c : Command) (line : String) : Prop where
  spans : Spans line.toList
  command : line.toList.head? = some ':'
  parse : ∀ statement : String, trimChars statement.toList = line.toList → parse statement = .ok c

/-- The word of a command: visible characters behind a colon. -/
structure IsWord (word : String) : Prop where
  visible : ∀ c ∈ word.toList, isBlank c = false
  command : word.toList.head? = some ':'

theorem IsWord.spans {word : String} (h : IsWord word) : Spans word.toList := by
  refine spans_of_visible (fun hnil => ?_) h.visible
  have hcommand := h.command
  rw [hnil] at hcommand
  cases hcommand

theorem reads_word {c : Command} {word : String} (h : IsWord word) (hparts : ofParts word "" = .ok c) :
    Reads c word where
  spans := h.spans
  command := h.command
  parse statement htrim := by
    rw [Command.parse, htrim]
    simp only [cutAtBlank_visible h.visible, h.command]
    simpa [trimChars, commandMark] using hparts

theorem reads_arguments {c : Command} {word arguments : String} (h : IsWord word)
    (harguments : Spans arguments.toList) (hparts : ofParts word arguments = .ok c) :
    Reads c (withArguments word arguments) := by
  have htoList : (withArguments word arguments).toList = word.toList ++ [' '] ++ arguments.toList := by
    simp [withArguments]
  refine ⟨?_, ?_, fun statement htrim => ?_⟩
  · rw [htoList]
    exact h.spans.around harguments (by decide)
  · rw [htoList, List.append_assoc, List.head?_append_of_ne_nil _ h.spans.ne_nil, h.command]
  · rw [Command.parse, htrim, htoList, List.append_assoc, List.singleton_append]
    simp only [cutAtBlank_append h.visible, h.command]
    simpa [harguments.trim_eq, commandMark] using hparts

theorem unquote_quoted (name : String) : unquote (quoted name) = name := by
  have hchars : unquoteChars (quoted name).toList = name.toList := by
    rw [quoted_toList]
    simp [unquoteChars]
  rw [unquote, hchars, String.ofList_toList]

/-- One case for each way to write a command. -/
theorem Writes.reads {c : Command} {line : String} (h : Writes c line) : Reads c line := by
  cases h with
  | exit => exact reads_word ⟨visible_of_all rfl, rfl⟩ rfl
  | quit => exact reads_word ⟨visible_of_all rfl, rfl⟩ rfl
  | begin => exact reads_word ⟨visible_of_all rfl, rfl⟩ rfl
  | commit => exact reads_word ⟨visible_of_all rfl, rfl⟩ rfl
  | rollback => exact reads_word ⟨visible_of_all rfl, rfl⟩ rfl
  | @use database hline =>
    refine reads_arguments ⟨visible_of_all rfl, rfl⟩ (spans_quoted hline) ?_
    show Except.ok (Command.use (unquote (quoted database))) = _
    rw [unquote_quoted]
  | @setParam name value hname hvalue =>
    have hspans : Spans (name ++ " => " ++ value).toList := by
      rw [String.toList_append, String.toList_append]
      exact hname.spans.around hvalue.spans (by decide)
    have hempty : (name ++ " => " ++ value).isEmpty = false :=
      Bool.eq_false_iff.2 fun h => hspans.ne_nil (congrArg String.toList (String.isEmpty_iff.1 h))
    refine reads_arguments ⟨visible_of_all rfl, rfl⟩ hspans ?_
    rw [← parseParam_written hname hvalue]
    show (if (name ++ " => " ++ value).isEmpty then _ else _) = _
    rw [hempty]
    rfl
  | param => exact reads_word ⟨visible_of_all rfl, rfl⟩ rfl
  | params => exact reads_word ⟨visible_of_all rfl, rfl⟩ rfl
  | clearParams =>
    exact reads_arguments ⟨visible_of_all rfl, rfl⟩ (spans_of_visible (by decide) (visible_of_all rfl)) rfl
  | history => exact reads_word ⟨visible_of_all rfl, rfl⟩ rfl
  | help => exact reads_word ⟨visible_of_all rfl, rfl⟩ rfl
  | @helpOn topic htopic =>
    have hempty : topic.isEmpty = false :=
      Bool.eq_false_iff.2 fun h => htopic.ne_empty (String.isEmpty_iff.1 h)
    refine reads_arguments ⟨visible_of_all rfl, rfl⟩ htopic.spans ?_
    show Except.ok (Command.help (if topic.isEmpty then _ else _)) = _
    rw [hempty]
    rfl

/-- However much has been typed before, as long as no statement is under way: a command on a line of its
own is one statement, which is the line but for blank text around it, and reading it gives the command.
Behind it the accumulator is as at first, so the lines that follow are read as if they came first. -/
theorem feed_written (typed : List Typed)
    (hpending : (Accumulator.empty.feedTyped typed).1.hasPendingText = false) {c : Command}
    {line : String} (hline : Writes c line) :
    ∃ statement, (Accumulator.empty.feedTyped typed).1.feed line = (Accumulator.empty, [statement]) ∧
      trim statement = line ∧ parse statement = .ok c := by
  have hreads := hline.reads
  have hshows := (Accumulator.shows_empty true).feedTyped typed
  obtain ⟨front, hfront, hfeed⟩ :=
    Accumulator.feed_command hshows hpending hreads.command hreads.spans.line
  have htrim : trimChars (String.ofList (front ++ line.toList)).toList = line.toList := by
    rw [String.toList_ofList, trimChars_append hfront, hreads.spans.trim_eq]
  refine ⟨_, hfeed, ?_, hreads.parse _ htrim⟩
  rw [trim, htrim, String.ofList_toList]

theorem feed_written_setParam :
    (Accumulator.empty.feedTyped [.line "RETURN 1; "]).1.hasPendingText = false ∧
    Writes (.setParam (quoted "a: => ;") "'x; /* \\ => \x60")
      (withArguments ":param" (quoted "a: => ;" ++ " => " ++ "'x; /* \\ => \x60")) ∧
    ∃ statement,
      (Accumulator.empty.feedTyped [.line "RETURN 1; "]).1.feed
        (withArguments ":param" (quoted "a: => ;" ++ " => " ++ "'x; /* \\ => \x60")) =
          (Accumulator.empty, [statement]) ∧
      trim statement = withArguments ":param" (quoted "a: => ;" ++ " => " ++ "'x; /* \\ => \x60") ∧
      parse statement = .ok (.setParam (quoted "a: => ;") "'x; /* \\ => \x60") := by
  have hpending : (Accumulator.empty.feedTyped [.line "RETURN 1; "]).1.hasPendingText = false := by
    decide
  have hname : IsName (quoted "a: => ;") := .quoted (by decide) (by decide) (by decide)
  have hvalue : IsArgument "'x; /* \\ => \x60" := ⟨by decide, by decide, by decide⟩
  exact ⟨hpending, .setParam hname hvalue, feed_written _ hpending (.setParam hname hvalue)⟩

end Command

end QueryShell
