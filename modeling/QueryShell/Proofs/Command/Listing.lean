import QueryShell.Proofs.Command.Lines
import QueryShell.Proofs.Json.OneLine
import QueryShell.Query

/-
The lines that list parameters, read as commands. Names stand on them without backticks, so a line sets the
parameter that it lists if the name is an identifier; otherwise it is no command, or it sets a parameter
whose name is the identifier that the line happens to begin with.
-/
namespace QueryShell

namespace Text

/-- Only blank text is trimmed to nothing. -/
theorem blank_of_trimChars_eq_nil {cs : List Char} (h : trimChars cs = []) : ∀ c ∈ cs, isBlank c := by
  induction cs with
  | nil => nofun
  | cons c cs ih =>
    by_cases hc : isBlank c
    · have hfront : ∀ d ∈ [c], isBlank d := by simpa using hc
      have hdrop : trimChars (c :: cs) = trimChars cs := trimChars_append hfront cs
      exact List.forall_mem_cons.2 ⟨hc, ih (hdrop ▸ h)⟩
    · obtain ⟨kept, hkept, -⟩ := trimChars_cons hc cs
      rw [hkept] at h
      cases h

end Text

namespace Command

open Text

/-- The name needs no backticks. -/
def isIdentifier (name : String) : Bool :=
  match name.toList with
  | [] => false
  | first :: more => startsName first && more.all continuesName

theorem isIdentifier_iff {name : String} :
    isIdentifier name = true ↔ ∃ first more, name = String.ofList (first :: more) ∧
      startsName first = true ∧ ∀ c ∈ more, continuesName c = true := by
  constructor
  · intro h
    unfold isIdentifier at h
    split at h
    · cases h
    · rename_i first more htoList
      rw [Bool.and_eq_true, List.all_eq_true] at h
      exact ⟨first, more, by rw [← htoList, String.ofList_toList], h⟩
  · rintro ⟨first, more, rfl, hfirst, hmore⟩
    rw [isIdentifier, String.toList_ofList]
    simpa [hfirst] using hmore

theorem isName_of_isIdentifier {name : String} (h : isIdentifier name = true) : IsName name := by
  obtain ⟨first, more, rfl, hfirst, hmore⟩ := isIdentifier_iff.1 h
  exact .identifier hfirst hmore

/-- An identifier is the name of the parameter that it sets. -/
theorem parameterName_of_isIdentifier {name : String} (h : isIdentifier name = true) :
    parameterName name = name := by
  obtain ⟨first, more, rfl, hfirst, hmore⟩ := isIdentifier_iff.1 h
  have hplain : ∀ c ∈ first :: more, c ≠ backtick := by
    refine List.forall_mem_cons.2 ⟨ne_backtick_of_continuesName ?_, fun c hc => ?_⟩
    · rw [continuesName, hfirst, Bool.true_or]
    · exact ne_backtick_of_continuesName (hmore c hc)
  rw [parameterName, String.toList_ofList, List.filter_eq_self.2 fun c hc => by simpa using hplain c hc]

/-- What is read as a name and does not begin with a backtick is an identifier. -/
theorem isIdentifier_of_cutName {arguments name rest : List Char}
    (hplain : ∀ c ∈ arguments.head?, c ≠ backtick) (h : cutName arguments = some (name, rest)) :
    isIdentifier (String.ofList name) = true := by
  cases arguments with
  | nil => cases h
  | cons c cs =>
    unfold cutName at h
    dsimp only at h
    rw [if_neg (by simpa using hplain c rfl)] at h
    split at h
    · rename_i hstarts
      rw [List.span_eq_takeWhile_dropWhile] at h
      cases h
      exact isIdentifier_iff.2 ⟨c, _, rfl, hstarts, fun d hd => List.mem_takeWhile_imp hd⟩
    · cases h

/-- Only identifiers are set by what does not begin with a backtick. -/
theorem isIdentifier_of_parseParam {arguments : List Char} {c : Command}
    (hplain : ∀ c ∈ arguments.head?, c ≠ backtick) (h : parseParam arguments = .ok c) :
    ∃ name value, c = .setParam name value ∧ isIdentifier name = true := by
  unfold parseParam at h
  split at h
  · cases h
  rename_i hname
  split at h
  · cases h
  dsimp only at h
  split at h
  · cases h
  · cases h
    exact ⟨_, _, rfl, isIdentifier_of_cutName hplain hname⟩

/-! ## Lines -/

/-- The line that lists a parameter. -/
def listing (name : String) (v : Json) : String :=
  withArguments ":param" (name ++ " => " ++ v.text)

theorem describe_eq (parameters : Parameters) :
    parameters.describe = parameters.map fun (name, v) => listing name v := by
  refine List.map_congr_left fun member _ => ?_
  simp only [listing, withArguments, ← String.append_assoc]
  rfl

variable {name arguments : String} {v : Json}

/-- A value stands on a line as an argument. -/
theorem isArgument_text (hproper : v.Proper) (hfree : v.DoubleFree) : IsArgument v.text where
  ne_empty hempty := by
    have hpos := (Json.reads_self hproper hfree).length_pos
    have hnil : Json.chars v = [] := by
      rw [← String.toList_ofList (l := Json.chars v)]
      exact congrArg String.toList hempty
    rw [hnil] at hpos
    exact Nat.lt_irrefl 0 hpos
  trimmed := by
    obtain ⟨hhead, hlast⟩ := Json.chars_visible hfree
    rw [trim, Json.text, String.toList_ofList, trimChars_eq_self hhead hlast]
  line := by
    rw [Json.text, String.toList_ofList]
    exact Json.newline_notMem_chars v

/-- With an identifier, the line is read as the command that sets the parameter. -/
theorem parse_listing (hname : isIdentifier name = true) (hproper : v.Proper) (hfree : v.DoubleFree) :
    parse (listing name v) = .ok (.setParam name v.text) := by
  have hreads := (Writes.setParam (isName_of_isIdentifier hname) (isArgument_text hproper hfree)).reads
  exact hreads.parse _ hreads.spans.trim_eq

theorem ofParts_param (h : arguments ≠ "") : ofParts ":param" arguments = parseParam arguments.toList := by
  show (if arguments.isEmpty then _ else _) = _
  rw [if_neg (by simpa using h)]

/-- What stands behind the word is read as a parameter, without the blank text before it. -/
theorem parse_param (hne : arguments.toList ≠ []) (hlast : ∀ c ∈ arguments.toList.getLast?, ¬ isBlank c) :
    parse (withArguments ":param" arguments) = parseParam (trimChars arguments.toList) := by
  have hword : IsWord ":param" := ⟨visible_of_all rfl, rfl⟩
  have hline : (withArguments ":param" arguments).toList = ":param".toList ++ [' '] ++ arguments.toList := by
    simp [withArguments]
  have htrim : trimChars (":param".toList ++ [' '] ++ arguments.toList) =
      ":param".toList ++ [' '] ++ arguments.toList := by
    refine trimChars_eq_self ?_ ?_
    · rw [List.append_assoc, List.head?_append_of_ne_nil _ hword.spans.ne_nil]
      exact hword.spans.head
    · rw [List.getLast?_append_of_ne_nil _ hne]
      exact hlast
  have hvisible : trimChars arguments.toList ≠ [] := by
    obtain ⟨c, hc⟩ := Option.ne_none_iff_exists'.1 (mt List.getLast?_eq_none_iff.1 hne)
    intro hnil
    exact hlast c hc (blank_of_trimChars_eq_nil hnil c (List.mem_of_getLast? hc))
  rw [parse, hline, htrim, List.append_assoc, List.singleton_append]
  simp only [cutAtBlank_append hword.visible, hword.command, String.ofList_toList, Option.getD_some]
  rw [if_pos (by decide), ofParts_param (by simpa using hvisible), String.toList_ofList]

/-- The first visible character in front of a value's sign is one of the name, or of the sign. -/
theorem head_dropWhile_name {name : List Char} (hname : backtick ∉ name) (rest : List Char) :
    ∀ c ∈ ((name ++ ' ' :: '=' :: rest).dropWhile isBlank).head?, c ≠ backtick := by
  induction name with
  | nil =>
    rintro _ ⟨⟩
    decide
  | cons c name ih =>
    obtain ⟨hc, hname⟩ := not_or.1 (List.mem_cons.not.1 hname)
    rw [List.cons_append, List.dropWhile_cons]
    split
    · exact ih hname
    · rintro _ ⟨⟩
      exact fun heq => hc heq.symm

/-- Whatever the name is, as long as there is no backtick in it: what the line sets has an identifier for
its name. -/
theorem isIdentifier_of_parse_listing {c : Command} (hname : backtick ∉ name.toList) (hproper : v.Proper)
    (hfree : v.DoubleFree) (h : parse (listing name v) = .ok c) :
    ∃ set value, c = .setParam set value ∧ isIdentifier set = true := by
  have hvalue := (isArgument_text hproper hfree).spans
  have htoList : (name ++ " => " ++ v.text).toList =
      name.toList ++ ' ' :: '=' :: '>' :: ' ' :: v.text.toList := by
    simp
  have hlast : ∀ c ∈ (name ++ " => " ++ v.text).toList.getLast?, ¬ isBlank c := by
    rw [String.toList_append, List.getLast?_append_of_ne_nil _ hvalue.ne_nil]
    exact hvalue.last
  rw [listing, parse_param (by simp [htoList]) hlast] at h
  refine isIdentifier_of_parseParam (fun c hc => ?_) h
  obtain ⟨cut, hcut⟩ := List.rdropWhile_prefix isBlank (l := (name ++ " => " ++ v.text).toList.dropWhile isBlank)
  refine head_dropWhile_name hname ('>' :: ' ' :: v.text.toList) c ?_
  rw [htoList] at hcut hc
  rw [← hcut, List.head?_append, ← trimChars_eq_rdropWhile, hc]
  rfl

end Command

end QueryShell
