import QueryShell.History.Basic
import QueryShell.Proofs.Statement.Inputs

/-
How a stored text is read. Carriage returns in front of line feeds do not count, nor does blank text
at either end; every other character is read by the grammar of statements (`ofContents_eq`). Reading
goes from the front to the back: an entry is found whatever follows it, and what follows is read as
if it stood there alone (`readIn_contents`). Only text without an end is not cut off from what
follows it: it takes the next line in (`entriesIn_tail_merges`).
-/
namespace QueryShell

/-! ## Text without an end -/

namespace Statement

open Text

/-- A query that goes on to the end of its text goes on into anything that follows. -/
theorem scan_goesOn {depth : Nat} {mode : Mode} {cs : List Char} (h : scan depth mode cs = none) :
    ∃ depth' mode', ∀ more,
      scan depth mode (cs ++ more) = inFront cs (scan depth' mode' more) := by
  induction cs generalizing depth mode with
  | nil => exact ⟨depth, mode, fun more => (inFront_nil _).symm⟩
  | cons c cs ih =>
    cases hnext : mode.next depth c with
    | none =>
      rw [scan_cons_none _ hnext] at h
      cases h
    | some next =>
      obtain ⟨depth', mode'⟩ := next
      rw [scan_cons_some _ hnext] at h
      have hcs : scan depth' mode' cs = none := by
        cases hscan : scan depth' mode' cs with
        | none => rfl
        | some cut =>
          rw [hscan] at h
          cases h
      obtain ⟨depth'', mode'', hmore⟩ := ih hcs
      refine ⟨depth'', mode'', fun more => ?_⟩
      rw [List.cons_append, scan_cons_some _ hnext, hmore, inFront_inFront]
      rfl

theorem scan_of_not_mem {cs : List Char} (h : terminator ∉ cs) (depth : Nat) (mode : Mode) :
    scan depth mode cs = none := by
  cases hscan : scan depth mode cs with
  | none => rfl
  | some cut =>
    obtain ⟨query, rest⟩ := cut
    have hlast := List.mem_of_getLast? (scan_last hscan)
    rw [(scan_local hscan).1] at h
    exact absurd (List.mem_append_left _ hlast) h

/-- A text that starts with a statement that never ends, without blank text around it. -/
structure IsTail (tail : List Char) : Prop where
  ne_nil : tail ≠ []
  head : ∀ c ∈ tail.head?, ¬ isBlank c
  last : ∀ c ∈ tail.getLast?, ¬ isBlank c
  endless : cutStatement tail = none

namespace IsTail

theorem not_command {tail : List Char} (h : IsTail tail) : tail.head? ≠ some ':' := by
  intro hcommand
  obtain ⟨line, rfl⟩ := List.head?_eq_some_iff.1 hcommand
  cases h.endless

theorem scan_eq {tail : List Char} (h : IsTail tail) : scan 0 (.plain .nothing) tail = none := by
  have hcut := h.endless
  rw [cutStatement_eq_scan h.not_command] at hcut
  exact Option.map_eq_none_iff.1 hcut

theorem trim_eq {tail : List Char} (h : IsTail tail) : trimChars tail = tail :=
  trimChars_eq_self h.head h.last

theorem of_endless {visible : List Char} (hne : visible ≠ [])
    (hvisible : ∀ c ∈ visible.head?, ¬ isBlank c) (h : cutStatement visible = none) :
    IsTail (trimChars visible) := by
  cases visible with
  | nil => exact absurd rfl hne
  | cons c cs =>
    have hc : ¬ isBlank c := hvisible c rfl
    obtain ⟨kept, hkept, more, rfl⟩ := trimChars_cons hc cs
    have hlast := trimChars_last (c :: (kept ++ more))
    rw [hkept] at hlast ⊢
    refine ⟨List.cons_ne_nil _ _, hvisible, hlast, ?_⟩
    have hcommand : c ≠ ':' := by
      rintro rfl
      cases h
    have hhead (cs : List Char) : (c :: cs).head? ≠ some ':' := by simpa using hcommand
    rw [cutStatement_eq_scan (hhead _), Option.map_eq_none_iff] at h ⊢
    -- a text that ends a query early would do so with more text behind it
    cases hscan : scan 0 (.plain .nothing) (c :: kept) with
    | none => rfl
    | some cut =>
      obtain ⟨query, rest⟩ := cut
      obtain ⟨heq, hmore⟩ := scan_local hscan
      rw [← List.cons_append, heq, List.append_assoc, hmore] at h
      cases h

end IsTail

end Statement

/-! ## Trimming -/

namespace Text

theorem trimChars_of_blank {cs : List Char} (h : ∀ c ∈ cs, isBlank c) : trimChars cs = [] := by
  rw [trimChars_eq_rdropWhile, List.dropWhile_eq_nil_iff.2 h, List.rdropWhile_nil]

theorem trimChars_sublist (cs : List Char) : List.Sublist (trimChars cs) cs := by
  rw [trimChars_eq_rdropWhile]
  exact (List.rdropWhile_prefix isBlank _).sublist.trans (List.dropWhile_sublist _)

/-- Blank text behind is trimmed off. -/
theorem trimChars_append_blank (cs : List Char) {back : List Char} (hback : ∀ c ∈ back, isBlank c) :
    trimChars (cs ++ back) = trimChars cs := by
  have hreverse : ∀ c ∈ back.reverse, isBlank c := fun c hc => hback c (List.mem_reverse.1 hc)
  by_cases hcs : ∀ c ∈ cs, isBlank c
  · have hall : ∀ c ∈ cs ++ back, isBlank c := fun c hc =>
      (List.mem_append.1 hc).elim (hcs c) (hback c)
    rw [trimChars_of_blank hall, trimChars_of_blank hcs]
  · have hne : cs.dropWhile isBlank ≠ [] := fun hnil => hcs (List.dropWhile_eq_nil_iff.1 hnil)
    have hdrop : (cs ++ back).dropWhile isBlank = cs.dropWhile isBlank ++ back := by
      rw [List.dropWhile_append, if_neg (by simpa using hne)]
    rw [trimChars, hdrop, List.reverse_append, List.dropWhile_append_of_pos hreverse, trimChars]

/-- Trimming takes nothing out of a text that stands between visible characters. -/
theorem prefix_trimChars {front : List Char} (hhead : ∀ c ∈ front.head?, ¬ isBlank c)
    (hlast : ∀ c ∈ front.getLast?, ¬ isBlank c) (back : List Char) :
    front <+: trimChars (front ++ back) := by
  cases hfront : front with
  | nil => exact List.nil_prefix
  | cons d ds =>
    rw [← hfront]
    have hdrop : (front ++ back).dropWhile isBlank = front ++ back := by
      rw [hfront, List.cons_append, List.dropWhile_cons_of_neg (hhead d (by simp [hfront]))]
    have hself := trimChars_eq_self hhead hlast
    have hkept : front.dropWhile isBlank = front := by
      rw [hfront, List.dropWhile_cons_of_neg (hhead d (by simp [hfront]))]
    rw [trimChars, hkept] at hself
    rw [trimChars, hdrop, List.reverse_append, List.dropWhile_append]
    split
    · exact ⟨[], by rw [List.append_nil, hself]⟩
    · rw [List.reverse_append, List.reverse_reverse]
      exact List.prefix_append _ _

end Text

/-! ## Line ends -/

namespace Text

theorem bareFeeds_line {line : List Char} (h : '\n' ∉ line) (rest : List Char) :
    bareFeeds (line ++ '\r' :: '\n' :: rest) = line ++ '\n' :: bareFeeds rest := by
  induction line with
  | nil => rfl
  | cons c line ih =>
    have hline : '\n' ∉ line := fun hmem => h (List.mem_cons_of_mem _ hmem)
    have hnext : (line ++ '\r' :: '\n' :: rest).head? ≠ some '\n' := by
      cases line with
      | nil => simp
      | cons d line =>
        intro heq
        exact hline (by simp [Option.some.inj heq])
    rw [List.cons_append, bareFeeds_cons fun _ => hnext, ih hline]
    rfl

theorem bareFeeds_dropReturn {line : List Char} (h : '\n' ∉ line) (rest : List Char) :
    bareFeeds (line.reverse ++ '\n' :: rest) = (dropReturn line).reverse ++ '\n' :: bareFeeds rest := by
  have hreverse : '\n' ∉ line.reverse := by simpa using h
  unfold dropReturn
  split
  · rename_i line
    have hline : '\n' ∉ line.reverse := by
      intro hmem
      exact hreverse (by simp_all)
    rw [List.reverse_cons, List.append_assoc]
    exact bareFeeds_line hline rest
  · rename_i hlast
    have hlast : line.reverse.getLast? ≠ some '\r' := by
      rw [List.getLast?_reverse]
      intro heq
      obtain ⟨more, hmore⟩ := List.head?_eq_some_iff.1 heq
      exact hlast more hmore
    rw [bareFeeds_append hlast, bareFeeds_of_not_mem hreverse]

end Text

/-! ## What is found in a text -/

namespace History

open Statement Text

/-- The entries of a split text, and what is left without an end. -/
def trimmed (found : List String × String) : List String × Option String :=
  (found.1.map trim, if allBlank found.2 then none else some (trim found.2))

/-- The entries that the grammar finds in a text, and the tail that is left without an end. -/
def readIn (text : List Char) : List String × Option String :=
  trimmed (split true text)

/-- Everything that is found in a text. -/
def entriesIn (text : List Char) : List String :=
  (readIn text).1 ++ (readIn text).2.toList

theorem trimmed_left {kept : List Char} (hkept : Blank kept) {visible : List Char}
    (hvisible : ∀ c ∈ visible.head?, ¬ isBlank c) :
    trimmed ([], String.ofList (kept ++ visible)) =
      ([], if visible = [] then none else some (String.ofList (trimChars visible))) := by
  have htrim : trim (String.ofList (kept ++ visible)) = String.ofList (trimChars visible) := by
    rw [trim, String.toList_ofList, trimChars_append hkept]
  have hblank : allBlank (String.ofList (kept ++ visible)) ↔ visible = [] := by
    rw [allBlank, String.toList_ofList, List.all_eq_true]
    constructor
    · intro hall
      cases visible with
      | nil => rfl
      | cons c cs => exact absurd (hall c (by simp)) (hvisible c rfl)
    · rintro rfl
      rwa [List.append_nil]
  simp only [trimmed, htrim, hblank, List.map_nil]

theorem trimmed_cons {kept : List Char} (hkept : Blank kept) (statement : List Char)
    (found : List String × String) :
    trimmed (consStatement (kept ++ statement) found) =
      (String.ofList (trimChars statement) :: (trimmed found).1, (trimmed found).2) := by
  have htrim : trim (String.ofList (kept ++ statement)) = String.ofList (trimChars statement) := by
    rw [trim, String.toList_ofList, trimChars_append hkept]
  rw [trimmed, consStatement, List.map_cons, htrim]
  rfl

/-- `readIn` step by step, whether or not the text starts with a line. -/
theorem trimmed_split (lineStart : Bool) {blank visible : List Char} (hblank : Blank blank)
    (hvisible : ∀ c ∈ visible.head?, ¬ isBlank c) :
    trimmed (split lineStart (blank ++ visible)) =
      match cutStatement visible with
      | none => ([], if visible = [] then none else some (String.ofList (trimChars visible)))
      | some (statement, lineStart', rest) =>
        (String.ofList (trimChars statement) :: (trimmed (split lineStart' rest)).1,
          (trimmed (split lineStart' rest)).2) := by
  rw [split_eq lineStart hblank hvisible]
  cases hcut : cutStatement visible with
  | none =>
    refine trimmed_left ?_ hvisible
    split
    · exact blank_keptAtEnd lineStart hblank
    · exact blank_keptBefore lineStart hblank
  | some cut => exact trimmed_cons (blank_keptBefore lineStart hblank) _ _

/-- Where a line starts decides about blank text alone. -/
theorem trimmed_split_eq (lineStart : Bool) (text : List Char) :
    trimmed (split lineStart text) = readIn text := by
  obtain ⟨blank, visible, rfl, hblank, hvisible⟩ := exists_visible text
  rw [readIn, trimmed_split lineStart hblank hvisible, trimmed_split true hblank hvisible]

theorem readIn_eq {blank visible : List Char} (hblank : Blank blank)
    (hvisible : ∀ c ∈ visible.head?, ¬ isBlank c) :
    readIn (blank ++ visible) =
      match cutStatement visible with
      | none => ([], if visible = [] then none else some (String.ofList (trimChars visible)))
      | some (statement, _, rest) =>
        (String.ofList (trimChars statement) :: (readIn rest).1, (readIn rest).2) := by
  rw [readIn, trimmed_split true hblank hvisible]
  cases cutStatement visible with
  | none => rfl
  | some cut => simp only [trimmed_split_eq]

theorem readIn_blank_append {front : List Char} (hfront : Blank front) (text : List Char) :
    readIn (front ++ text) = readIn text := by
  obtain ⟨blank, visible, rfl, hblank, hvisible⟩ := exists_visible text
  rw [← List.append_assoc, readIn_eq (hfront.append hblank) hvisible, readIn_eq hblank hvisible]

theorem readIn_of_blank {text : List Char} (h : Blank text) : readIn text = ([], none) := by
  rw [← List.append_nil text, readIn_eq h (by simp)]
  simp [cutStatement, tokens, cutQuery]

theorem readIn_isEntry (text : List Char) : ∀ e ∈ (readIn text).1, IsEntry e.toList := by
  intro e he
  obtain ⟨statement, hs, rfl⟩ := List.mem_map.1 he
  rw [trim, String.toList_ofList]
  exact split_isEntry true text statement hs

/-- What is left without an end is a tail when it is trimmed. -/
theorem readIn_isTail (text : List Char) : ∀ tail ∈ (readIn text).2, IsTail tail.toList := by
  induction hn : text.length using Nat.strongRecOn generalizing text with
  | ind n ih =>
    obtain ⟨blank, visible, rfl, hblank, hvisible⟩ := exists_visible text
    rw [readIn_eq hblank hvisible]
    cases hcut : cutStatement visible with
    | none =>
      intro tail htail
      dsimp only at htail
      split at htail
      · cases htail
      · rename_i hne
        obtain rfl := Option.some.inj htail
        rw [String.toList_ofList]
        exact .of_endless hne hvisible hcut
    | some cut =>
      obtain ⟨statement, lineStart, rest⟩ := cut
      have hlen := cutStatement_length hcut
      rw [List.length_append] at hn
      exact ih rest.length (by omega) rest rfl

/-! ## Reading from the front -/

/-- An entry on lines of its own is found, and what follows is read as if it stood alone. -/
theorem readIn_entry {entry : List Char} (h : IsEntry entry) (text : List Char) :
    readIn (entry ++ '\n' :: text) =
      (String.ofList entry :: (readIn text).1, (readIn text).2) := by
  have hfeed : Blank ['\n'] := fun c hc => List.mem_singleton.1 hc ▸ rfl
  have hhead : ∀ c ∈ (entry ++ '\n' :: text).head?, ¬ isBlank c := by
    rw [List.head?_append_of_ne_nil _ h.ne_nil]
    exact h.head
  rw [← List.nil_append (entry ++ _), readIn_eq (by simp [Blank]) hhead]
  by_cases hcommand : entry.head? = some ':'
  · obtain ⟨line, rfl⟩ := List.head?_eq_some_iff.1 hcommand
    have hline := h.not_mem_command
    have hcut := Accumulator.lineOf_textFrom hline [String.ofList text]
    have hrest := Accumulator.fromLineEnd_textFrom hline [String.ofList text]
    simp only [Accumulator.textFrom, Accumulator.joined, List.flatMap_cons, List.flatMap_nil,
      List.append_nil, String.toList_ofList] at hcut hrest
    rw [List.cons_append, cutStatement, hcut, hrest]
    simp only [h.trim_eq]
  · obtain ⟨-, hmore⟩ := scan_local (h.scan_query hcommand)
    have hquery : (entry ++ '\n' :: text).head? ≠ some ':' := by
      rwa [List.head?_append_of_ne_nil _ h.ne_nil]
    have hrest : readIn ('\n' :: text) = readIn text := readIn_blank_append hfeed text
    rw [cutStatement_eq_scan hquery, hmore]
    simp only [Option.map_some, h.trim_eq, hrest]

theorem contents_toList (entries : List String) :
    (contents entries).toList = entries.flatMap fun e => e.toList ++ ['\n'] := by
  unfold contents
  induction entries with
  | nil => rfl
  | cons e entries ih => simp_all

theorem readIn_contents {entries : List String} (h : ∀ e ∈ entries, IsEntry e.toList)
    (text : List Char) :
    readIn ((contents entries).toList ++ text) =
      (entries ++ (readIn text).1, (readIn text).2) := by
  rw [contents_toList]
  induction entries with
  | nil => rfl
  | cons e entries ih =>
    have hentry := h e List.mem_cons_self
    rw [List.flatMap_cons, List.append_assoc, List.append_assoc, List.singleton_append,
      readIn_entry hentry, ih fun d hd => h d (List.mem_cons_of_mem _ hd), String.ofList_toList]
    rfl

/-- Entries that are stored are found, and nothing else. -/
theorem entriesIn_contents {entries : List String} (h : ∀ e ∈ entries, IsEntry e.toList) :
    entriesIn (contents entries).toList = entries := by
  have hfound := readIn_contents h []
  rw [List.append_nil, readIn_of_blank (by simp [Blank] : Blank [])] at hfound
  rw [entriesIn, hfound]
  simp

/-- Characters that are not in a text are in none of its entries. -/
theorem not_mem_entriesIn {text : List Char} {c : Char} (h : c ∉ text) :
    ∀ e ∈ entriesIn text, c ∉ e.toList := by
  obtain ⟨gaps, hcovers⟩ := split_covers true text
  have hleft : (split true text).2.toList <:+: text := by
    obtain ⟨-, -, heq⟩ := hcovers
    conv => rhs; rw [heq]
    exact (List.suffix_append _ _).isInfix
  have htrim {piece : String} (hpiece : piece.toList <:+: text) : c ∉ (trim piece).toList := by
    rw [trim, String.toList_ofList]
    exact fun hmem => h (hpiece.subset ((trimChars_sublist _).subset hmem))
  intro e he
  rcases List.mem_append.1 he with he | he
  · obtain ⟨statement, hs, rfl⟩ := List.mem_map.1 he
    exact htrim ( hcovers.infix hs)
  · have he : e ∈ (if allBlank (split true text).2 then none else some (trim (split true text).2)) :=
      Option.mem_toList.1 he
    split at he
    · cases he
    · obtain rfl := Option.some.inj he
      exact htrim hleft

/-! ## Blank text behind -/

/-- Behind a command blank text belongs to its line, or to what follows that. -/
theorem lineOf_append_blank {back : List Char} (hback : Blank back) (cs : List Char) :
    ∃ more, lineOf (cs ++ back) = lineOf cs ++ more ∧ Blank more ∧
      readIn ((fromLineEnd (cs ++ back)).drop 1) = readIn ((fromLineEnd cs).drop 1 ++ back) := by
  induction cs with
  | nil =>
    have hrest : Blank ((fromLineEnd back).drop 1) :=
      hback.of_sublist ((List.drop_sublist _ _).trans (List.dropWhile_sublist _))
    refine ⟨lineOf back, rfl, hback.of_sublist (List.takeWhile_sublist _), ?_⟩
    exact (readIn_of_blank hrest).trans (readIn_of_blank hback).symm
  | cons c cs ih =>
    by_cases hc : c = '\n'
    · subst hc
      exact ⟨[], rfl, by simp [Blank], rfl⟩
    · obtain ⟨more, hline, hmore, hrest⟩ := ih
      refine ⟨more, ?_, hmore, ?_⟩
      · simpa [lineOf, hc] using hline
      · simpa [fromLineEnd, hc] using hrest

/-- Blank text behind adds nothing. -/
theorem readIn_append_blank {back : List Char} (hback : Blank back) (text : List Char) :
    readIn (text ++ back) = readIn text := by
  have hendless : terminator ∉ back := fun hmem => absurd (hback _ hmem) (by decide)
  induction hn : text.length using Nat.strongRecOn generalizing text with
  | ind n ih =>
    obtain ⟨blank, visible, rfl, hblank, hvisible⟩ := exists_visible text
    cases hchars : visible with
    | nil =>
      rw [List.append_nil, readIn_of_blank hblank, readIn_of_blank (Blank.append hblank hback)]
    | cons c cs =>
      rw [hchars] at hn hvisible
      have hvisible' : ∀ d ∈ (c :: cs ++ back).head?, ¬ isBlank d := hvisible
      rw [List.append_assoc, readIn_eq hblank hvisible', readIn_eq hblank hvisible]
      have hshort {rest : List Char} (hlen : rest.length < (c :: cs).length) :
          readIn (rest ++ back) = readIn rest := by
        rw [List.length_append] at hn
        exact ih rest.length (by omega) rest rfl
      by_cases hc : c = ':'
      · subst hc
        obtain ⟨more, hline, hmore, hrest⟩ := lineOf_append_blank hback cs
        have hlen : ((fromLineEnd cs).drop 1).length < (':' :: cs).length := by
          have := fromLineEnd_length cs
          simp only [List.length_drop, List.length_cons]
          omega
        have htrim : trimChars (':' :: (lineOf cs ++ more)) = trimChars (':' :: lineOf cs) :=
          trimChars_append_blank (':' :: lineOf cs) hmore
        simp only [List.cons_append, cutStatement, hline, htrim, hrest, hshort hlen]
      · have hhead (more : List Char) : (c :: more).head? ≠ some ':' := by simpa using hc
        rw [List.cons_append, cutStatement_eq_scan (hhead _), cutStatement_eq_scan (hhead _)]
        cases hscan : scan 0 (.plain .nothing) (c :: cs) with
        | none =>
          obtain ⟨depth, mode, hmore⟩ := scan_goesOn hscan
          have htrim := trimChars_append_blank (c :: cs) hback
          rw [← List.cons_append, hmore, scan_of_not_mem hendless, htrim]
          rfl
        | some cut =>
          obtain ⟨query, rest⟩ := cut
          obtain ⟨heq, hmore⟩ := scan_local hscan
          have hpos : query ≠ [] := by
            rintro rfl
            cases scan_last hscan
          have hlen : rest.length < (c :: cs).length := by
            have := List.length_pos_iff.2 hpos
            rw [heq, List.length_append]
            omega
          rw [← List.cons_append, heq, List.append_assoc, hmore]
          simp only [Option.map_some, hshort hlen]

/-! ## Text behind a tail -/

/-- A tail with nothing behind it is found as it is. -/
theorem entriesIn_tail {tail : List Char} (h : IsTail tail) :
    entriesIn (tail ++ ['\n']) = [String.ofList tail] := by
  have hfeed : Blank ['\n'] := fun c hc => List.mem_singleton.1 hc ▸ rfl
  have hread := readIn_eq (by simp [Blank] : Blank []) h.head
  rw [h.endless, List.nil_append, h.trim_eq] at hread
  rw [entriesIn, readIn_append_blank hfeed, hread]
  simp [h.ne_nil]

/-- A tail takes in the line behind it, and so is no entry by itself any more. -/
theorem entriesIn_tail_merges {tail : List Char} (h : IsTail tail) {text : List Char} (htext : ¬ Blank text) :
    ∃ merged more, entriesIn (tail ++ '\n' :: text) = merged :: more ∧
      tail ++ ['\n'] <+: merged.toList := by
  have happend (more : List Char) : (tail ++ more).head? = tail.head? :=
    List.head?_append_of_ne_nil _ h.ne_nil
  -- what is cut off behind the line feed has the tail and the line feed in front of it
  have hkept {front : List Char} (hlast : ∀ c ∈ front.getLast?, ¬ isBlank c) (hne : front ≠ [])
      (back : List Char) :
      tail ++ ['\n'] <+: trimChars (tail ++ '\n' :: (front ++ back)) := by
    have hhead : ∀ c ∈ (tail ++ '\n' :: front).head?, ¬ isBlank c := by
      rw [happend]
      exact h.head
    have hend : (tail ++ '\n' :: front).getLast? = front.getLast? := by
      rw [← List.singleton_append, ← List.append_assoc, List.getLast?_append_of_ne_nil _ hne]
    have hprefix := prefix_trimChars hhead (hend ▸ hlast) back
    rw [List.append_assoc, List.cons_append] at hprefix
    refine List.IsPrefix.trans ⟨front, ?_⟩ hprefix
    simp
  have hhead : ∀ c ∈ (tail ++ '\n' :: text).head?, ¬ isBlank c := by
    rw [happend]
    exact h.head
  obtain ⟨depth, mode, hmore⟩ := scan_goesOn h.scan_eq
  obtain ⟨mode', hnext⟩ := Accumulator.next_lineFeed depth mode
  have hread := readIn_eq (by simp [Blank] : Blank []) hhead
  rw [cutStatement_eq_scan (by rw [happend]; exact h.not_command), hmore, scan_cons_some _ hnext,
    inFront_inFront, List.nil_append] at hread
  rw [entriesIn, hread]
  cases hscan : scan depth mode' text with
  | none =>
    obtain ⟨blank, visible, rfl, hblank, hvisible⟩ := exists_visible text
    cases visible with
    | nil => exact absurd (by rwa [List.append_nil]) htext
    | cons c cs =>
      have hlast : ∀ d ∈ (blank ++ [c]).getLast?, ¬ isBlank d := by
        rintro d hd
        obtain rfl : c = d := by simpa using hd
        exact hvisible c rfl
      have hprefix := hkept hlast (by simp) cs
      refine ⟨_, [], by simp [inFront]; rfl, ?_⟩
      simpa using hprefix
  | some cut =>
    obtain ⟨query, rest⟩ := cut
    have hlast := scan_last hscan
    have hprefix := @hkept query (by rw [hlast]; rintro c ⟨⟩; decide)
      (by rintro rfl; cases hlast) []
    refine ⟨_, _, rfl, ?_⟩
    simpa using hprefix

end History

/-! ## The accumulator reads what the grammar finds -/

namespace Statement.Accumulator

open Text

theorem next_pending {stage stage' : Stage} {c : Char} (h : stage.next c = some stage')
    (buffer buffer' : String) :
    hasPendingText { buffer := buffer', stage := stage' } =
      (hasPendingText { buffer, stage } || !isBlank c) := by
  cases stage with
  | blank fresh =>
    simp only [Stage.next] at h
    split at h
    · rename_i hc
      cases h
      simp [hasPendingText, hc]
    · rename_i hc
      split at h
      · cases h
        simp [hasPendingText, hc]
      · obtain ⟨_, -, rfl⟩ := Option.map_eq_some_iff.1 h
        simp [hasPendingText, hc]
  | command =>
    cases h
    rfl
  | query depth mode =>
    obtain ⟨_, -, rfl⟩ := Option.map_eq_some_iff.1 h
    rfl

/-- The buffer shows whether a statement is under way. -/
def Shows (a : Accumulator) : Prop :=
  a.hasPendingText = !allBlank a.buffer

theorem shows_empty (fresh : Bool) : Shows { stage := .blank fresh } := rfl

theorem Shows.push {a : Accumulator} (ha : a.Shows) (c : Char) : (a.push c).1.Shows := by
  unfold Accumulator.push
  split
  · rename_i stage hnext
    have hbuffer : allBlank (a.buffer.push c) = (allBlank a.buffer && isBlank c) := by
      simp [allBlank]
    have hpending := next_pending hnext a.buffer (a.buffer.push c)
    show hasPendingText _ = !allBlank (a.buffer.push c)
    rw [hpending, hbuffer, Bool.not_and, ← ha]
  · exact shows_empty false

theorem Shows.pushAll {a : Accumulator} (ha : a.Shows) (cs : List Char) :
    (a.pushAll cs).1.Shows := by
  induction cs generalizing a with
  | nil => exact ha
  | cons c cs ih => exact ih (ha.push c)

theorem Shows.joinLine {a : Accumulator} (ha : a.Shows) : a.joinLine.1.Shows := by
  unfold Accumulator.joinLine
  split
  · rename_i hstage
    have hblank : a.hasPendingText = false := by simp [hasPendingText, hstage]
    rw [Shows, hblank] at ha
    exact ha
  · exact ha.push '\n'

theorem Shows.feedLine {a : Accumulator} (ha : a.Shows) (line : String) :
    (a.feedLine line).1.Shows := by
  unfold Accumulator.feedLine
  split
  · exact shows_empty true
  · have hline := ha.joinLine.pushAll line.toList
    show (endLine _).1.Shows
    unfold endLine
    split
    · exact shows_empty true
    · exact hline

theorem Shows.feedLines {a : Accumulator} (ha : a.Shows) (lines : List String) :
    (a.feedLines lines).1.Shows := by
  induction lines generalizing a with
  | nil => exact ha
  | cons line lines ih => exact ih (ha.feedLine line)

end Statement.Accumulator

namespace History

open Statement Statement.Accumulator Text

theorem linesFrom_ne_nil {line text : List Char} (h : line ++ text ≠ []) :
    linesFrom line text ≠ [] := by
  fun_induction linesFrom line text with
  | case1 line hline => simp_all
  | case2 line hline => simp
  | case3 line rest ih => simp
  | case4 line c rest hc ih => exact ih (by simp)

/-- The physical lines of a text, one below the other, are the text without its carriage returns
before line feeds; a line feed at the very end is lost. -/
theorem joined_linesFrom {line : List Char} (h : '\n' ∉ line) (text : List Char) :
    bareFeeds (line.reverse ++ text) = joined ((linesFrom line text).map String.ofList) ∨
      bareFeeds (line.reverse ++ text) =
        joined ((linesFrom line text).map String.ofList) ++ ['\n'] := by
  fun_induction linesFrom line text with
  | case1 line hline =>
    left
    simp only [List.isEmpty_iff] at hline
    simp [hline, joined, bareFeeds]
  | case2 line hline =>
    left
    have hreverse : '\n' ∉ line.reverse := by simpa using h
    simp [joined, textFrom, bareFeeds_of_not_mem hreverse]
  | case3 line rest ih =>
    have ih := ih List.not_mem_nil
    rw [List.reverse_nil, List.nil_append] at ih
    rw [bareFeeds_dropReturn h]
    cases rest with
    | nil =>
      right
      simp [linesFrom, bareFeeds, joined, textFrom]
    | cons c rest =>
      obtain ⟨l, lines, hlines⟩ := List.exists_cons_of_ne_nil
        (show linesFrom [] (c :: rest) ≠ [] from linesFrom_ne_nil (by simp))
      rw [hlines] at ih ⊢
      refine ih.imp (fun ih => ?_) fun ih => ?_ <;> rw [ih] <;> simp [joined, textFrom]
  | case4 line c rest hc ih =>
    have hmem : '\n' ∉ c :: line := by
      rw [List.mem_cons, not_or]
      exact ⟨Ne.symm hc, h⟩
    simpa using ih hmem

theorem readIn_physicalLines (text : String) :
    readIn (joined (physicalLines text)) = readIn (bareFeeds text.toList) := by
  unfold physicalLines
  split
  · rename_i hempty
    rw [String.isEmpty_iff.1 hempty]
    rfl
  · have hjoined := joined_linesFrom List.not_mem_nil text.toList
    have hfeed : Blank ['\n'] := fun c hc => List.mem_singleton.1 hc ▸ rfl
    rw [List.reverse_nil, List.nil_append] at hjoined
    rcases hjoined with heq | heq
    · rw [heq, lines]
    · rw [heq, readIn_append_blank hfeed, lines]

/-- A stored text is read by the grammar. -/
theorem ofContents_eq (text : String) : ofContents text = entriesIn (bareFeeds text.toList) := by
  have hlines := feedLines_eq_split (not_mem_physicalLines text)
  rw [← feed_eq_feedLines] at hlines
  have hshows : (empty.feed text).1.Shows := by
    rw [feed_eq_feedLines]
    exact (shows_empty true).feedLines _
  have hstatements := congrArg Prod.fst hlines
  have hrest := congrArg Prod.snd hlines
  rw [entriesIn, ← readIn_physicalLines, readIn, trimmed, ← hstatements, ← hrest]
  have hpending : (empty.feed text).1.hasPendingText = !allBlank (empty.feed text).1.buffer := hshows
  simp only [report, ofContents, hpending]
  by_cases hblank : allBlank (empty.feed text).1.buffer <;> simp [hblank]

end History

end QueryShell
