import QueryShell.Proofs.Statement.Covering
import QueryShell.Proofs.Statement.Splitting
import Mathlib.Data.List.DropRight

/-
Statements without the blank text around them. Every statement that the grammar cuts off becomes an
entry when it is trimmed: where it ends does not depend on what follows it. Taking out the carriage
returns in front of line feeds changes nothing of this, since the two characters take the machine
where the line feed alone takes it.
-/
namespace QueryShell

namespace Text

/-! ## Trimming -/

theorem trimChars_eq_rdropWhile (cs : List Char) :
    trimChars cs = (cs.dropWhile isBlank).rdropWhile isBlank := rfl

/-- Blank text in front is trimmed off. -/
theorem trimChars_append {front : List Char} (hfront : ∀ c ∈ front, isBlank c) (cs : List Char) :
    trimChars (front ++ cs) = trimChars cs := by
  rw [trimChars_eq_rdropWhile, List.dropWhile_append_of_pos hfront, trimChars_eq_rdropWhile]

theorem trimChars_last (cs : List Char) : ∀ c ∈ (trimChars cs).getLast?, ¬ isBlank c := by
  intro c hc
  obtain ⟨hne, rfl⟩ := List.mem_getLast?_eq_getLast hc
  exact List.rdropWhile_last_not isBlank _ hne

/-- A visible first character stays, with some of what follows it. -/
theorem trimChars_cons {c : Char} (hc : ¬ isBlank c) (cs : List Char) :
    ∃ kept, trimChars (c :: cs) = c :: kept ∧ kept <+: cs := by
  rw [trimChars_eq_rdropWhile, List.dropWhile_cons_of_neg hc]
  have hprefix := List.rdropWhile_prefix isBlank (l := c :: cs)
  cases hkept : (c :: cs).rdropWhile isBlank with
  | nil =>
    rw [List.rdropWhile_eq_nil_iff] at hkept
    exact absurd (hkept c List.mem_cons_self) hc
  | cons d kept =>
    rw [hkept] at hprefix
    obtain ⟨rfl, hfront⟩ := List.cons_prefix_cons.1 hprefix
    exact ⟨kept, rfl, hfront⟩

/-- Text with nothing blank at its ends is left as it is. -/
theorem trimChars_eq_self {cs : List Char} (hhead : ∀ c ∈ cs.head?, ¬ isBlank c)
    (hlast : ∀ c ∈ cs.getLast?, ¬ isBlank c) : trimChars cs = cs := by
  rw [trimChars_eq_rdropWhile]
  cases cs with
  | nil => rfl
  | cons c cs =>
    rw [List.dropWhile_cons_of_neg (hhead c rfl), List.rdropWhile_eq_self_iff]
    intro hne
    exact hlast _ (List.getLast?_eq_some_getLast hne)

/-! ## Line ends -/

/-- The text with every carriage return before a line feed taken out. -/
def bareFeeds : List Char → List Char
  | '\r' :: '\n' :: rest => '\n' :: bareFeeds rest
  | c :: rest => c :: bareFeeds rest
  | [] => []

theorem bareFeeds_cons {c : Char} {cs : List Char} (h : c = '\r' → cs.head? ≠ some '\n') :
    bareFeeds (c :: cs) = c :: bareFeeds cs := by
  rw [bareFeeds]
  rintro rest rfl rfl
  exact h rfl rfl

theorem bareFeeds_length_le (cs : List Char) : (bareFeeds cs).length ≤ cs.length := by
  fun_induction bareFeeds cs <;> simp_all
  omega

/-- Nothing is taken out of a text exactly if no line feed in it stands behind a carriage return. -/
theorem bareFeeds_eq_self_iff (cs : List Char) :
    bareFeeds cs = cs ↔ ¬ ['\r', '\n'] <:+: cs := by
  fun_induction bareFeeds cs with
  | case1 rest =>
    have hlen := bareFeeds_length_le rest
    constructor
    · intro heq
      have := congrArg List.length heq
      simp only [List.length_cons] at this
      omega
    · intro hno
      exact absurd ⟨[], rest, rfl⟩ hno
  | case2 c rest hpair ih =>
    have hfront : ¬ ['\r', '\n'] <+: c :: rest := by
      rintro ⟨more, hmore⟩
      simp only [List.cons_append, List.nil_append, List.cons.injEq] at hmore
      exact hpair more hmore.1.symm hmore.2.symm
    rw [List.infix_cons_iff, List.cons.injEq, ih]
    simp [hfront]
  | case3 => simp

theorem bareFeeds_of_not_mem {cs : List Char} (h : '\n' ∉ cs) : bareFeeds cs = cs := by
  rw [bareFeeds_eq_self_iff]
  intro hpair
  exact h (hpair.subset (by simp))

theorem bareFeeds_head {cs : List Char} (hhead : cs.head? ≠ some '\r') :
    (bareFeeds cs).head? = cs.head? := by
  cases cs with
  | nil => rfl
  | cons c cs =>
    have hc : c ≠ '\r' := by simpa using hhead
    rw [bareFeeds_cons fun h => absurd h hc]
    rfl

/-- Text that does not end in a carriage return can be followed by a line feed. -/
theorem bareFeeds_append {cs : List Char} (hlast : cs.getLast? ≠ some '\r') (rest : List Char) :
    bareFeeds (cs ++ '\n' :: rest) = bareFeeds cs ++ '\n' :: bareFeeds rest := by
  fun_induction bareFeeds cs with
  | case1 more ih =>
    have hmore : more.getLast? ≠ some '\r' := by
      intro h
      exact hlast (by simp [List.getLast?_cons, h])
    simp [bareFeeds, ih hmore]
  | case2 c more hpair ih =>
    cases more with
    | nil =>
      have hc : c ≠ '\r' := by simpa using hlast
      simp [bareFeeds_cons fun h => absurd h hc, @bareFeeds_cons '\n' rest, bareFeeds]
    | cons d more =>
      have hc : c = '\r' → (d :: more ++ '\n' :: rest).head? ≠ some '\n' := by
        rintro rfl hd
        obtain rfl : d = '\n' := by simpa using hd
        exact hpair more rfl rfl
      rw [List.cons_append, bareFeeds_cons hc, ih (by simpa using hlast)]
      rfl
  | case3 => exact bareFeeds_cons (by simp)

end Text

namespace Statement

open Text

/-! ## A query is cut off by itself -/

/-- What a query that was cut off says of its text: it is the front of it, and it would be cut off
in the same way in front of anything else. -/
theorem scan_local {depth : Nat} {mode : Mode} {cs query rest : List Char}
    (h : scan depth mode cs = some (query, rest)) :
    cs = query ++ rest ∧ ∀ more, scan depth mode (query ++ more) = some (query, more) := by
  induction cs generalizing depth mode query with
  | nil => simp [scan] at h
  | cons c cs ih =>
    cases hnext : mode.next depth c with
    | none =>
      rw [scan_cons_none _ hnext] at h
      obtain ⟨rfl, rfl⟩ := Prod.mk.inj (Option.some.inj h)
      exact ⟨rfl, fun more => scan_cons_none _ hnext⟩
    | some next =>
      obtain ⟨depth', mode'⟩ := next
      rw [scan_cons_some _ hnext] at h
      obtain ⟨query', hquery, rfl⟩ := inFront_eq_some h
      obtain ⟨rfl, hmore⟩ := ih hquery
      refine ⟨rfl, fun more => ?_⟩
      rw [List.append_assoc, List.singleton_append, scan_cons_some _ hnext, hmore more]
      rfl

/-- Only a terminator ends a query. -/
theorem next_none {depth : Nat} {mode : Mode} {c : Char} (h : mode.next depth c = none) :
    c = terminator := by
  have hcount : countBracket depth c = none → c = terminator := by
    unfold countBracket
    split_ifs <;> simp_all
  cases mode with
  | plain look =>
    simp only [Mode.next, Look.next] at h
    split_ifs at h <;> simp_all
  | quoted close escaped =>
    simp only [Mode.next] at h
    split_ifs at h
  | lineComment => simp [Mode.next] at h
  | blockComment afterStar => simp [Mode.next] at h

theorem scan_last {depth : Nat} {mode : Mode} {cs query rest : List Char}
    (h : scan depth mode cs = some (query, rest)) : query.getLast? = some terminator := by
  induction cs generalizing depth mode query with
  | nil => simp [scan] at h
  | cons c cs ih =>
    cases hnext : mode.next depth c with
    | none =>
      rw [scan_cons_none _ hnext] at h
      obtain ⟨rfl, rfl⟩ := Prod.mk.inj (Option.some.inj h)
      rw [next_none hnext]
      rfl
    | some next =>
      rw [scan_cons_some _ hnext] at h
      obtain ⟨query', hquery, rfl⟩ := inFront_eq_some h
      simp [List.getLast?_cons, ih hquery]

theorem cutStatement_eq_scan {cs : List Char} (h : cs.head? ≠ some ':') :
    cutStatement cs =
      (scan 0 (.plain .nothing) cs).map fun (query, rest) => (query, false, rest) := by
  rw [cutStatement_query h, scan_eq_cutQuery, restText, Option.map_map]
  rfl

/-! ## Carriage returns -/

/-- No literal is closed by a line end. -/
def Mode.Sound : Mode → Prop
  | .quoted close _ => isQuote close
  | _ => True

theorem Mode.Sound.next {depth depth' : Nat} {mode mode' : Mode} {c : Char} (hmode : mode.Sound)
    (h : mode.next depth c = some (depth', mode')) : mode'.Sound := by
  have hplain : ∀ {depth? : Option Nat},
      depth?.map (·, Mode.plain .nothing) = some (depth', mode') → mode'.Sound := by
    intro depth? h
    obtain ⟨_, -, heq⟩ := Option.map_eq_some_iff.1 h
    cases heq
    trivial
  cases mode with
  | plain look =>
    simp only [Mode.next, Look.next] at h
    split at h
    · exact hplain h
    split at h
    · cases h
      trivial
    split at h
    · -- only here a literal is opened, by the quote that will close it
      rename_i hquote
      cases h
      exact hquote
    split at h
    · cases h
      split <;> trivial
    split at h
    · cases h
      trivial
    · exact hplain h
  | quoted close escaped =>
    simp only [Mode.next] at h
    split at h
    · cases h
      exact hmode
    split at h
    · cases h
      exact hmode
    split at h
    · cases h
      trivial
    · cases h
      exact hmode
  | lineComment =>
    cases h
    split <;> trivial
  | blockComment afterStar =>
    cases h
    split <;> trivial

/-- A carriage return and a line feed take the machine where the line feed alone takes it. -/
theorem next_returnFeed (depth : Nat) {mode : Mode} (hmode : mode.Sound) :
    ∃ between after, mode.next depth '\r' = some (depth, between) ∧
      between.next depth '\n' = some (depth, after) ∧ mode.next depth '\n' = some (depth, after) := by
  cases mode with
  | plain look => cases look <;> exact ⟨_, _, rfl, rfl, rfl⟩
  | quoted close escaped =>
    have hreturn : '\r' ≠ close := by
      rintro rfl
      cases hmode
    have hfeed : '\n' ≠ close := by
      rintro rfl
      cases hmode
    cases escaped <;> simp [Mode.next, hreturn, hfeed]
  | lineComment => exact ⟨_, _, rfl, rfl, rfl⟩
  | blockComment afterStar => cases afterStar <;> exact ⟨_, _, rfl, rfl, rfl⟩

/-- A query without its carriage returns before line feeds ends where it ended with them. -/
theorem scan_bareFeeds {depth : Nat} {mode : Mode} (hmode : mode.Sound) {cs : List Char}
    (h : scan depth mode cs = some (cs, [])) :
    scan depth mode (bareFeeds cs) = some (bareFeeds cs, []) := by
  -- by the length of the query: a carriage return goes together with the line feed behind it
  fun_induction bareFeeds cs generalizing depth mode with
  | case1 rest ih =>
    obtain ⟨between, after, hreturn, hfeed, hboth⟩ := next_returnFeed depth hmode
    rw [scan_cons_some _ hreturn, scan_cons_some _ hfeed, inFront_inFront] at h
    obtain ⟨query, hquery, heq⟩ := inFront_eq_some h
    obtain rfl : rest = query := by simpa using heq
    rw [scan_cons_some _ hboth, ih (hmode.next hboth) hquery]
    rfl
  | case2 c rest _ ih =>
    cases hnext : mode.next depth c with
    | none =>
      rw [scan_cons_none _ hnext] at h
      obtain ⟨-, rfl⟩ := Prod.mk.inj (Option.some.inj h)
      exact scan_cons_none _ hnext
    | some next =>
      obtain ⟨depth', mode'⟩ := next
      rw [scan_cons_some _ hnext] at h
      obtain ⟨query, hquery, heq⟩ := inFront_eq_some h
      obtain rfl : rest = query := by simpa using heq
      rw [scan_cons_some _ hnext, ih (hmode.next hnext) hquery]
      rfl
  | case3 => simp [scan] at h

/-! ## Entries -/

/-- A statement without blank text around it. -/
structure IsEntry (entry : List Char) : Prop where
  head : ∀ c ∈ entry.head?, ¬ isBlank c
  last : ∀ c ∈ entry.getLast?, ¬ isBlank c
  /-- The whole text is one statement. -/
  whole : ∃ lineStart, cutStatement entry = some (entry, lineStart, [])

namespace IsEntry

theorem trim_eq {entry : List Char} (h : IsEntry entry) : trimChars entry = entry :=
  trimChars_eq_self h.head h.last

theorem ne_nil {entry : List Char} (h : IsEntry entry) : entry ≠ [] := by
  obtain ⟨_, hcut⟩ := h.whole
  exact (cutStatement_append hcut).1

/-- A command is one line. -/
theorem not_mem_command {line : List Char} (h : IsEntry (':' :: line)) : '\n' ∉ line := by
  obtain ⟨lineStart, hcut⟩ := h.whole
  obtain ⟨hline, -⟩ := Prod.mk.inj (Option.some.inj hcut)
  have hline : lineOf line = line := by simpa using hline
  intro hmem
  have hall := List.takeWhile_eq_self_iff.1 hline
  simpa using hall '\n' hmem

theorem scan_query {entry : List Char} (h : IsEntry entry) (hcommand : entry.head? ≠ some ':') :
    scan 0 (.plain .nothing) entry = some (entry, []) := by
  obtain ⟨lineStart, hcut⟩ := h.whole
  rw [cutStatement_eq_scan hcommand] at hcut
  obtain ⟨⟨query, rest⟩, hscan, heq⟩ := Option.map_eq_some_iff.1 hcut
  obtain ⟨rfl, -, rfl⟩ : query = entry ∧ _ ∧ rest = [] := by simpa using heq
  exact hscan

theorem command {line : List Char} (hline : '\n' ∉ line)
    (hlast : ∀ c ∈ (':' :: line).getLast?, ¬ isBlank c) : IsEntry (':' :: line) where
  head := by
    rintro c ⟨⟩
    decide
  last := hlast
  whole := by
    have hnone := Accumulator.lineOf_textFrom hline []
    have hrest := Accumulator.fromLineEnd_textFrom hline []
    simp only [Accumulator.textFrom, List.flatMap_nil, List.append_nil] at hnone hrest
    exact ⟨true, by simp [cutStatement, hnone, hrest, Accumulator.joined]⟩

theorem query {entry : List Char} (hhead : ∀ c ∈ entry.head?, ¬ isBlank c)
    (hcommand : entry.head? ≠ some ':') (hscan : scan 0 (.plain .nothing) entry = some (entry, [])) :
    IsEntry entry where
  head := hhead
  last := by
    rw [scan_last hscan]
    rintro c ⟨⟩
    decide
  whole := ⟨false, by rw [cutStatement_eq_scan hcommand, hscan]; rfl⟩

/-- A statement that was cut off becomes an entry when it is trimmed. -/
theorem of_cutStatement {cs statement rest : List Char} {lineStart : Bool}
    (hvisible : ∀ c ∈ cs.head?, ¬ isBlank c)
    (h : cutStatement cs = some (statement, lineStart, rest)) : IsEntry (trimChars statement) := by
  by_cases hcommand : cs.head? = some ':'
  · obtain ⟨line, rfl⟩ := List.head?_eq_some_iff.1 hcommand
    obtain ⟨rfl, -⟩ := Prod.mk.inj (Option.some.inj h)
    have hlast := trimChars_last (':' :: lineOf line)
    obtain ⟨kept, hkept, hfront⟩ := trimChars_cons (by decide : ¬ isBlank ':') (lineOf line)
    rw [hkept] at hlast ⊢
    refine command (fun hmem => ?_) hlast
    simpa using List.mem_takeWhile_imp (hfront.subset hmem)
  · rw [cutStatement_eq_scan hcommand] at h
    obtain ⟨⟨query', rest'⟩, hscan, heq⟩ := Option.map_eq_some_iff.1 h
    obtain ⟨rfl, -, rfl⟩ : query' = statement ∧ _ ∧ rest' = rest := by simpa using heq
    obtain ⟨rfl, hmore⟩ := scan_local hscan
    have hlast := scan_last hscan
    -- a query begins where its text does, and there is no empty query
    have hhead : (query' ++ rest').head? = query'.head? := by
      cases query' with
      | nil => cases hlast
      | cons c cs => rfl
    rw [hhead] at hvisible hcommand
    have hentry := query hvisible hcommand (by simpa using hmore [])
    rwa [hentry.trim_eq]

/-- Entries are entries without their carriage returns before line feeds too. -/
theorem bareFeeds {entry : List Char} (h : IsEntry entry) : IsEntry (bareFeeds entry) := by
  by_cases hcommand : entry.head? = some ':'
  · obtain ⟨line, rfl⟩ := List.head?_eq_some_iff.1 hcommand
    have hmem : '\n' ∉ ':' :: line := by simpa using h.not_mem_command
    rwa [bareFeeds_of_not_mem hmem]
  · have hreturn : entry.head? ≠ some '\r' := by
      intro heq
      exact h.head '\r' heq (by decide)
    have hhead := bareFeeds_head hreturn
    have hplain : (Mode.plain .nothing).Sound := trivial
    refine query ?_ ?_ (scan_bareFeeds hplain (h.scan_query hcommand))
    · rw [hhead]
      exact h.head
    · rwa [hhead]

theorem last_ne_return {entry : List Char} (h : IsEntry entry) : entry.getLast? ≠ some '\r' := by
  intro heq
  exact h.last '\r' heq (by decide)

end IsEntry

/-- What a statement keeps of the blank text in front of it is blank. -/
theorem blank_keptBefore (lineStart : Bool) {blank : List Char} (hblank : Blank blank) :
    Blank (keptBefore lineStart blank) := by
  obtain ⟨gap, hgap⟩ := exists_gap_keptBefore lineStart blank
  have hsub := List.sublist_append_right gap (keptBefore lineStart blank)
  rw [hgap] at hsub
  exact hblank.of_sublist hsub

theorem blank_keptAtEnd (lineStart : Bool) {blank : List Char} (hblank : Blank blank) :
    Blank (keptAtEnd lineStart blank) := by
  obtain ⟨gap, hgap⟩ := exists_gap_keptAtEnd lineStart blank
  have hsub := List.sublist_append_right gap (keptAtEnd lineStart blank)
  rw [hgap] at hsub
  exact hblank.of_sublist hsub

/-- All statements of a split text become entries. -/
theorem split_isEntry (lineStart : Bool) (text : List Char) :
    ∀ s ∈ (split lineStart text).1, IsEntry (trimChars s.toList) := by
  induction hn : text.length using Nat.strongRecOn generalizing lineStart text with
  | ind n ih =>
    obtain ⟨blank, visible, rfl, hblank, hvisible⟩ := exists_visible text
    rw [split_eq lineStart hblank hvisible]
    cases hcut : cutStatement visible with
    | none =>
      intro s hs
      cases hs
    | some cut =>
      obtain ⟨statement, lineStart', rest⟩ := cut
      have hlen := cutStatement_length hcut
      intro s hs
      rcases List.mem_cons.1 hs with rfl | hs
      · rw [String.toList_ofList, trimChars_append (blank_keptBefore lineStart hblank)]
        exact .of_cutStatement hvisible hcut
      · rw [List.length_append] at hn
        exact ih rest.length (by omega) lineStart' rest rfl s hs

end Statement

end QueryShell
