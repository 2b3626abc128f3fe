import QueryShell.Proofs.History.RoundTrip

/-
Going on with a stored history. A file is opened, what is typed is appended, and all of it is saved
and opened again. As long as every stored statement has an end, the same history comes back. A tail
without an end is an entry in memory, but the file has no mark that ends it: the next statement that
is appended becomes one text with it.
-/
namespace QueryShell

open Statement

/-! ## Characters that are not there -/

namespace Text

theorem mem_linesFrom {line text l : List Char} {c : Char} (hl : l ∈ linesFrom line text)
    (hc : c ∈ l) : c ∈ line ∨ c ∈ text := by
  fun_induction linesFrom line text with
  | case1 line hline => cases hl
  | case2 line hline =>
    rw [List.mem_singleton.1 hl] at hc
    exact .inl (List.mem_reverse.1 hc)
  | case3 line rest ih =>
    rcases List.mem_cons.1 hl with rfl | hl
    · exact .inl ((dropReturn_sublist line).subset (List.mem_reverse.1 hc))
    · exact .inr (List.mem_cons_of_mem _ ((ih hl).resolve_left List.not_mem_nil))
  | case4 line d rest hd ih =>
    rcases ih hl with hmem | hmem
    · exact (List.mem_cons.1 hmem).elim (fun heq => .inr (heq ▸ List.mem_cons_self)) .inl
    · exact .inr (List.mem_cons_of_mem _ hmem)

end Text

namespace Statement

theorem Accumulator.mem_physicalLines {text line : String} {c : Char}
    (hline : line ∈ physicalLines text) (hc : c ∈ line.toList) : c ∈ text.toList := by
  unfold physicalLines at hline
  split at hline
  · rw [List.mem_singleton.1 hline] at hc
    cases hc
  · obtain ⟨l, hl, rfl⟩ := List.mem_map.1 hline
    rw [String.toList_ofList] at hc
    exact (Text.mem_linesFrom hl hc).resolve_left List.not_mem_nil

theorem Accumulator.mem_joined {lines : List String} {c : Char} (h : c ∈ joined lines) :
    c = '\n' ∨ ∃ line ∈ lines, c ∈ line.toList := by
  cases lines with
  | nil => cases h
  | cons line lines =>
    rcases List.mem_append.1 h with hmem | hmem
    · exact .inr ⟨line, List.mem_cons_self, hmem⟩
    · obtain ⟨l, hl, hmem⟩ := List.mem_flatMap.1 hmem
      exact (List.mem_cons.1 hmem).imp_right fun hmem => ⟨l, List.mem_cons_of_mem _ hl, hmem⟩

theorem mem_segments {typed : List Typed} {texts : List String} (htexts : texts ∈ segments typed) :
    ∀ text ∈ texts, .line text ∈ typed := by
  induction typed generalizing texts with
  | nil =>
    rw [List.mem_singleton.1 htexts]
    simp
  | cons t typed ih =>
    obtain ⟨first, more, hsegments⟩ := exists_segments typed
    rw [hsegments] at ih
    intro text htext
    cases t with
    | line text' =>
      rw [segments, hsegments, List.modifyHead_cons] at htexts
      rcases List.mem_cons.1 htexts with rfl | hmore
      · rcases List.mem_cons.1 htext with rfl | htext
        · exact List.mem_cons_self
        · exact List.mem_cons_of_mem _ (ih List.mem_cons_self text htext)
      · exact List.mem_cons_of_mem _ (ih (List.mem_cons_of_mem _ hmore) text htext)
    | giveUp =>
      rw [segments, hsegments] at htexts
      rcases List.mem_cons.1 htexts with rfl | hmore
      · cases htext
      · exact List.mem_cons_of_mem _ (ih hmore text htext)

/-- But for line feeds the completed statements have no character that was not typed. -/
theorem not_mem_completed {typed : List Typed} {c : Char} (hfeed : c ≠ '\n')
    (htyped : ∀ text, .line text ∈ typed → c ∉ text.toList) :
    ∀ s ∈ completed typed, c ∉ s.toList := by
  intro s hs hc
  obtain ⟨texts, htexts, hs⟩ := List.mem_flatMap.1 hs
  obtain ⟨-, hpieces, -⟩ := Accumulator.feedTexts_covers texts
  rcases Accumulator.mem_joined ((hpieces s hs).subset hc) with heq | ⟨line, hline, hc⟩
  · exact hfeed heq
  · obtain ⟨text, htext, hline⟩ := List.mem_flatMap.1 hline
    exact htyped text (mem_segments htexts text htext) (Accumulator.mem_physicalLines hline hc)

/-- All completed statements are recorded as entries. -/
theorem isEntry_of_completed (typed : List Typed) :
    ∀ e ∈ (completed typed).map Text.trim, IsEntry e.toList := by
  intro e he
  obtain ⟨statement, hmem, rfl⟩ := List.mem_map.1 he
  rw [Text.trim, String.toList_ofList]
  exact completed_isEntry typed statement hmem

/-- What is recorded has no character that was not typed, either. -/
theorem not_mem_recorded {typed : List Typed} {c : Char} (hfeed : c ≠ '\n')
    (htyped : ∀ text, .line text ∈ typed → c ∉ text.toList) :
    ∀ e ∈ (completed typed).map Text.trim, c ∉ e.toList := by
  intro e he
  obtain ⟨statement, hmem, rfl⟩ := List.mem_map.1 he
  rw [Text.trim, String.toList_ofList]
  exact fun hc => not_mem_completed hfeed htyped statement hmem ((Text.trimChars_sublist _).subset hc)

end Statement

namespace History

theorem ofContents_of_returnless {text : String} (h : '\r' ∉ text.toList) :
    ofContents text = entriesIn text.toList := by
  have hpair : ¬ ['\r', '\n'] <:+: text.toList := fun hpair => h (hpair.subset (by simp))
  rw [ofContents_eq, (Text.bareFeeds_eq_self_iff _).2 hpair]

theorem not_mem_contents {entries : List String} {c : Char} (hfeed : c ≠ '\n')
    (h : ∀ e ∈ entries, c ∉ e.toList) : c ∉ (contents entries).toList := by
  rw [contents_toList]
  intro hmem
  obtain ⟨e, he, hc⟩ := List.mem_flatMap.1 hmem
  rcases List.mem_append.1 hc with hc | hc
  · exact h e he hc
  · exact hfeed (List.mem_singleton.1 hc)

/-! ## Entries behind a stored text -/

theorem contents_append (front back : List String) :
    (contents (front ++ back)).toList = (contents front).toList ++ (contents back).toList := by
  simp only [contents_toList, List.flatMap_append]

/-- Stored entries behind a tail: they come back exactly if there are none. -/
theorem entriesIn_behindTail {whole : List String} {tail : String} {entries : List String}
    (hwhole : ∀ e ∈ whole, IsEntry e.toList) (htail : IsTail tail.toList)
    (hentries : ∀ e ∈ entries, IsEntry e.toList) :
    (entriesIn (contents (whole ++ [tail] ++ entries)).toList = whole ++ [tail] ++ entries ↔
      entries = []) ∧
    (entries ≠ [] → ∃ merged more,
      entriesIn (contents (whole ++ [tail] ++ entries)).toList = whole ++ merged :: more ∧
        tail.toList ++ ['\n'] <+: merged.toList) := by
  have hsplit : entriesIn (contents (whole ++ [tail] ++ entries)).toList =
      whole ++ entriesIn (tail.toList ++ '\n' :: (contents entries).toList) := by
    have hread := readIn_contents hwhole (contents ([tail] ++ entries)).toList
    rw [List.append_assoc, contents_append, entriesIn, hread, contents_append]
    simp [entriesIn, contents_toList]
  rw [hsplit]
  have hmerges (hne : entries ≠ []) : ∃ merged more,
      entriesIn (tail.toList ++ '\n' :: (contents entries).toList) = merged :: more ∧
        tail.toList ++ ['\n'] <+: merged.toList := by
    obtain ⟨e, more, rfl⟩ := List.exists_cons_of_ne_nil hne
    have hentry := hentries e List.mem_cons_self
    refine entriesIn_tail_merges htail fun hblank => ?_
    obtain ⟨c, cs, hchars⟩ := List.exists_cons_of_ne_nil hentry.ne_nil
    refine hentry.head c (by rw [hchars]; rfl) (hblank c ?_)
    simp [contents_toList, hchars]
  refine ⟨⟨fun hsame => ?_, ?_⟩, fun hne => ?_⟩
  · -- a tail that has merged is longer than it was
    by_contra hne
    obtain ⟨merged, more, hread, hprefix⟩ := hmerges hne
    rw [hread, List.append_assoc, List.append_cancel_left_eq, List.singleton_append] at hsame
    have hlen := hprefix.length_le
    rw [(List.cons.inj hsame).1, List.length_append, List.length_singleton] at hlen
    omega
  · rintro rfl
    have hempty : (contents []).toList = [] := rfl
    rw [hempty, entriesIn_tail htail, String.ofList_toList, List.append_nil]
  · obtain ⟨merged, more, hread, hprefix⟩ := hmerges hne
    exact ⟨merged, more, by rw [hread], hprefix⟩

/-! ## Opening, appending, saving and opening again -/

variable {σ : Type} {others : (call : Call) → call.Reply} {path : String} {s : σ} {d : Disk}

/-- What a history that was saved stores is what comes back. -/
theorem load_saved {h : History} (hpath : h.path? = some path)
    (hsaved : (h.save.run.run (Disk.perform others) (s, d)).1 = .ok ())
    (hreturn : ∀ e ∈ h.entries, '\r' ∉ e.toList) :
    let saved := (h.save.run.run (Disk.perform others) (s, d)).2
    (load path).run.run (Disk.perform others) saved =
      (.ok { entries := entriesIn (contents h.entries).toList, path? := some path }, saved) := by
  obtain ⟨t, d₁, d', hput, hrun⟩ := save_ok hpath hsaved
  have hload : (load path).run.run (Disk.perform others) (t, d') = _ :=
    load_bytes (Disk.read_put hput)
  rwa [ofContents_of_returnless (not_mem_contents (by decide) hreturn), ← hrun] at hload

/-- What comes back of a history that was opened from a file, gone on with and saved. If the file
and what is typed have no carriage returns, the same history comes back exactly if the file had no
tail without an end, or nothing was appended. Otherwise everything in front of the tail comes back,
and the tail is one entry with the line behind it. -/
theorem load_reopened (others : (call : Call) → call.Reply) (stored : String) (typed : List Typed)
    (path : String) (s : σ) (d : Disk) (hread : d.read path = .bytes (Text.Utf8.bytes stored))
    (hstored : '\r' ∉ stored.toList) (htyped : ∀ text, .line text ∈ typed → '\r' ∉ text.toList) :
    let found := readIn stored.toList
    ∃ opened : History,
      (load path).run.run (Disk.perform others) (s, d) = (.ok opened, (s, d)) ∧
      opened.entries = found.1 ++ found.2.toList ∧
      let h := opened.appendAll (completed typed)
      let saved := h.save.run.run (Disk.perform others) (s, d)
      saved.1 = .ok () → ∃ h' : History,
        (load path).run.run (Disk.perform others) saved.2 = (.ok h', saved.2) ∧
        (h' = h ↔ found.2 = none ∨ completed typed = []) ∧
        ∀ tail ∈ found.2, completed typed ≠ [] → ∃ merged more,
          h'.entries = found.1 ++ merged :: more ∧ tail.toList ++ ['\n'] <+: merged.toList := by
  intro found
  have hopened : (load path).run.run (Disk.perform others) (s, d) = _ := load_bytes hread
  rw [ofContents_of_returnless hstored] at hopened
  refine ⟨_, hopened, rfl, ?_⟩
  intro h saved hsaved
  have happend := appendAll_eq (completed_isEntry typed)
    { entries := entriesIn stored.toList, path? := some path }
  have hentries : h.entries = found.1 ++ found.2.toList ++ (completed typed).map Text.trim := by
    rw [show h = _ from happend]
    rfl
  have hpath : h.path? = some path := by
    rw [show h = _ from happend]
  have hnew := isEntry_of_completed typed
  have hreturn : ∀ e ∈ h.entries, '\r' ∉ e.toList := by
    rw [hentries]
    exact List.forall_mem_append.2
      ⟨not_mem_entriesIn hstored, not_mem_recorded (by decide) htyped⟩
  have hload := load_saved hpath hsaved hreturn
  have hsame : ({ entries := entriesIn (contents h.entries).toList, path? := some path } : History) = h ↔
      entriesIn (contents h.entries).toList = h.entries := by
    constructor
    · exact congrArg History.entries
    · intro heq
      rw [heq, ← hpath]
  rw [hentries] at hload hsame
  refine ⟨_, hload, hsame.trans ?_, ?_⟩
  · cases hfound : found.2 with
    | none =>
      have hall : ∀ e ∈ found.1 ++ (completed typed).map Text.trim, IsEntry e.toList := by
        intro e he
        exact (List.mem_append.1 he).elim (readIn_isEntry _ e) (hnew e)
      simp only [Option.toList_none, List.append_nil, entriesIn_contents hall, true_or]
    | some tail =>
      have hback := (entriesIn_behindTail (readIn_isEntry stored.toList)
        (readIn_isTail stored.toList tail hfound) hnew).1
      simpa using hback
  · intro tail htail hne
    have hback := (entriesIn_behindTail (readIn_isEntry stored.toList)
      (readIn_isTail stored.toList tail htail) hnew).2
    rw [show found.2 = some tail from htail]
    exact hback fun hnil => hne (List.map_eq_nil_iff.1 hnil)

/-- A file with a statement and a command, gone on with after something was given up. -/
theorem load_reopened_same :
    let stored := ["RETURN 1;", ":help"]
    let disk : Disk := { files := [(["h"], Text.Utf8.bytes (contents stored))] }
    let typed : List Typed := [.line "MATCH (n)", .giveUp, .line "RETURN 2; // :"]
    let opened : History := { entries := stored, path? := some "h" }
    let h := opened.appendAll (completed typed)
    let saved := h.save.run.run (Disk.perform Program.willing) ((), disk)
    h.entries = ["RETURN 1;", ":help", "RETURN 2;"] ∧ saved.1 = .ok () ∧
      (load "h").run.run (Disk.perform Program.willing) saved.2 = (.ok h, saved.2) := by
  intro stored disk typed opened h saved
  have hread : disk.read "h" = .bytes (Text.Utf8.bytes (contents stored)) := by decide +kernel
  have htyped : ∀ text, .line text ∈ typed → '\r' ∉ text.toList := by
    intro text hmem
    have hmem : text = "MATCH (n)" ∨ text = "RETURN 2; // :" := by simpa [typed] using hmem
    rcases hmem with rfl | rfl <;> decide
  have hentries : ∀ e ∈ stored, IsEntry e.toList := by
    rw [show stored = (completed [.line "RETURN 1;", .line ":help"]).map Text.trim by decide +kernel]
    exact isEntry_of_completed _
  have hfound := readIn_contents hentries []
  rw [List.append_nil, readIn_of_blank (by simp [Blank] : Blank [])] at hfound
  obtain ⟨opened', hload, hfirst, hback⟩ :=
    load_reopened Program.willing (contents stored) typed "h" () disk hread (by decide) htyped
  obtain rfl : opened' = opened := by
    have hrun : (load "h").run.run (Disk.perform Program.willing) ((), disk) =
        (.ok opened, ((), disk)) := by
      rw [load_bytes hread, ofContents_of_returnless (by decide), entriesIn_contents hentries]
    exact Except.ok.inj (congrArg Prod.fst (hload.symm.trans hrun))
  have hsaved : saved.1 = .ok () := by decide +kernel
  obtain ⟨h', hagain, hsame, -⟩ := hback hsaved
  rw [hsame.2 (.inl (congrArg Prod.snd hfound))] at hagain
  exact ⟨by decide +kernel, hsaved, hagain⟩

/-- A file that stops inside a query: the statement that is appended to it becomes one text with the
tail, so three entries are two the next time. -/
theorem reopened_merged :
    let disk : Disk := { files := [(["h"], Text.Utf8.bytes "RETURN 1;\nMATCH (n)\n")] }
    let opened : History := { entries := ["RETURN 1;", "MATCH (n)"], path? := some "h" }
    let h := opened.appendAll (completed [.line "RETURN 2;"])
    let saved := h.save.run.run (Disk.perform Program.willing) ((), disk)
    ((load "h").run.run (Disk.perform Program.willing) ((), disk)).1 = .ok opened ∧
      saved.1 = .ok () ∧ h.entries = ["RETURN 1;", "MATCH (n)", "RETURN 2;"] ∧
      ((load "h").run.run (Disk.perform Program.willing) saved.2).1 =
        .ok { h with entries := ["RETURN 1;", "MATCH (n)\nRETURN 2;"] } := by
  decide +kernel

end History

end QueryShell
