import QueryShell.History.File
import QueryShell.Program.Environment
import QueryShell.Proofs.Files.Storage
import QueryShell.Proofs.History.Reading
import QueryShell.Proofs.Program.Runs

/-
A saved history is read back. The file holds the entries one below the other as they were typed,
with no mark between them, so reading cuts the whole text into statements again; it finds the entries
that were saved, but for the carriage returns that stood before a line feed inside one of them.
-/
namespace QueryShell

open Statement

/-! ## Appending -/

namespace History

/-- Adds statements one after the other. -/
def appendAll (h : History) (statements : List String) : History :=
  statements.foldl append h

theorem entryOf?_eq {statement : String} (h : IsEntry (Text.trimChars statement.toList)) :
    entryOf? statement = some (Text.trim statement) := by
  have hne : ¬ (Text.trim statement).isEmpty := by
    intro hempty
    refine h.ne_nil (String.ofList_injective ?_)
    exact String.isEmpty_iff.1 hempty
  rw [entryOf?, if_neg hne]

/-- Every statement with something to see in it becomes one entry. -/
theorem appendAll_eq {statements : List String}
    (hs : ∀ s ∈ statements, IsEntry (Text.trimChars s.toList)) (h : History) :
    h.appendAll statements = { h with entries := h.entries ++ statements.map Text.trim } := by
  unfold appendAll
  induction statements generalizing h with
  | nil => simp
  | cons s statements ih =>
    rw [List.foldl_cons, ih fun t ht => hs t (List.mem_cons_of_mem _ ht), append,
      entryOf?_eq (hs s List.mem_cons_self)]
    simp

end History

/-! ## Carriage returns -/

namespace History

/-- An entry without its carriage returns before line feeds. -/
def bare (entry : String) : String :=
  String.ofList (Text.bareFeeds entry.toList)

theorem bare_eq_self_iff (entry : String) : bare entry = entry ↔ ¬ ['\r', '\n'] <:+: entry.toList := by
  rw [← Text.bareFeeds_eq_self_iff, bare, ← String.toList_inj, String.toList_ofList]

/-- Entries keep apart, whatever carriage returns are in them. -/
theorem bareFeeds_contents {entries : List String} (h : ∀ e ∈ entries, IsEntry e.toList) :
    Text.bareFeeds (contents entries).toList = (contents (entries.map bare)).toList := by
  rw [contents_toList, contents_toList]
  induction entries with
  | nil => rfl
  | cons e entries ih =>
    have hentry := h e List.mem_cons_self
    rw [List.flatMap_cons, List.append_assoc, List.singleton_append,
      Text.bareFeeds_append hentry.last_ne_return, ih fun d hd => h d (List.mem_cons_of_mem _ hd)]
    simp [bare]

/-- Entries that are stored are read back, but for carriage returns before line feeds. -/
theorem ofContents_contents {entries : List String} (h : ∀ e ∈ entries, IsEntry e.toList) :
    ofContents (contents entries) = entries.map bare := by
  have hbare : ∀ e ∈ entries.map bare, IsEntry e.toList := by
    intro e he
    obtain ⟨entry, hentry, rfl⟩ := List.mem_map.1 he
    rw [bare, String.toList_ofList]
    exact (h entry hentry).bareFeeds
  rw [ofContents_eq, bareFeeds_contents h, entriesIn_contents hbare]

end History

/-! ## Saving and loading -/

variable {σ ω : Type}

/-- Only what succeeds is gone on with. -/
theorem Attempt.run_bind {ε α β : Type} (answer : (call : Call) → σ × ω → call.Reply × (σ × ω))
    (p : Attempt σ ε α) (f : α → Attempt σ ε β) (sw : σ × ω) :
    (p >>= f).run.run answer sw =
      match p.run.run answer sw with
      | (.ok a, sw) => (f a).run.run answer sw
      | (.error e, sw) => (.error e, sw) := by
  rw [ExceptT.run_bind]
  refine (Program.run_andThen answer p.run _ sw).trans ?_
  rcases p.run.run answer sw with ⟨_ | _, sw⟩ <;> rfl

/-- Answers calls to files on a disk, and all others as `others` does. -/
def Disk.perform (others : (call : Call) → call.Reply) :
    (call : Call) → σ × Disk → call.Reply × (σ × Disk)
  | .files c, (s, d) => ((d.answer c).1, (s, (d.answer c).2))
  | call, sd => (others call, sd)

namespace History

variable {others : (call : Call) → call.Reply} {s : σ} {d : Disk} {path : String}

/-- Putting bytes into a file succeeds with a disk that holds them. -/
theorem write_ok {text : String} {sd : σ × Disk}
    (hok : (((Attempt.ofProgram (.files (.write path text))).mapError Failure.io :
      Attempt σ Failure Unit).run.run (Disk.perform others) sd).1 = .ok ()) :
    ∃ d', sd.2.put path (Text.Utf8.bytes text) = .ok d' ∧
      (((Attempt.ofProgram (.files (.write path text))).mapError Failure.io :
        Attempt σ Failure Unit).run.run (Disk.perform others) sd).2 = (sd.1, d') := by
  obtain ⟨s, d⟩ := sd
  have hrun : (((Attempt.ofProgram (.files (.write path text))).mapError Failure.io :
      Attempt σ Failure Unit).run.run (Disk.perform others) (s, d)) =
      (((d.attempt (d.put path (Text.Utf8.bytes text))).1).mapError Failure.io,
        (s, (d.attempt (d.put path (Text.Utf8.bytes text))).2)) := rfl
  rw [hrun] at hok ⊢
  cases hput : d.put path (Text.Utf8.bytes text) with
  | error reason =>
    rw [hput] at hok
    cases hok
  | ok d' => exact ⟨d', rfl, rfl⟩

/-- A history that was saved was put into its file last of all. -/
theorem save_ok {h : History} (hpath : h.path? = some path)
    (hok : (h.save.run.run (Disk.perform others) (s, d)).1 = .ok ()) :
    ∃ (t : σ) (d₁ d' : Disk), d₁.put path (Text.Utf8.bytes (contents h.entries)) = .ok d' ∧
      (h.save.run.run (Disk.perform others) (s, d)).2 = (t, d') := by
  obtain ⟨first, hsave⟩ : ∃ first : Attempt σ Failure Unit, h.save =
      first >>= fun _ => (Attempt.ofProgram (.files (.write path (contents h.entries)))).mapError
        Failure.io := by
    unfold save
    simp only [hpath]
    split
    · split
      · exact ⟨_, rfl⟩
      · exact ⟨pure (), by simp⟩
    · exact ⟨pure (), by simp⟩
  rw [hsave, Attempt.run_bind] at hok ⊢
  rcases hfirst : first.run.run (Disk.perform others) (s, d) with ⟨_ | _, t, d₁⟩
  · rw [hfirst] at hok
    cases hok
  · rw [hfirst] at hok
    obtain ⟨d', hput, hrun⟩ := write_ok hok
    exact ⟨t, d₁, d', hput, hrun⟩

/-- Loading a file that holds a text reads the entries that the text stores. -/
theorem load_bytes {text : String} (hread : d.read path = .bytes (Text.Utf8.bytes text)) :
    (load path).run.run (Disk.perform others) (s, d) =
      (.ok { entries := ofContents text, path? := some path }, (s, d)) := by
  unfold load
  rw [Attempt.run_bind]
  have hfound : ((Attempt.lift (.files (.read path)) : Attempt σ Failure Found).run.run
      (Disk.perform others) (s, d)) = (.ok (.bytes (Text.Utf8.bytes text)), (s, d)) := by
    rw [← hread]
    rfl
  rw [hfound]
  dsimp only
  rw [Text.Utf8.text?_bytes]
  dsimp only
  rw [String.ofList_toList]
  rfl

/-- A history round trip. Whatever is typed, and wherever text is given up in between: if the history
of all completed statements could be saved, loading it gives the same entries in the same order, each
without its carriage returns before line feeds. So it gives the same history exactly if no entry has
a carriage return before a line feed. -/
theorem load_save (others : (call : Call) → call.Reply) (typed : List Typed) (path : String) (s : σ)
    (d : Disk)
    (hsaved : (((appendAll { path? := some path } (completed typed)).save.run).run
      (Disk.perform others) (s, d)).1 = .ok ()) :
    let h := appendAll { path? := some path } (completed typed)
    let saved := (h.save.run.run (Disk.perform others) (s, d)).2
    ∃ h', (load path).run.run (Disk.perform others) saved = (.ok h', saved) ∧
      h'.entries = h.entries.map bare ∧ h'.path? = h.path? ∧
      (h' = h ↔ ∀ e ∈ h.entries, ¬ ['\r', '\n'] <:+: e.toList) := by
  intro h saved
  have happend := appendAll_eq (completed_isEntry typed) { path? := some path }
  have hpath : h.path? = some path := by simp [h, happend]
  have hentries : ∀ e ∈ h.entries, IsEntry e.toList := by
    intro e he
    have he : e ∈ (completed typed).map Text.trim := by simpa [h, happend] using he
    obtain ⟨statement, hmem, rfl⟩ := List.mem_map.1 he
    rw [Text.trim, String.toList_ofList]
    exact completed_isEntry typed statement hmem
  obtain ⟨t, d₁, d', hput, hrun⟩ := save_ok hpath hsaved
  have hload : (load path).run.run (Disk.perform others) (t, d') = _ :=
    load_bytes (Disk.read_put hput)
  rw [ofContents_contents hentries, ← hrun] at hload
  have hsame : h.entries.map bare = h.entries ↔ ∀ e ∈ h.entries, bare e = e := by
    simpa using List.map_inj_left (f := bare) (g := id) (l := h.entries)
  have heq : ({ entries := h.entries.map bare, path? := some path } : History) = h ↔
      h.entries.map bare = h.entries := by
    constructor
    · exact congrArg History.entries
    · intro hmap
      rw [hmap, ← hpath]
  refine ⟨_, hload, rfl, hpath.symm, ?_⟩
  rw [heq, hsame]
  exact forall₂_congr fun e _ => bare_eq_self_iff e

/-- A line that ends with a carriage return, a command behind a query, and text that is given up, all
saved to an empty disk. -/
theorem load_save_returns :
    let typed : List Typed := [.line "return 1\r", .line "; :x", .line "y", .giveUp, .line ":help "]
    let h := appendAll { path? := some "h" } (completed typed)
    let saved := h.save.run.run (Disk.perform Program.willing) ((), {})
    saved.1 = .ok () ∧ h.entries = ["return 1\r\n;", ":x", ":help"] ∧
      ∃ h', (load "h").run.run (Disk.perform Program.willing) saved.2 = (.ok h', saved.2) ∧
        h'.entries = ["return 1\n;", ":x", ":help"] ∧ h' ≠ h := by
  intro typed h saved
  have hsaved : saved.1 = .ok () := by decide +kernel
  have hmemory : h.entries = ["return 1\r\n;", ":x", ":help"] := by decide +kernel
  obtain ⟨h', hload, hentries, -, hsame⟩ := load_save Program.willing typed "h" () {} hsaved
  have hbare : h.entries.map bare = ["return 1\n;", ":x", ":help"] := by
    rw [hmemory]
    decide +kernel
  refine ⟨hsaved, hmemory, h', hload, hentries.trans hbare, fun heq => ?_⟩
  rw [heq, hbare, hmemory] at hentries
  revert hentries
  decide +kernel

end History

end QueryShell
