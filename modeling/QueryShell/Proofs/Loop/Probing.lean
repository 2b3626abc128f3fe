import QueryShell.Proofs.Loop.Execution

/-
How often a loop asks its executor for the code of the latest failure: once for each time that it reads
statements to execute, and once for each interrupt that finds no statement running. `count` takes an
account of all events, whatever the executor does; `runUntilEnd_probes` says that it balances.
-/
namespace QueryShell.Loop

open Program Statement

/-! ## The account -/

/-- An account of the events of a loop. -/
structure Count where
  /-- A statement runs. -/
  executing : Bool := false
  /-- Nothing was read since the last statement was executed. -/
  fresh : Bool := true
  /-- How often the executor was asked for a code. -/
  probes : Nat := 0
  /-- How often the loop started to read. -/
  cycles : Nat := 0
  /-- How many interrupts arrived, or came from the reader, while no statement ran. -/
  idle : Nat := 0

/-- One more event. -/
def Count.add (t : Count) : Event → Count
  | .asked (.delegate .lastErrorCode) => { t with probes := t.probes + 1 }
  | .asked (.delegate (.execute _)) => { t with executing := true, fresh := true }
  | .answered (.delegate (.execute _)) _ => { t with executing := false }
  | .asked (.console (.readLine _)) =>
    { t with fresh := false, cycles := t.cycles + if t.fresh then 1 else 0 }
  | .answered (.console (.readLine _)) (.ok .interrupted) | .interrupted =>
    { t with idle := t.idle + if t.executing then 0 else 1 }
  | _ => t

/-- The account of a whole run of a loop. -/
def count (l : Loop Unit) (events : List Event) : Count :=
  events.foldl Count.add { executing := l.execution.executing }

/-- The probes that are not accounted for. -/
def Count.surplus (t : Count) : Int :=
  t.probes - (t.cycles + t.idle)

/-- A piece of a run after which `k` more probes are not accounted for. It leaves what is known of reading
and executing as it was. -/
structure Shifts (k : Int) (l : Loop Unit) (events : List Event) (l' : Loop Unit) : Prop where
  executing : l'.execution.executing = l.execution.executing
  count : ∀ t : Count, t.executing = l.execution.executing →
    (events.foldl Count.add t).executing = t.executing ∧ (events.foldl Count.add t).fresh = t.fresh ∧
      (events.foldl Count.add t).surplus = t.surplus + k

theorem Shifts.trans {k k' : Int} {l m l' : Loop Unit} {first second : List Event}
    (h₁ : Shifts k l first m) (h₂ : Shifts k' m second l') : Shifts (k + k') l (first ++ second) l' where
  executing := h₂.executing.trans h₁.executing
  count t ht := by
    obtain ⟨hexecuting, hfresh, hsurplus⟩ := h₁.count t ht
    have hmiddle : (first.foldl Count.add t).executing = m.execution.executing := by
      rw [hexecuting, ht, h₁.executing]
    obtain ⟨hexecuting', hfresh', hsurplus'⟩ := h₂.count _ hmiddle
    rw [List.foldl_append, hexecuting', hexecuting, hfresh', hfresh, hsurplus', hsurplus, Int.add_assoc]
    exact ⟨rfl, rfl, rfl⟩

/-- A piece of a run in which every probe is accounted for. -/
abbrev Balances : Interference (Loop Unit) :=
  Shifts 0

theorem balances_frame : Frame Balances where
  refl _ := ⟨rfl, fun _ _ => ⟨rfl, rfl, (Int.add_zero _).symm⟩⟩
  trans := Shifts.trans

theorem Balances.of_executing {l l' : Loop Unit}
    (h : l'.execution.executing = l.execution.executing) : Balances l [] l' :=
  ⟨h, fun _ _ => ⟨rfl, rfl, (Int.add_zero _).symm⟩⟩

/-! ## Calls -/

section Calls

variable {between : Interference (Loop Unit)}
  (hbetween : ∀ l events l', between l events l' → Balances l events l')

include hbetween

/-- What a call adds to the account is what asking it adds, if its reply is nothing to it. -/
theorem shifts_call {k : Int} {c : Call} {reply : c.Reply} {l l' : Loop Unit} {events : List Event}
    (hasked : ∀ t : Count, (t.add (.asked c)).executing = t.executing ∧
      (t.add (.asked c)).fresh = t.fresh ∧ (t.add (.asked c)).surplus = t.surplus + k)
    (hanswered : ∀ t : Count, t.add (.answered c reply) = t)
    (h : Runs between (call c : Program (Loop Unit) c.Reply) l events reply l') : Shifts k l events l' := by
  obtain ⟨during, hduring, rfl⟩ := runs_call h
  have hduring := hbetween _ _ _ hduring
  refine ⟨hduring.executing, fun t ht => ?_⟩
  obtain ⟨hexecuting, hfresh, hsurplus⟩ := hasked t
  obtain ⟨hexecuting', hfresh', hsurplus'⟩ := hduring.count (t.add (.asked c)) (hexecuting.trans ht)
  simp only [List.foldl_append, List.foldl_cons, List.foldl_nil, hanswered]
  exact ⟨hexecuting'.trans hexecuting, hfresh'.trans hfresh, by rw [hsurplus', hsurplus, Int.add_zero]⟩

/-- A call that is nothing to the account. -/
theorem balances_call {c : Call} (hasked : ∀ t : Count, t.add (.asked c) = t)
    (hanswered : ∀ (t : Count) (reply : c.Reply), t.add (.answered c reply) = t) :
    Obeys between Balances (call c : Program (Loop Unit) c.Reply) := by
  intro l events reply l' h
  refine shifts_call hbetween (fun t => ?_) (fun t => hanswered t reply) h
  rw [hasked]
  exact ⟨rfl, rfl, (Int.add_zero _).symm⟩

theorem balances_warn (origin : Origin) (text : String) :
    Obeys between Balances (warn origin text : Program (Loop Unit) Unit) :=
  balances_call hbetween (c := .console (.warn origin text)) (fun _ => rfl) fun _ _ => rfl

theorem balances_print (sink : Sink) (text : String) :
    Obeys between Balances (console (.print sink text) : Program (Loop Unit) (Except String Unit)) :=
  balances_call hbetween (c := .console (.print sink text)) (fun _ => rfl) fun _ _ => rfl

theorem balances_writeLine (sink : Sink) (text : String) :
    Obeys between Balances (Printer.writeLine sink text : Program (Loop Unit) Unit) :=
  balances_frame.obeys_writeLine (balances_print hbetween) (balances_warn hbetween _) _ _

theorem balances_printIfVerbose (p : Printer) (text : String) :
    Obeys between Balances (p.printIfVerbose text : Program (Loop Unit) Unit) :=
  balances_frame.obeys_printIfVerbose (balances_print hbetween) (balances_warn hbetween _) _ _

/-- Asking for the code is what the account is about. -/
theorem shifts_lastErrorCode {l l' : Loop Unit} {events : List Event} {reply : Option String}
    (h : Runs between (onExecutor Executor.delegated.lastErrorCode) l events reply l') :
    Shifts 1 l events l' := by
  refine shifts_call hbetween (c := .delegate .lastErrorCode) (fun t => ⟨rfl, rfl, ?_⟩) (fun t => rfl) h
  show ((t.probes + 1 : Nat) : Int) - (t.cycles + t.idle) = t.probes - (t.cycles + t.idle) + 1
  omega

/-- An interrupt that finds no statement running costs a probe. -/
theorem shifts_handle {l l' : Loop Unit} {events : List Event} {u : Unit}
    (h : Runs between (handle .delegated) l events u l') :
    Shifts (if l.execution.executing then 0 else 1) l events l' := by
  unfold handle at h
  obtain ⟨_, _, _, _, hget, hrest, rfl⟩ := runs_bind h
  obtain ⟨rfl, rfl, rfl⟩ := runs_get hget
  split at hrest
  · obtain ⟨first, _, m, second, hcancel, hreset, rfl⟩ := runs_bind hrest
    obtain ⟨rfl, rfl⟩ := runs_modify hcancel
    have hreset := balances_call hbetween (c := .delegate .reset) (fun _ => rfl) (fun _ _ => rfl) _ _ _ _
      hreset
    rw [if_pos ‹_›]
    exact ⟨hreset.executing, hreset.count⟩
  · obtain ⟨first, _, m, second, hprint, hprobe, rfl⟩ := runs_bind hrest
    obtain ⟨third, _, _, _, hprobe, hpure, rfl⟩ := runs_bind hprobe
    obtain ⟨rfl, -, rfl⟩ := runs_pure hpure
    have hprint := balances_writeLine hbetween _ _ _ _ _ _ hprint
    rw [if_neg ‹_›]
    simpa using hprint.trans (shifts_lastErrorCode hbetween hprobe)

end Calls

/-- An interrupt is in the account, and so is the probe that it costs. -/
theorem Shifts.noticed {e : Event} {l l' : Loop Unit} {events : List Event}
    (he : ∀ t : Count, t.add e = { t with idle := t.idle + if t.executing then 0 else 1 })
    (h : Shifts (if l.execution.executing then 0 else 1) l events l') : Balances l (e :: events) l' := by
  refine ⟨h.executing, fun t ht => ?_⟩
  have hadd := he t
  obtain ⟨hexecuting, hfresh, hsurplus⟩ := h.count (t.add e) (by rw [hadd, ← ht])
  rw [List.foldl_cons, hexecuting, hfresh, hsurplus, hadd, ← ht]
  refine ⟨rfl, rfl, ?_⟩
  show (t.probes : Int) - (t.cycles + (t.idle + if t.executing then 0 else 1 : Nat)) + _ =
    t.probes - (t.cycles + t.idle) + 0
  split <;> omega

/-- Interrupts are accounted for as they arrive. -/
theorem balances_interrupts {depth : Nat} (l : Loop Unit) (events : List Event) (l' : Loop Unit)
    (h : interrupts (handle .delegated) depth l events l') : Balances l events l' := by
  refine interrupts_frame balances_frame (fun between hbetween l events l' hrun => ?_) depth h
  exact (shifts_handle hbetween hrun).noticed fun _ => rfl

/-! ## Runs -/

section Runs

variable {depth : Nat} {l l' : Loop Unit} {events : List Event} {t : Count} {fresh : Bool}
  {surplus : Int}

/-- The account of what was done until a loop came to stand where it does. -/
structure Stands (fresh : Bool) (surplus : Int) (t : Count) (l : Loop Unit) : Prop where
  executing : t.executing = l.execution.executing
  fresh : t.fresh = fresh
  surplus : t.surplus = surplus

theorem Stands.shifts {k : Int} (ht : Stands fresh surplus t l) (h : Shifts k l events l') :
    Stands fresh (surplus + k) (events.foldl Count.add t) l' := by
  obtain ⟨hexecuting, hfresh, hsurplus⟩ := h.count t ht.executing
  refine ⟨?_, hfresh.trans ht.fresh, ?_⟩
  · rw [hexecuting, ht.executing, h.executing]
  · rw [hsurplus, ht.surplus]

theorem Stands.balances (ht : Stands fresh surplus t l) (h : Balances l events l') :
    Stands fresh surplus (events.foldl Count.add t) l' := by
  have hstands := ht.shifts h
  rwa [Int.add_zero] at hstands

theorem balances_prompt :
    Obeys (interrupts (handle .delegated) depth) Balances (prompt .delegated) :=
  obeys_prompt balances_frame
    (balances_call balances_interrupts (c := .delegate .standing) (fun _ => rfl) fun _ _ => rfl)

theorem balances_record (statement : String) :
    Obeys (interrupts (handle .delegated) depth) Balances (record .delegated statement) :=
  obeys_record balances_frame (fun _ => .of_executing rfl) fun entry =>
    balances_call balances_interrupts (c := .console (.recall entry)) (fun _ => rfl) fun _ _ => rfl

/-- What is left of one reading once the reader has replied. An interrupt from the reader is answered
with a probe. -/
theorem balances_afterReply {reply : Read} {result : Except Failure (List String)}
    (h : Runs (interrupts (handle .delegated) depth)
      (match reply with
        | .line text => do
          let statements ← Attempt.lift (takeLine text)
          Attempt.lift (statements.forM (record .delegated))
          return statements
        | .interrupted => do
          modify fun l => { l with splitter := .empty }
          Attempt.lift (handle .delegated)
          return []
        | .endOfInput => throw .noMoreInput :
        Attempt (Loop Unit) Failure (List String)).run l events result l')
    (prompt : String) :
    Balances l (.answered (.console (.readLine prompt)) (.ok reply) :: events) l' := by
  cases reply with
  | line text =>
    obtain ⟨_, statements, _, _, htake, hrecord, rfl⟩ := Attempt.runs_lift_bind h
    obtain ⟨rfl, rfl, rfl⟩ := runs_modifyGet htake
    obtain ⟨first, _, _, _, hrecord, hpure, rfl⟩ := Attempt.runs_lift_bind hrecord
    obtain ⟨rfl, rfl, rfl⟩ := Attempt.runs_pure hpure
    have hrecord := balances_frame.obeys_forM _ balances_record _ _ _ _ _ hrecord
    rw [List.append_nil]
    exact ⟨hrecord.executing, hrecord.count⟩
  | interrupted =>
    obtain ⟨first, _, _, _, hhandle, hpure, rfl⟩ := Attempt.runs_lift_bind (Attempt.runs_modify_bind h)
    obtain ⟨rfl, rfl, rfl⟩ := Attempt.runs_pure hpure
    have hhandle := (shifts_handle balances_interrupts hhandle).noticed
      (e := .answered (.console (.readLine prompt)) (.ok .interrupted)) fun _ => rfl
    rw [List.append_nil]
    exact ⟨hhandle.executing, hhandle.count⟩
  | endOfInput =>
    obtain ⟨rfl, -, rfl⟩ := Attempt.runs_throw h
    exact ⟨rfl, fun _ _ => ⟨rfl, rfl, (Int.add_zero _).symm⟩⟩

/-- One reading asks for nothing more. It is the first of its cycle if nothing was read before it. -/
theorem readOnce_stands {result : Except Failure (List String)}
    (h : Runs (interrupts (handle .delegated) depth) (readOnce .delegated).run l events result l')
    (ht : Stands fresh surplus t l) :
    Stands false (surplus - if fresh then 1 else 0) (events.foldl Count.add t) l' := by
  obtain ⟨first, prompt, m, second, hprompt, hread, rfl⟩ := Attempt.runs_lift_bind h
  have hprompted := ht.balances (balances_prompt _ _ _ _ hprompt)
  have hasked : Stands false (surplus - if fresh then 1 else 0)
      ((first.foldl Count.add t).add (.asked (.console (.readLine prompt)))) m := by
    refine ⟨hprompted.executing, rfl, ?_⟩
    rw [← hprompted.surplus, ← hprompted.fresh]
    generalize first.foldl Count.add t = t'
    show (t'.probes : Int) - ((t'.cycles + if t'.fresh then 1 else 0 : Nat) + t'.idle) =
      t'.probes - (t'.cycles + t'.idle) - _
    split <;> omega
  rw [List.foldl_append]
  rcases Attempt.runs_bind hread with ⟨e, -, hfailed⟩ | ⟨third, reply, _, fourth, hreply, hrest, rfl⟩
  · obtain ⟨during, hduring, rfl⟩ := runs_call (c := .console (.readLine prompt)) hfailed
    have hfailed := hasked.balances (balances_interrupts _ _ _ hduring)
    rw [List.cons_append, List.foldl_cons, List.foldl_append]
    exact hfailed
  · obtain ⟨during, hduring, rfl⟩ := runs_call (c := .console (.readLine prompt)) hreply
    have hanswered := (hasked.balances (balances_interrupts _ _ _ hduring)).balances
      (balances_afterReply hrest prompt)
    simpa using hanswered

/-- A statement asks for nothing. Behind it another cycle starts. -/
theorem execute_stands {statement : String} {result : Except Failure Unit}
    (h : Runs (interrupts (handle .delegated) depth) (execute .delegated statement).run l events result
      l')
    (ht : Stands fresh surplus t l) : Stands true surplus (events.foldl Count.add t) l' := by
  obtain ⟨first, _, l₁, _, hbegin, hafter, rfl⟩ := Attempt.runs_lift_bind h
  obtain ⟨second, reply, l₂, _, hexecute, hended, rfl⟩ := Attempt.runs_lift_bind hafter
  obtain ⟨third, cancelled, l₃, _, hend, hresult, rfl⟩ := Attempt.runs_lift_bind hended
  obtain ⟨rfl, -, rfl⟩ := runs_pure hresult
  obtain ⟨rfl, -, rfl⟩ := runs_modifyGet hend
  obtain ⟨before, _, m, after, hclear, hstart, rfl⟩ := runs_bind hbegin
  obtain ⟨rfl, rfl⟩ := runs_modify hstart
  obtain ⟨during, hduring, rfl⟩ := runs_call (c := .delegate (.execute statement)) hexecute
  have hcleared := ht.balances (balances_call balances_interrupts (c := .delegate .clearReset)
    (fun _ => rfl) (fun _ _ => rfl) _ _ _ _ hclear)
  -- from here on interrupts find the statement running
  have hasked : Stands true surplus
      ((before.foldl Count.add t).add (.asked (.delegate (.execute statement))))
      { m with execution := m.execution.start } := ⟨rfl, rfl, hcleared.surplus⟩
  have hduring := hasked.balances (balances_interrupts _ _ _ hduring)
  have hended : Stands true surplus (Count.add (during.foldl Count.add
      ((before.foldl Count.add t).add (.asked (.delegate (.execute statement)))))
      (.answered (.delegate (.execute statement)) reply))
      { l₂ with execution := l₂.execution.finish } := ⟨rfl, hduring.fresh, hduring.surplus⟩
  simpa using hended

/-- Statements ask for nothing. If there is any, another cycle starts behind them. -/
theorem executeAll_stands {statements : List String} {code? : Option Int}
    (h : Runs (interrupts (handle .delegated) depth) (executeAll .delegated statements) l events code?
      l')
    (ht : Stands fresh surplus t l) :
    Stands (fresh || !statements.isEmpty) surplus (events.foldl Count.add t) l' := by
  induction statements generalizing l events t fresh with
  | nil =>
    obtain ⟨rfl, -, rfl⟩ := runs_pure h
    simpa using ht
  | cons statement statements ih =>
    obtain ⟨first, result, m, second, hexecute, hrest, rfl⟩ := runs_bind h
    have hexecuted := execute_stands hexecute ht
    rw [List.foldl_append, List.isEmpty_cons, Bool.not_false, Bool.or_true]
    split at hrest
    · simpa using ih hrest hexecuted
    · obtain ⟨rfl, -, rfl⟩ := runs_pure hrest
      exact hexecuted
    · obtain ⟨third, m₁, fourth, hwrite, hnext, rfl⟩ := runs_report hrest
      have hnoted : Stands true surplus (first.foldl Count.add t) { m with failed := true } :=
        ⟨hexecuted.executing, hexecuted.fresh, hexecuted.surplus⟩
      have hreported := hnoted.balances (balances_writeLine balances_interrupts _ _ _ _ _ _ hwrite)
      rw [List.foldl_append]
      split at hnext
      · obtain ⟨rfl, -, rfl⟩ := runs_pure hnext
        exact hreported
      · simpa using ih hnext hreported

/-- Reading and executing uses up the probe that its first cycle has to have, by induction on the
readings that are left. -/
theorem readAndExecute_stands {reads : Nat} {lastFailed : Bool} {code : Int}
    (h : Runs (interrupts (handle .delegated) depth) (readAndExecute .delegated reads lastFailed) l
      events (some code) l')
    (ht : Stands fresh surplus t l) :
    ∃ fresh', Stands fresh' (surplus - if fresh then 1 else 0) (events.foldl Count.add t) l' := by
  induction reads generalizing l events t lastFailed fresh surplus with
  | zero => cases (runs_pure h).2.1
  | succ reads ih =>
    obtain ⟨first, result, m, second, hread, hrest, rfl⟩ := runs_bind h
    have hstands := readOnce_stands hread ht
    rw [List.foldl_append]
    split at hrest
    · simpa using ih hrest hstands
    · rename_i statements hnil
      obtain ⟨third, stop?, m₁, fourth, hexecute, hafter, rfl⟩ := runs_bind hrest
      have hexecuted := executeAll_stands hexecute hstands
      rw [List.foldl_append]
      cases stop? with
      | some stopped =>
        obtain ⟨rfl, -, rfl⟩ := runs_pure hafter
        exact ⟨_, hexecuted⟩
      | none =>
        obtain ⟨fifth, _, m₂, sixth, hprobe, hback, rfl⟩ := runs_bind hafter
        have hprobed := hexecuted.shifts (shifts_lastErrorCode balances_interrupts hprobe)
        have hsome : statements.isEmpty = false := by
          cases statements with
          | nil => exact absurd rfl hnil
          | cons => rfl
        have hback := ih hback hprobed
        rw [hsome] at hback
        rw [List.foldl_append]
        simpa using hback
    · obtain ⟨hprint, -⟩ :=
        runs_print_last (p := fun printer => printer.printIfVerbose Shell.farewell) hrest
      exact ⟨_, hstands.balances (balances_printIfVerbose balances_interrupts _ _ _ _ _ _ hprint)⟩
    · obtain ⟨rfl, -, rfl⟩ := runs_pure hrest
      exact ⟨_, hstands⟩
    · rename_i e _ _
      obtain ⟨hprint, -⟩ := runs_print_last (p := fun printer => printer.printError e) hrest
      exact ⟨_, hstands.balances (balances_writeLine balances_interrupts _ _ _ _ _ _ hprint)⟩

theorem balances_trySaveHistory :
    Obeys (interrupts (handle .delegated) depth) Balances trySaveHistory :=
  obeys_trySaveHistory balances_frame
    (fun directory => balances_call balances_interrupts (c := .files (.makeDirectory directory))
      (fun _ => rfl) fun _ _ => rfl)
    (fun path text => balances_call balances_interrupts (c := .files (.write path text))
      (fun _ => rfl) fun _ _ => rfl)
    (balances_warn balances_interrupts _)

/-- A run that ends asked for the code once in each cycle and once for each idle interrupt. -/
theorem runUntilEnd_probes {reads : Nat} {code : Int}
    (h : Runs (interrupts (handle .delegated) depth) (runUntilEnd .delegated reads) l events (some code)
      l') :
    (count l events).probes = (count l events).cycles + (count l events).idle := by
  obtain ⟨first, _, m, second, hprobe, hrest, rfl⟩ := runs_bind h
  have hstart : Stands true 0 { executing := l.execution.executing } l := ⟨rfl, rfl, rfl⟩
  have hprobed := hstart.shifts (shifts_lastErrorCode balances_interrupts hprobe)
  obtain ⟨third, stop?, m', fourth, hloop, hsave, rfl⟩ := runs_bind hrest
  cases stop? with
  | none => cases (runs_pure hsave).2.1
  | some stopped =>
    obtain ⟨fifth, _, _, _, hsaved, hpure, rfl⟩ := runs_bind hsave
    obtain ⟨rfl, hcode, rfl⟩ := runs_pure hpure
    obtain rfl := Option.some.inj hcode
    obtain ⟨fresh, hloop⟩ := readAndExecute_stands hloop hprobed
    have hend := (hloop.balances (balances_trySaveHistory _ _ _ _ hsaved)).surplus
    rw [← List.foldl_append, ← List.foldl_append] at hend
    rw [List.append_nil, count]
    simp only [Count.surplus, if_pos] at hend
    omega

end Runs

end QueryShell.Loop
