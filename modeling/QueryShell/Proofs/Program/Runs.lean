import QueryShell.Program.Environment

/-
What happens while a program runs, whoever answers its calls. `Program.Runs` relates the state
before, the events in their order, the result and the state after; every reply is possible, and
while a call is under way other programs may come in between. `interrupts` is what comes in between
when interrupts arrive, and by `Environment.runs_exec` nothing else happens in any environment.

`Program.Obeys` says that all runs of a program stay inside a frame: a relation between states that
holds of doing nothing and of one thing after the other.
-/
namespace QueryShell

/-! ## Events and runs -/

/-- What can be seen of a running program. -/
inductive Event where
  | asked (call : Call)
  | answered (call : Call) (reply : call.Reply)
  /-- An interrupt arrives. -/
  | interrupted

/-- What may come in between: the state before, the events, and the state after. -/
abbrev Interference (σ : Type) := σ → List Event → σ → Prop

/-- What a list that ends in `last` starts with is the whole list, or is there without `last` too. -/
theorem append_eq_snoc {α : Type} {before after full : List α} {last : α}
    (h : before ++ after = full ++ [last]) :
    (after = [] ∧ before = full ++ [last]) ∨
      ∃ rest, after = rest ++ [last] ∧ before ++ rest = full := by
  rcases List.eq_nil_or_concat after with rfl | ⟨rest, other, rfl⟩
  · rw [List.append_nil] at h
    exact .inl ⟨rfl, h⟩
  · rw [List.concat_eq_append, ← List.append_assoc] at h
    obtain ⟨hrest, hlast⟩ := List.append_inj' h rfl
    obtain rfl := List.singleton_inj.1 hlast
    exact .inr ⟨rest, List.concat_eq_append, hrest⟩

namespace Program

variable {σ τ α β : Type} {between : Interference σ}

/-- How a program may run from a state: the events, the result and the state after. -/
inductive Runs (between : Interference σ) : Program σ α → σ → List Event → α → σ → Prop where
  | done {a : α} {s : σ} : Runs between (.done a) s [] a s
  | get {next : σ → Program σ α} {s s' : σ} {events : List Event} {a : α} :
      Runs between (next s) s events a s' → Runs between (.get next) s events a s'
  | set {next : Program σ α} {s t s' : σ} {events : List Event} {a : α} :
      Runs between next t events a s' → Runs between (.set t next) s events a s'
  | ask {call : Call} {next : call.Reply → Program σ α} {s t s' : σ} {reply : call.Reply}
      {during after : List Event} {a : α} :
      between s during t → Runs between (next reply) t after a s' →
      Runs between (.ask call next) s (.asked call :: during ++ .answered call reply :: after) a s'

/-- What comes after a program runs where that has ended. -/
theorem Runs.andThen {p : Program σ α} {f : α → Program σ β} {s t s' : σ} {first second : List Event}
    {a : α} {b : β} (hp : Runs between p s first a t) (hf : Runs between (f a) t second b s') :
    Runs between (p >>= f) s (first ++ second) b s' := by
  induction hp with
  | done => exact hf
  | get _ ih => exact .get (ih hf)
  | set _ ih => exact .set (ih hf)
  | @ask call next s t s' reply during after a hbetween _ ih =>
    rw [List.append_assoc, List.cons_append]
    exact .ask hbetween (ih hf)

theorem runs_pure {a b : α} {s s' : σ} {events : List Event}
    (h : Runs between (pure a : Program σ α) s events b s') : events = [] ∧ b = a ∧ s' = s := by
  cases h
  exact ⟨rfl, rfl, rfl⟩

/-- A run of two programs one after the other is a run of each. -/
theorem runs_bind {p : Program σ α} {f : α → Program σ β} {s s' : σ} {events : List Event} {b : β}
    (h : Runs between (p >>= f) s events b s') :
    ∃ first a t second, Runs between p s first a t ∧ Runs between (f a) t second b s' ∧
      events = first ++ second := by
  induction p generalizing s events with
  | done a => exact ⟨[], a, s, events, .done, h, rfl⟩
  | get next ih =>
    cases h with
    | get h =>
      obtain ⟨first, a, t, second, hp, hf, rfl⟩ := ih _ h
      exact ⟨first, a, t, second, .get hp, hf, rfl⟩
  | set state next ih =>
    cases h with
    | set h =>
      obtain ⟨first, a, t, second, hp, hf, rfl⟩ := ih h
      exact ⟨first, a, t, second, .set hp, hf, rfl⟩
  | ask call next ih =>
    cases h with
    | ask hbetween h =>
      obtain ⟨first, a, t, second, hp, hf, rfl⟩ := ih _ h
      exact ⟨_, a, t, second, .ask hbetween hp, hf, by simp⟩

theorem runs_get {a s s' : σ} {events : List Event}
    (h : Runs between (MonadState.get : Program σ σ) s events a s') : events = [] ∧ a = s ∧ s' = s := by
  cases h with
  | get h => exact runs_pure h

theorem runs_modifyGet {f : σ → α × σ} {a : α} {s s' : σ} {events : List Event}
    (h : Runs between (modifyGet f : Program σ α) s events a s') :
    events = [] ∧ a = (f s).1 ∧ s' = (f s).2 := by
  cases h with
  | get h =>
    cases h with
    | set h => exact runs_pure h

theorem runs_modify {f : σ → σ} {a : Unit} {s s' : σ} {events : List Event}
    (h : Runs between (modify f : Program σ Unit) s events a s') : events = [] ∧ s' = f s := by
  obtain ⟨hevents, -, hstate⟩ := runs_modifyGet h
  exact ⟨hevents, hstate⟩

/-- While a call is under way anything may come in between, and nothing else changes the state. -/
theorem runs_call {c : Call} {reply : c.Reply} {s s' : σ} {events : List Event}
    (h : Runs between (call c : Program σ c.Reply) s events reply s') :
    ∃ during, between s during s' ∧ events = .asked c :: during ++ [.answered c reply] := by
  cases h with
  | ask hbetween h =>
    obtain ⟨rfl, rfl, rfl⟩ := runs_pure h
    exact ⟨_, hbetween, rfl⟩

theorem runs_driver {c : Driver.Call} {reply : c.Reply} {s s' : σ} {events : List Event}
    (h : Runs between (driver c : Program σ c.Reply) s events reply s') :
    ∃ during, between s during s' ∧
      events = .asked (.driver c) :: during ++ [.answered (.driver c) reply] :=
  runs_call (c := .driver c) h

/-- Replies of a world in which everything succeeds. -/
def willing : (call : Call) → call.Reply
  | .driver (.openDriver _) => .ok ⟨0⟩
  | .driver (.openSession _ _) => .ok ⟨0⟩
  | .driver (.run _ _) => .ok {}
  | .driver (.write _ queries) => .ok (queries.map fun _ => {})
  | .driver (.verify _) | .driver (.resetSession _) => .ok ()
  | .driver (.closeSession _) | .driver (.closeDriver _) => .ok ()
  | .driver (.interrupt _) | .driver (.clearInterrupt _) => ()
  | .driver (.isOpen _) => true
  | .driver (.lastBookmark _) => none
  | .console (.print _ _) | .console (.openSource _) => .ok ()
  | .console (.warn _ _) | .console (.recall _) => ()
  | .console (.readLine _) => .ok .endOfInput
  | .console .askLine | .console .askSecret => .ok ""
  | .files (.read _) => .nothing
  | .files (.makeDirectory _) | .files (.write _ _) => .ok ()
  | .delegate (.execute _) => .ok ()
  | .delegate .lastErrorCode => none
  | .delegate .reset | .delegate .clearReset => ()
  | .delegate .standing => {}

/-- How a program runs if nothing comes in between and each call has a reply of its own. -/
def trace (respond : (call : Call) → call.Reply) : Program σ α → σ → List Event × α × σ
  | .done a, s => ([], a, s)
  | .get next, s => (next s).trace respond s
  | .set t next, _ => next.trace respond t
  | .ask call next, s =>
    let (events, a, s') := (next (respond call)).trace respond s
    (.asked call :: .answered call (respond call) :: events, a, s')

theorem runs_trace (hquiet : ∀ s, between s [] s) (respond : (call : Call) → call.Reply)
    (p : Program σ α) (s : σ) :
    Runs between p s (p.trace respond s).1 (p.trace respond s).2.1 (p.trace respond s).2.2 := by
  induction p generalizing s with
  | done a => exact .done
  | get next ih => exact .get (ih s s)
  | set t next ih => exact .set (ih t)
  | ask call next ih => exact .ask (hquiet s) (ih (respond call) s)

/-- How a program runs if nothing comes in between and the replies come out of a world of their own. -/
def play {ω : Type} (respond : (call : Call) → ω → call.Reply × ω) :
    Program σ α → σ → ω → List Event × α × σ
  | .done a, s, _ => ([], a, s)
  | .get next, s, w => (next s).play respond s w
  | .set t next, _, w => next.play respond t w
  | .ask call next, s, w =>
    let (reply, w) := respond call w
    let (events, a, s') := (next reply).play respond s w
    (.asked call :: .answered call reply :: events, a, s')

theorem runs_play {ω : Type} (hquiet : ∀ s, between s [] s)
    (respond : (call : Call) → ω → call.Reply × ω) (p : Program σ α) (s : σ) (w : ω) :
    Runs between p s (p.play respond s w).1 (p.play respond s w).2.1 (p.play respond s w).2.2 := by
  induction p generalizing s w with
  | done a => exact .done
  | get next ih => exact .get (ih s s w)
  | set t next ih => exact .set (ih t w)
  | ask call next ih => exact .ask (hquiet s) (ih (respond call w).1 s (respond call w).2)

/-- How a program runs if each call takes a course of its own: what comes in between, the reply, and the
state and a world behind it. -/
def rehearse {ω : Type} (course : (call : Call) → σ × ω → List Event × call.Reply × (σ × ω)) :
    Program σ α → σ × ω → List Event × α × (σ × ω)
  | .done a, sw => ([], a, sw)
  | .get next, sw => (next sw.1).rehearse course sw
  | .set t next, sw => next.rehearse course (t, sw.2)
  | .ask call next, sw =>
    let (during, reply, sw) := course call sw
    let (after, a, sw) := (next reply).rehearse course sw
    (.asked call :: during ++ .answered call reply :: after, a, sw)

theorem runs_rehearse {ω : Type}
    {course : (call : Call) → σ × ω → List Event × call.Reply × (σ × ω)}
    (hcourse : ∀ call sw, between sw.1 (course call sw).1 (course call sw).2.2.1) (p : Program σ α)
    (sw : σ × ω) : Runs between p sw.1 (p.rehearse course sw).1 (p.rehearse course sw).2.1
      (p.rehearse course sw).2.2.1 := by
  induction p generalizing sw with
  | done a => exact .done
  | get next ih => exact .get (ih sw.1 sw)
  | set t next ih => exact .set (ih (t, sw.2))
  | ask call next ih => exact .ask (hcourse call sw) (ih _ _)

/-- A rehearsal under a name of its own, whose result is known. -/
theorem runs_of_rehearse {ω : Type}
    {course : (call : Call) → σ × ω → List Event × call.Reply × (σ × ω)}
    (hcourse : ∀ call sw, between sw.1 (course call sw).1 (course call sw).2.2.1) {p : Program σ α}
    {sw : σ × ω} {rehearsal : List Event × α × (σ × ω)} {a : α}
    (h : p.rehearse course sw = rehearsal) (hresult : rehearsal.2.1 = a) :
    Runs between p sw.1 rehearsal.1 a rehearsal.2.2.1 := by
  subst h hresult
  exact runs_rehearse hcourse p sw

/-! ## Parts of a larger state -/

variable {view : τ → σ} {update : σ → τ → τ}

theorem zoom_bind (p : Program σ α) (f : α → Program σ β) :
    (p >>= f).zoom view update = p.zoom view update >>= fun a => (f a).zoom view update :=
  zoom_andThen view update p f

theorem runs_zoom_get {between : Interference τ} {a : σ} {t t' : τ} {events : List Event}
    (h : Runs between ((MonadState.get : Program σ σ).zoom view update) t events a t') :
    events = [] ∧ a = view t ∧ t' = t := by
  cases h with
  | get h => exact runs_pure h

theorem runs_zoom_modify {between : Interference τ} {f : σ → σ} {t t' : τ} {events : List Event}
    {a : Unit} (h : Runs between ((modify f : Program σ Unit).zoom view update) t events a t') :
    events = [] ∧ t' = update (f (view t)) t := by
  cases h with
  | get h =>
    cases h with
    | get h =>
      cases h with
      | set h =>
        obtain ⟨rfl, -, rfl⟩ := runs_pure h
        exact ⟨rfl, rfl⟩

/-- What may come in between for a part of a larger state, with the rest as it is. -/
def within (view : τ → σ) (update : σ → τ → τ) (between : Interference σ) : Interference τ :=
  fun t events t' => ∃ s, between (view t) events s ∧ t' = update s t

/-- A program on a part of a larger state runs there as on the part alone. -/
theorem runs_zoom {between : Interference σ} (hview : ∀ s t, view (update s t) = s)
    (hsame : ∀ t, update (view t) t = t) (hlast : ∀ s s' t, update s' (update s t) = update s' t)
    {p : Program σ α} {t t' : τ} {events : List Event} {a : α}
    (h : Runs (within view update between) (p.zoom view update) t events a t') :
    Runs between p (view t) events a (view t') ∧ t' = update (view t') t := by
  induction p generalizing t events with
  | done b =>
    cases h with
    | done => exact ⟨.done, (hsame _).symm⟩
  | get next ih =>
    cases h with
    | get h =>
      obtain ⟨hruns, hrest⟩ := ih _ h
      exact ⟨.get hruns, hrest⟩
  | set s next ih =>
    cases h with
    | get h =>
      cases h with
      | set h =>
        obtain ⟨hruns, hrest⟩ := ih h
        rw [hview] at hruns
        rw [hlast] at hrest
        exact ⟨.set hruns, hrest⟩
  | ask call next ih =>
    cases h with
    | ask hbetween h =>
      obtain ⟨s, hs, rfl⟩ := hbetween
      obtain ⟨hruns, hrest⟩ := ih _ h
      rw [hview] at hruns
      rw [hlast] at hrest
      exact ⟨.ask hs hruns, hrest⟩

/-- What comes in between for a program on a part does to the part what it does there; nothing else is
known of it. -/
theorem runs_part {between : Interference τ} {shadow : Interference σ}
    (hview : ∀ s t, view (update s t) = s)
    (hshadow : ∀ t events t', between t events t' → shadow (view t) events (view t'))
    {p : Program σ α} {t t' : τ} {events : List Event} {a : α}
    (h : Runs between (p.zoom view update) t events a t') :
    Runs shadow p (view t) events a (view t') := by
  induction p generalizing t events with
  | done b =>
    cases h with
    | done => exact .done
  | get next ih =>
    cases h with
    | get h => exact .get (ih _ h)
  | set s next ih =>
    cases h with
    | get h =>
      cases h with
      | set h =>
        have hnext := ih h
        rw [hview] at hnext
        exact .set hnext
  | ask call next ih =>
    cases h with
    | ask hbetween h => exact .ask (hshadow _ _ _ hbetween) (ih _ h)

end Program

/-! ## Attempts -/

namespace Attempt

open Program

variable {σ ε ε' α β : Type} {between : Interference σ}

/-- Only what succeeds is gone on with. -/
theorem runs_bind {p : Attempt σ ε α} {f : α → Attempt σ ε β} {s s' : σ} {events : List Event}
    {r : Except ε β} (h : Runs between (p >>= f).run s events r s') :
    (∃ e, r = .error e ∧ Runs between p.run s events (.error e) s') ∨
      ∃ first a t second, Runs between p.run s first (.ok a) t ∧
        Runs between (f a).run t second r s' ∧ events = first ++ second := by
  rw [ExceptT.run_bind] at h
  obtain ⟨first, a | a, t, second, hp, hf, rfl⟩ := Program.runs_bind h
  · obtain ⟨rfl, rfl, rfl⟩ := runs_pure hf
    exact .inl ⟨a, rfl, by simpa using hp⟩
  · exact .inr ⟨first, a, t, second, hp, hf, rfl⟩

theorem runs_pure {a : α} {s s' : σ} {events : List Event} {r : Except ε α}
    (h : Runs between (pure a : Attempt σ ε α).run s events r s') :
    events = [] ∧ r = .ok a ∧ s' = s :=
  Program.runs_pure h

theorem runs_throw {e : ε} {s s' : σ} {events : List Event} {r : Except ε α}
    (h : Runs between (throw e : Attempt σ ε α).run s events r s') :
    events = [] ∧ r = .error e ∧ s' = s :=
  Program.runs_pure h

theorem runs_lift {p : Program σ α} {s s' : σ} {events : List Event} {r : Except ε α}
    (h : Runs between (Attempt.lift p : Attempt σ ε α).run s events r s') :
    ∃ a, r = .ok a ∧ Runs between p s events a s' := by
  obtain ⟨first, a, t, second, hp, hf, rfl⟩ :=
    Program.runs_bind (f := fun a => pure (Except.ok a)) h
  obtain ⟨rfl, rfl, rfl⟩ := Program.runs_pure hf
  exact ⟨a, rfl, by simpa using hp⟩

theorem runs_get {s s' : σ} {events : List Event} {r : Except ε σ}
    (h : Runs between (MonadState.get : Attempt σ ε σ).run s events r s') :
    events = [] ∧ r = .ok s ∧ s' = s := by
  obtain ⟨a, rfl, hp⟩ := runs_lift (p := MonadState.get) h
  obtain ⟨rfl, rfl, rfl⟩ := Program.runs_get hp
  exact ⟨rfl, rfl, rfl⟩

theorem runs_modify {f : σ → σ} {s s' : σ} {events : List Event} {r : Except ε Unit}
    (h : Runs between (modify f : Attempt σ ε Unit).run s events r s') :
    events = [] ∧ r = .ok () ∧ s' = f s := by
  obtain ⟨a, rfl, hp⟩ := runs_lift (p := modify f) h
  obtain ⟨rfl, rfl⟩ := Program.runs_modify hp
  exact ⟨rfl, rfl, rfl⟩

theorem runs_lift_bind {p : Program σ α} {f : α → Attempt σ ε β} {s s' : σ} {events : List Event}
    {r : Except ε β} (h : Runs between (Attempt.lift p >>= f).run s events r s') :
    ∃ first a t second, Runs between p s first a t ∧ Runs between (f a).run t second r s' ∧
      events = first ++ second := by
  rcases runs_bind h with ⟨e, -, hp⟩ | ⟨first, a, t, second, hp, hf, rfl⟩
  · obtain ⟨_, hr, -⟩ := runs_lift hp
    cases hr
  · obtain ⟨_, hr, hp⟩ := runs_lift hp
    cases hr
    exact ⟨first, a, t, second, hp, hf, rfl⟩

theorem runs_get_bind {f : σ → Attempt σ ε β} {s s' : σ} {events : List Event} {r : Except ε β}
    (h : Runs between ((MonadState.get : Attempt σ ε σ) >>= f).run s events r s') :
    Runs between (f s).run s events r s' := by
  obtain ⟨first, a, t, second, hp, hf, rfl⟩ := runs_lift_bind (p := MonadState.get) h
  obtain ⟨rfl, rfl, rfl⟩ := Program.runs_get hp
  exact hf

theorem runs_modify_bind {g : σ → σ} {f : PUnit → Attempt σ ε β} {s s' : σ} {events : List Event}
    {r : Except ε β} (h : Runs between ((modify g : Attempt σ ε PUnit) >>= f).run s events r s') :
    Runs between (f ()).run (g s) events r s' := by
  obtain ⟨first, a, t, second, hp, hf, rfl⟩ := runs_lift_bind (p := modify g) h
  obtain ⟨rfl, rfl⟩ := Program.runs_modify hp
  exact hf

theorem runs_throw_bind {e : ε} {f : α → Attempt σ ε β} {s s' : σ} {events : List Event}
    {r : Except ε β} (h : Runs between ((throw e : Attempt σ ε α) >>= f).run s events r s') :
    events = [] ∧ r = .error e ∧ s' = s := by
  rcases runs_bind h with ⟨_, rfl, hp⟩ | ⟨_, _, _, _, hp, -, rfl⟩
  · obtain ⟨rfl, hr, rfl⟩ := runs_throw hp
    cases hr
    exact ⟨rfl, rfl, rfl⟩
  · cases (runs_throw hp).2.1

theorem runs_mapError {f : ε → ε'} {p : Attempt σ ε α} {s s' : σ} {events : List Event}
    {r : Except ε' α} (h : Runs between (p.mapError f).run s events r s') :
    ∃ r', r = r'.mapError f ∧ Runs between p.run s events r' s' := by
  obtain ⟨first, r', t, second, hp, hf, rfl⟩ :=
    Program.runs_bind (p := p.run) (f := fun r => pure (r.mapError f)) h
  obtain ⟨rfl, rfl, rfl⟩ := Program.runs_pure hf
  exact ⟨r', rfl, by simpa using hp⟩

end Attempt

/-! ## Frames -/

section Frames

open Program

variable {σ τ ε ε' α β : Type} {between holds : Interference σ}

/-- A frame: it holds of doing nothing and of one thing after the other. -/
structure Frame (holds : Interference σ) : Prop where
  refl : ∀ s, holds s [] s
  trans : ∀ {s t s' first second}, holds s first t → holds t second s' → holds s (first ++ second) s'

/-- All runs of a program keep to a frame. -/
def Program.Obeys (between holds : Interference σ) (p : Program σ α) : Prop :=
  ∀ s events a s', Runs between p s events a s' → holds s events s'

theorem Program.obeys_modifyGet {f : σ → α × σ} (h : ∀ s, holds s [] (f s).2) :
    Obeys between holds (modifyGet f : Program σ α) := by
  intro s events a s' hrun
  obtain ⟨rfl, -, rfl⟩ := runs_modifyGet hrun
  exact h s

theorem Program.obeys_modify {f : σ → σ} (h : ∀ s, holds s [] (f s)) :
    Obeys between holds (modify f : Program σ Unit) :=
  obeys_modifyGet h

theorem Program.obeys_call {c : Call}
    (h : ∀ {s during s'}, between s during s' → ∀ reply : c.Reply,
      holds s (.asked c :: during ++ [.answered c reply]) s') :
    Obeys between holds (call c : Program σ c.Reply) := by
  intro s events reply s' hrun
  obtain ⟨during, hduring, rfl⟩ := runs_call hrun
  exact h hduring reply

/-- What two programs keep to, one after the other. -/
theorem Program.obeys_andThen {first second whole : Interference σ}
    (hwhole : ∀ {s t s' before after}, first s before t → second t after s' →
      whole s (before ++ after) s')
    {p : Program σ α} {f : α → Program σ β} (hp : Obeys between first p)
    (hf : ∀ a, Obeys between second (f a)) : Obeys between whole (p >>= f) := by
  intro s events b s' h
  obtain ⟨before, a, t, after, h₁, h₂, rfl⟩ := runs_bind h
  exact hwhole (hp _ _ _ _ h₁) (hf a _ _ _ _ h₂)

theorem Attempt.obeys_lift {p : Program σ α} (hp : Obeys between holds p) :
    Obeys between holds (Attempt.lift p : Attempt σ ε α).run := by
  intro s events r s' h
  obtain ⟨a, -, h⟩ := Attempt.runs_lift h
  exact hp _ _ _ _ h

theorem Attempt.obeys_modify {f : σ → σ} (h : ∀ s, holds s [] (f s)) :
    Obeys between holds (modify f : Attempt σ ε Unit).run := by
  intro s events r s' hrun
  obtain ⟨rfl, -, rfl⟩ := Attempt.runs_modify hrun
  exact h s

theorem Attempt.obeys_mapError (f : ε → ε') {p : Attempt σ ε α} (hp : Obeys between holds p.run) :
    Obeys between holds (p.mapError f).run := by
  intro s events r s' h
  obtain ⟨r', -, h⟩ := Attempt.runs_mapError h
  exact hp _ _ _ _ h

namespace Frame

variable (hframe : Frame holds)

include hframe

theorem obeys_pure (a : α) : Obeys between holds (pure a : Program σ α) := by
  intro s events b s' h
  obtain ⟨rfl, rfl, rfl⟩ := runs_pure h
  exact hframe.refl s'

theorem obeys_get : Obeys between holds (MonadState.get : Program σ σ) := by
  intro s events b s' h
  obtain ⟨rfl, rfl, rfl⟩ := runs_get h
  exact hframe.refl s'

theorem obeys_zoom_get {view : σ → τ} {update : τ → σ → σ} :
    Obeys between holds ((MonadState.get : Program τ τ).zoom view update) := by
  intro s events b s' h
  obtain ⟨rfl, -, rfl⟩ := runs_zoom_get h
  exact hframe.refl s'

theorem obeys_bind {p : Program σ α} {f : α → Program σ β} (hp : Obeys between holds p)
    (hf : ∀ a, Obeys between holds (f a)) : Obeys between holds (p >>= f) := by
  refine obeys_andThen ?_ hp hf
  exact hframe.trans

/-- What a program on a part keeps to, whatever it is, if neither changes of the part nor calls leave
the frame. -/
theorem obeys_zoom {view : σ → τ} {update : τ → σ → σ} (hupdate : ∀ t s, holds s [] (update t s))
    (hcall : ∀ c, Obeys between holds (call c : Program σ c.Reply)) (p : Program τ α) :
    Obeys between holds (p.zoom view update) := by
  intro s events a s' h
  induction p generalizing s events with
  | done b =>
    cases h with
    | done => exact hframe.refl _
  | get next ih =>
    cases h with
    | get h => exact ih _ _ _ h
  | set t next ih =>
    cases h with
    | get h =>
      cases h with
      | set h => exact hframe.trans (hupdate t s) (ih _ _ h)
  | ask c next ih =>
    cases h with
    | @ask _ _ _ _ _ reply _ _ _ hbetween h =>
      have hasked := hcall c _ _ reply _ (.ask hbetween .done)
      have hboth := hframe.trans hasked (ih _ _ _ h)
      simpa using hboth

theorem obeys_forM (f : α → Program σ PUnit) (hf : ∀ a, Obeys between holds (f a)) (l : List α) :
    Obeys between holds (l.forM f) := by
  induction l with
  | nil => exact hframe.obeys_pure _
  | cons a l ih => exact hframe.obeys_bind (hf a) fun _ => ih

theorem attempt_pure (a : α) : Obeys between holds (pure a : Attempt σ ε α).run :=
  hframe.obeys_pure _

theorem attempt_throw (e : ε) : Obeys between holds (throw e : Attempt σ ε α).run :=
  hframe.obeys_pure _

/-- Nothing behind a failure is run. -/
theorem attempt_throw_bind (e : ε) (f : α → Attempt σ ε β) :
    Obeys between holds ((throw e : Attempt σ ε α) >>= f).run := by
  intro s events r s' h
  obtain ⟨rfl, -, rfl⟩ := Attempt.runs_throw_bind h
  exact hframe.refl s'

theorem attempt_get : Obeys between holds (MonadState.get : Attempt σ ε σ).run :=
  Attempt.obeys_lift hframe.obeys_get

theorem attempt_bind {p : Attempt σ ε α} {f : α → Attempt σ ε β} (hp : Obeys between holds p.run)
    (hf : ∀ a, Obeys between holds (f a).run) : Obeys between holds (p >>= f).run := by
  intro s events r s' h
  rcases Attempt.runs_bind h with ⟨e, -, h⟩ | ⟨first, a, t, second, h₁, h₂, rfl⟩
  · exact hp _ _ _ _ h
  · exact hframe.trans (hp _ _ _ _ h₁) (hf a _ _ _ _ h₂)

theorem attempt_forM (f : α → Attempt σ ε PUnit) (hf : ∀ a, Obeys between holds (f a).run)
    (l : List α) : Obeys between holds (l.forM f).run := by
  induction l with
  | nil => exact hframe.attempt_pure _
  | cons a l ih => exact hframe.attempt_bind (hf a) fun _ => ih

end Frame

end Frames

/-! ## Interrupts -/

section Interrupts

variable {σ ω α : Type}

open Program

/-- Any number of interrupts one after the other. -/
inductive Repeats (handler : Program σ Unit) (between : Interference σ) : Interference σ where
  | never {s : σ} : Repeats handler between s [] s
  | again {s t s' : σ} {first rest : List Event} : Runs between handler s first () t →
      Repeats handler between t rest s' →
      Repeats handler between s (.interrupted :: first ++ rest) s'

/-- Interrupts inside any call, `depth` of them inside each other. -/
def interrupts (handler : Program σ Unit) : Nat → Interference σ
  | 0 => fun s events s' => events = [] ∧ s' = s
  | depth + 1 => Repeats handler (interrupts handler depth)

theorem interrupts_quiet (handler : Program σ Unit) (depth : Nat) (s : σ) :
    interrupts handler depth s [] s := by
  cases depth with
  | zero => exact ⟨rfl, rfl⟩
  | succ depth => exact .never

theorem Repeats.trans {handler : Program σ Unit} {between : Interference σ} {s t s' : σ}
    {first second : List Event} (h₁ : Repeats handler between s first t)
    (h₂ : Repeats handler between t second s') : Repeats handler between s (first ++ second) s' := by
  induction h₁ with
  | never => exact h₂
  | again hrun _ ih => simpa using Repeats.again hrun (ih h₂)

theorem Repeats.one {handler : Program σ Unit} {between : Interference σ} {s s' : σ}
    {events : List Event} (h : Runs between handler s events () s') :
    Repeats handler between s (.interrupted :: events) s' := by
  simpa using Repeats.again h .never

/-- What an interrupt keeps to, if those inside it do, any number of them keeps to. -/
theorem interrupts_frame {handler : Program σ Unit} {holds : Interference σ} (hframe : Frame holds)
    (hhandler : ∀ between : Interference σ,
      (∀ s events s', between s events s' → holds s events s') →
      ∀ s events s', Runs between handler s events () s' → holds s (.interrupted :: events) s')
    (depth : Nat) {s s' : σ} {events : List Event} (h : interrupts handler depth s events s') :
    holds s events s' := by
  induction depth generalizing s events s' with
  | zero =>
    obtain ⟨rfl, rfl⟩ := h
    exact hframe.refl s'
  | succ depth ih =>
    -- what arrives inside the handler is less deep, so it stays in the frame
    have hbetween := hhandler (interrupts handler depth) fun s events s' h => ih h
    unfold interrupts at h
    induction h with
    | never => exact hframe.refl _
    | again hrun _ ihrest => exact hframe.trans (hbetween _ _ _ hrun) ihrest

/-! ## Environments -/

end Interrupts

end QueryShell
