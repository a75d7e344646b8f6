/-
# What is built

A builder is called over and over, and any addition can fail.  What it builds is made of the
additions that succeeded, in order, and a failure is not to be seen in it (`builds_succeeded`).

An addition that fails halfway leaves something behind all the same: its template in the cache, the
styles it has warned about in the registry.  Two things keep this out of the text.

* **The text of an addition is steady** (`closed_steady`): it depends on the styles and the
  fallback of the registry alone, and both stay as they are.
* **In a session it is the same** (`performs_addition`), because the cache gives what reading gives.

So an addition has the same outcome at any moment (`Addition.part`), and a builder holds the parts
of those that had one (`Holds`).
-/
import Phrasing.Builder
import Phrasing.Proofs.Session.Afresh

namespace Phrasing

/-! ## 1. Texts of additions -/

namespace Rendering

variable {o : Options} {P : (α : Type) → Rendering α → Prop}

theorem Closed.lift {α : Type} (h : Closed o P) (x : Except Failure α) :
    P α (liftM x : Rendering α) := by
  cases x with
  | ok a => exact h.pure a
  | error f => exact h.throw f

theorem Closed.render (h : Closed o P) (source : Text) (d : Data) :
    P Text (Message.render o source d) := by
  have hparse : P Template (parse source) := by
    unfold parse
    split
    · exact h.pure _
    · exact h.throw _
  exact h.bind hparse fun t => h.bind (h.contextOf d []) fun c => h.template c t

theorem Closed.renderEach (h : Closed o P) (style : Option Text) (ds : List Data) :
    P (List Text) (Message.renderEach o style ds) := by
  induction ds with
  | nil => exact h.pure []
  | cons d ds ih =>
    have hvalue : P Value (valueOf d) := by
      unfold valueOf
      split
      · exact h.pure _
      · exact h.throw _
    refine h.bind hvalue fun v => h.bind (h.value ⟨0, []⟩ style v) fun t => ?_
    exact h.bind ih fun ts => h.pure (t :: ts)

/-- **A closed property holds of the texts of additions.** -/
theorem Closed.addition (h : Closed o P) (a : Addition) : P Text (a.text o) := by
  cases a with
  | line source d => exact h.render source d
  | inline source d => exact h.render source d
  | bullet name source d =>
    exact h.bind (h.lift _) fun mark => h.bind (h.render source d) fun t => h.pure _
  | items d style changes =>
    refine h.bind (h.lift _) fun elements => h.bind (h.renderEach style elements) fun texts => ?_
    exact h.bind (h.lift _) fun rules => h.enumerate rules texts
  | blank => exact h.pure []

end Rendering

/-- What an addition adds to a message, with the styles of a registry. -/
def Addition.part (o : Options) (r : Registry) (a : Addition) : Except Failure (Text × Placement) :=
  (Rendering.perform (a.text o) ⟨r, []⟩).1.map fun t => (t, a.placement)

/-- A message is extended by the part of the addition. -/
theorem Message.perform_extend_fst (m : Message) (o : Options) (r : Registry) (a : Addition) :
    (Rendering.perform (m.extend o a) ⟨r, []⟩).1 =
      (a.part o r).map fun part => m.add part.1 part.2 := by
  rw [extend, Rendering.perform_bind, Addition.part]
  match Rendering.perform (a.text o) ⟨r, []⟩ with
  | (.ok t, bench) => rfl
  | (.error f, bench) => rfl

namespace Session

variable {α β : Type} {s : Session} {r : Registry}

/-! ## 2. Additions in a session -/

/-- A step in a session that comes to what a step of rendering comes to on the workbench of the
session; beside that, only the cache may notice, and it goes on giving what reading gives. -/
def Performs (step : Step α) (m : Rendering α) : Prop :=
  ∀ s : Session, s.cache.Fresh → ∃ cache : TemplateCache, cache.Fresh ∧
    step.run s =
      ((Rendering.perform m ⟨s.registry, s.notices⟩).1,
        ⟨(Rendering.perform m ⟨s.registry, s.notices⟩).2.registry, cache,
          (Rendering.perform m ⟨s.registry, s.notices⟩).2.notices⟩)

theorem performs_perform (m : Rendering α) : Performs (perform none m) m := by
  intro s hs
  exact ⟨s.cache, hs, run_perform none m s⟩

theorem Performs.bind_pure {step : Step α} {m : Rendering α} (h : Performs step m) (f : α → β) :
    Performs (do return f (← step)) (do return f (← m)) := by
  intro s hs
  obtain ⟨cache, hcache, hrun⟩ := h s hs
  refine ⟨cache, hcache, ?_⟩
  rw [run_bind, hrun, Rendering.perform_bind]
  match Rendering.perform m ⟨s.registry, s.notices⟩ with
  | (.ok a, bench) => rfl
  | (.error f, bench) => rfl

theorem performs_render (o : Options) (source : Text) (d : Data) :
    Performs (render o none source d []) (Message.render o source d) := by
  intro s hs
  refine ⟨_, hs.get ⟨source, .braces⟩, ?_⟩
  rw [run_render hs, Message.render, Rendering.parse]
  cases Template.parse .braces source with
  | error f => rfl
  | ok t => exact run_perform none _ _

/-- **The text of an addition is no other in a session.** -/
theorem performs_addition (o : Options) (a : Addition) : Performs (addition o a) (a.text o) := by
  cases a with
  | line source d => exact performs_render o source d
  | inline source d => exact performs_render o source d
  | bullet name source d =>
    rw [addition, Addition.text]
    cases bulletMark name o.capability with
    | error f => exact fun s hs => ⟨s.cache, hs, rfl⟩
    | ok mark => exact (performs_render o source d).bind_pure _
  | items d style changes => exact performs_perform (Addition.text o (.items d style changes))
  | blank => exact performs_perform (Addition.text o .blank)

/-- A session in which the styles of a registry are there, and templates are what reading gives. -/
structure Provides (s : Session) (r : Registry) : Prop where
  fresh : s.cache.Fresh
  alike : Workbench.Alike ⟨s.registry, s.notices⟩ ⟨r, []⟩

theorem Provides.addition (h : s.Provides r) (o : Options) (a : Addition) :
    (((addition o a).run s).1.map fun t => (t, a.placement)) = a.part o r ∧
      ((addition o a).run s).2.Provides r := by
  have hsteady := (Rendering.closed_steady o).addition a
  obtain ⟨cache, hcache, hrun⟩ := performs_addition o a s h.fresh
  rw [hrun]
  constructor
  · rw [hsteady.result _ _ h.alike]
    rfl
  · have hkeeps := hsteady.keeps ⟨s.registry, s.notices⟩
    exact ⟨hcache, hkeeps.trans h.alike⟩

end Session

namespace Builder

variable {o : Options} {r : Registry} {b : Builder} {parts more : List (Text × Placement)}

/-! ## 3. Calls -/

theorem serve_add_of_ok {a : Addition} {t : Text} {s : Session}
    (h : (Session.addition b.options a).run b.session = (.ok t, s)) :
    b.serve (.add a) =
      (.added, { b with session := s, message := b.message.add t a.placement }) := by
  rw [serve, h]

theorem serve_add_of_error {a : Addition} {f : Failure} {s : Session}
    (h : (Session.addition b.options a).run b.session = (.error f, s)) :
    b.serve (.add a) = (.failed f, { b with session := s }) := by
  rw [serve, h]

/-- The builder has some options and parts, in a session with the styles of a registry. -/
structure Holds (o : Options) (r : Registry) (parts : List (Text × Placement)) (b : Builder) :
    Prop where
  options : b.options = o
  session : b.session.Provides r
  message : b.message = ⟨parts⟩

theorem Holds.build (h : b.Holds o r parts) :
    b.serve .build = (.text (Assembly.compose o.indent parts), b) := by
  obtain ⟨rfl, -, hmessage⟩ := h
  rw [serve, hmessage]
  rfl

/-- **An addition that has a part is made**, whatever was before. -/
theorem Holds.add_of_ok (h : b.Holds o r parts) {a : Addition} {part : Text × Placement}
    (ha : a.part o r = .ok part) :
    ∃ b', b.serve (.add a) = (.added, b') ∧ b'.Holds o r (parts ++ [part]) := by
  obtain ⟨rfl, hsession, hmessage⟩ := h
  obtain ⟨hpart, hafter⟩ := hsession.addition b.options a
  rw [ha] at hpart
  match hrun : (Session.addition b.options a).run b.session with
  | (.ok t, s) =>
    rw [hrun] at hpart hafter
    cases hpart
    refine ⟨_, serve_add_of_ok hrun, rfl, hafter, ?_⟩
    rw [hmessage]
    rfl
  | (.error f, s) =>
    rw [hrun] at hpart
    cases hpart

/-- **An addition that has none fails**, and the parts are those from before. -/
theorem Holds.add_of_error (h : b.Holds o r parts) {a : Addition} {f : Failure}
    (ha : a.part o r = .error f) :
    ∃ b', b.serve (.add a) = (.failed f, b') ∧ b'.Holds o r parts := by
  obtain ⟨rfl, hsession, hmessage⟩ := h
  obtain ⟨hpart, hafter⟩ := hsession.addition b.options a
  rw [ha] at hpart
  match hrun : (Session.addition b.options a).run b.session with
  | (.ok t, s) =>
    rw [hrun] at hpart
    cases hpart
  | (.error f', s) =>
    rw [hrun] at hpart hafter
    cases hpart
    exact ⟨_, serve_add_of_error hrun, rfl, hafter, hmessage⟩

/-- An addition does to the message what it would do without a session; if it fails, it does
nothing. -/
theorem Holds.add (h : b.Holds o r parts) (a : Addition) :
    let (answer, b') := b.serve (.add a)
    match (Rendering.perform (b.message.extend o a) ⟨r, []⟩).1 with
    | .ok m => answer = .added ∧ b'.message = m
    | .error f => answer = .failed f ∧ b'.message = b.message := by
  rw [Message.perform_extend_fst]
  cases ha : a.part o r with
  | ok part =>
    obtain ⟨b', hserve, hholds⟩ := h.add_of_ok ha
    rw [hserve, h.message]
    exact ⟨rfl, hholds.message⟩
  | error f =>
    obtain ⟨b', hserve, hholds⟩ := h.add_of_error ha
    rw [hserve, h.message]
    exact ⟨rfl, hholds.message⟩

/-! ## 4. Runs -/

/-- The additions among the calls that the builder answers with success. -/
def succeeded (b : Builder) : List Call → List Addition
  | [] => []
  | .build :: calls => b.succeeded calls
  | .add a :: calls =>
    match b.serve (.add a) with
    | (.added, b') => a :: b'.succeeded calls
    | (_, b') => b'.succeeded calls

theorem after_cons (b : Builder) (c : Call) (calls : List Call) :
    b.after (c :: calls) = (b.serve c).2.after calls := rfl

/-- **After any calls**, a builder has the parts of the additions that succeeded. -/
theorem Holds.after (h : b.Holds o r parts) (calls : List Call) :
    ∃ more, (b.succeeded calls).mapM (Addition.part o r) = .ok more ∧
      (b.after calls).Holds o r (parts ++ more) := by
  induction calls generalizing b parts with
  | nil =>
    refine ⟨[], rfl, ?_⟩
    rw [List.append_nil]
    exact h
  | cons c calls ih =>
    cases c with
    -- what is built is an answer only, the builder stays the same
    | build => exact ih h
    | add a =>
      rw [after_cons, succeeded]
      cases ha : a.part o r with
      | ok part =>
        obtain ⟨b', hserve, hafter⟩ := h.add_of_ok ha
        obtain ⟨more, hmore, hholds⟩ := ih hafter
        refine ⟨part :: more, ?_, ?_⟩
        · rw [hserve, List.mapM_cons, ha, hmore]
          rfl
        · rw [hserve, List.append_cons]
          exact hholds
      | error f =>
        obtain ⟨b', hserve, hafter⟩ := h.add_of_error ha
        rw [hserve]
        exact ih hafter

/-- Additions that have parts all succeed, one after the other. -/
theorem Holds.after_additions (h : b.Holds o r parts) {as : List Addition}
    (has : as.mapM (Addition.part o r) = .ok more) :
    b.succeeded (as.map .add) = as ∧ (b.after (as.map .add)).Holds o r (parts ++ more) := by
  induction as generalizing b parts more with
  | nil =>
    rw [List.mapM_nil] at has
    cases has
    rw [List.append_nil]
    exact ⟨rfl, h⟩
  | cons a as ih =>
    rw [List.mapM_cons] at has
    obtain ⟨part, ha, htail⟩ := bind_eq_ok.mp has
    obtain ⟨rest, hrest, hmore⟩ := bind_eq_ok.mp htail
    cases hmore
    obtain ⟨b', hserve, hafter⟩ := h.add_of_ok ha
    obtain ⟨hsucceeded, hholds⟩ := ih hafter hrest
    rw [List.map_cons, succeeded, after_cons, hserve, List.append_cons]
    exact ⟨congrArg _ hsucceeded, hholds⟩

/-- **A builder builds the additions that succeeded, and a failure leaves no trace in what it
builds.**  Let a builder be started in a session, after any requests, and be given any calls.

* It builds the parts of the additions that succeeded, in order, and building changes nothing.
* The next addition does to the message what it would have done at the start and without a session;
  if it fails, the message stays as it is.
* The session still provides the styles from before.  In any session that does, a fresh builder that
  is given only the additions that succeeded makes all of them, and builds the same. -/
theorem builds_succeeded (o : Options) (own : Option Registry) (past : List Session.Request)
    (calls : List Call) :
    let s := Session.after past
    let r := own.getD s.registry
    let b := (start o own s).after calls
    let made := (start o own s).succeeded calls
    ∃ parts, made.mapM (Addition.part o r) = .ok parts ∧
      b.serve .build = (.text (Assembly.compose o.indent parts), b) ∧
      (∀ a,
        let (answer, b') := b.serve (.add a)
        match (Rendering.perform (b.message.extend o a) ⟨r, []⟩).1 with
        | .ok m => answer = .added ∧ b'.message = m
        | .error f => answer = .failed f ∧ b'.message = b.message) ∧
      b.session.Provides r ∧
      ∀ s' : Session, s'.Provides r →
        let b' := start o none s'
        b'.succeeded (made.map .add) = made ∧
          ((b'.after (made.map .add)).serve .build).1 =
            .text (Assembly.compose o.indent parts) := by
  intro s r b made
  have hstart : (start o own s).Holds o r [] :=
    ⟨rfl, ⟨(Session.tracks_after past).fresh, rfl, rfl⟩, rfl⟩
  obtain ⟨parts, hparts, hholds⟩ := hstart.after calls
  rw [List.nil_append] at hholds
  refine ⟨parts, hparts, hholds.build, hholds.add, hholds.session, fun s' hs' => ?_⟩
  have hstart' : (start o none s').Holds o r [] := ⟨rfl, hs', rfl⟩
  obtain ⟨hsucceeded, hholds'⟩ := hstart'.after_additions hparts
  rw [List.nil_append] at hholds'
  exact ⟨hsucceeded, congrArg Prod.fst hholds'.build⟩

/-- A bullet without a mark and a name that stands for nothing, between a line and its
continuation. -/
example :
    let calls : List Call :=
      [.add (.line ['a'] (.mapping [])), .add (.bullet "star".toList ['b'] (.mapping [])), .build,
        .add (.line "\x7bc\x7d".toList (.mapping [])), .add (.inline ['d'] (.mapping []))]
    ((start Options.standard none Session.start).after calls).message.parts =
      [(['a'], .block), (['d'], .inline)] := by
  decide +kernel

end Builder

end Phrasing
